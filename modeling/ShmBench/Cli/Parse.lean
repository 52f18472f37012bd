import ShmBench.Cli.Grammar
import ShmBench.Text.Numeral
import ShmBench.Text.Similarity

/-!
# Reading the command line

The arguments are read left to right, one level at a time: the program's own
options up to the first command name, then the command's options
(`readLine`).  Within a level:

* `--` ends the options: every later argument is positional;
* `--name` and `--name=value` are long options, and `-abc` is a cluster of
  short ones in which the first letter that takes a value takes the rest of
  the cluster (less a leading `=`) as its value;
* an argument that follows an option still waiting for a value is that value,
  unless it looks like an option itself; an option that may go without one
  then takes its stand-in;
* anything else is the positional argument, or a command name, or an error.

An option given twice on one level is an error; a global option given on
both levels takes the command's value.  Help and version stop the reading at
once, as does the first error (`Halt`).

Errors name the option as `--long <VALUE>` and end with a usage line: the
plain usage when nothing was given yet, else the options already given
(`Scope.usageWith`).  An unknown name is answered with the most alike known
name, if one is alike enough (`Similarity`).
-/

namespace ShmBench
namespace Cli

/-- **A value given on the command line.** -/
inductive Value where
  /-- A switch that was given. -/
  | flag
  | text (s : String)
  | number (n : Nat)
  deriving DecidableEq, Repr

/-- **Why a command line was refused.** -/
inductive UsageError where
  | unknownArgument (arg : String) (similar : Option String) (tips : List String) (usage : String)
  | unneededValue (value arg usage : String)
  | missingValue (arg : String)
  | invalidValue (value arg reason : String)
  | repeated (arg usage : String)
  | unknownCommand (name : String) (similar : List String) (usage : String)
  /-- A name after `help help`: the help command has no `--help` to point to. -/
  | unknownHelpTopic (name : String)
  | missingCommand (usage : String)
  | missingArguments (args : List String) (usage : String)
  deriving DecidableEq, Repr

namespace UsageError

/-- Names in quotes, joined by commas. -/
def quotedList (names : List String) : String := ", ".intercalate (names.map fun n => "'" ++ n ++ "'")

/-- The tip naming alike commands. -/
def commandTip (similar : List String) : String :=
  (if similar.length == 1 then "a similar subcommand exists: " else "some similar subcommands exist: ") ++
    quotedList similar

/-- The first line, the tips, and the usage, if the error has one. -/
def parts : UsageError → String × List String × Option String
  | .unknownArgument a similar tips u =>
    (s!"unexpected argument '{a}' found",
      (similar.map fun s => ["a similar argument exists: '" ++ s ++ "'"]).getD [] ++ tips, some u)
  | .unneededValue v a u => (s!"unexpected value '{v}' for '{a}' found; no more were expected", [], some u)
  | .missingValue a => (s!"a value is required for '{a}' but none was supplied", [], none)
  | .invalidValue v a r => (s!"invalid value '{v}' for '{a}': {r}", [], none)
  | .repeated a u => (s!"the argument '{a}' cannot be used multiple times", [], some u)
  | .unknownCommand n similar u =>
    (s!"unrecognized subcommand '{n}'", if similar.isEmpty then [] else [commandTip similar], some u)
  | .unknownHelpTopic n => (s!"unrecognized subcommand '{n}'", [], some Help.helpUsage)
  | .missingCommand u =>
    ("'" ++ programName ++ "' requires a subcommand but one was not provided\n  [subcommands: " ++
      ", ".intercalate commandNames ++ "]", [], some u)
  | .missingArguments args u =>
    ("the following required arguments were not provided:" ++ String.join (args.map ("\n  " ++ ·)), [],
      some u)

/-- Whether the command the error arose in has a `--help` to point to. -/
def hasHelpFlag : UsageError → Bool
  | .unknownHelpTopic _ => false
  | _ => true

/-- **The error as printed**: the first line, a blank line and the tips if
there are any, the usage, and where to look for more when there is a `--help`. -/
def render (e : UsageError) : String :=
  let (head, tips, usage) := e.parts
  "error: " ++ head ++
    (if tips.isEmpty then "" else "\n" ++ String.join (tips.map ("\n  tip: " ++ ·))) ++
    (match usage with
      | some u => "\n\nUsage: " ++ u
      | none => "") ++
    (if e.hasHelpFlag then "\n\nFor more information, try '--help'.\n" else "\n")

end UsageError

/-- **How reading stopped before the end.** -/
inductive Halt where
  /-- Help was asked for: the text goes to standard output. -/
  | help (text : String)
  /-- The version was asked for. -/
  | version
  /-- Nothing at all was given: the program's help goes to standard error. -/
  | bareHelp
  | refused (e : UsageError)
  deriving DecidableEq, Repr

/-- **What one level gave**: option values in the order first given, and the
positional argument. -/
structure Given where
  values : List (String × Value) := []
  positional : Option String := none
  deriving DecidableEq, Repr

namespace Given

/-- The value of an option. -/
def get? (g : Given) (id : String) : Option Value := g.values.lookup id

/-- Whether a switch was given. -/
def flag (g : Given) (id : String) : Bool := (g.get? id).isSome

/-- The text of an option. -/
def text? (g : Given) (id : String) : Option String :=
  match g.get? id with
  | some (.text s) => some s
  | _ => none

/-- The number of an option. -/
def number? (g : Given) (id : String) : Option Nat :=
  match g.get? id with
  | some (.number n) => some n
  | _ => none

end Given

/-- **A level of the command line**: how usage names it, the options it
accepts in look-up order, its positional argument, the command names it
knows, its help and its plain usage. -/
structure Scope where
  path : String
  options : List OptionSpec
  positional : Option PositionalSpec := none
  commandNames : List String := []
  help : String
  usage : String

namespace Scope

/-- The program's own level. -/
def top : Scope :=
  { path := programName, options := topOptions, commandNames := Cli.commandNames, help := Help.top,
    usage := Help.topUsage }

/-- A command's level. -/
def ofCommand (c : CommandSpec) : Scope :=
  { path := programName ++ " " ++ c.name, options := c.accepted, positional := c.positional,
    help := Help.command c, usage := Help.commandUsage c }

/-- The option of an id. -/
def find? (s : Scope) (id : String) : Option OptionSpec := s.options.find? (·.id == id)

/-- **The usage naming what was used**: the plain usage when nothing was,
else the options used, then the positional argument and the command, which
are required. -/
def usageWith (s : Scope) (used : List String) : String :=
  if used.isEmpty then s.usage
  else
    s.path ++ String.join ((used.filterMap s.find?).map (" " ++ ·.display)) ++
      (match s.positional with
        | some p => " " ++ p.display
        | none => "") ++
      (if s.commandNames.isEmpty then "" else " <COMMAND>")

end Scope

/-- **A level being read**: what it gave so far, the option waiting for its
value, and whether `--` was seen. -/
structure Reading where
  given : Given := {}
  pending : Option OptionSpec := none
  escaped : Bool := false

/-- The ids of the options given so far. -/
def Reading.used (r : Reading) : List String := r.given.values.map (·.1)

/-- The tip for passing a dashed argument as a value. -/
def trailingTip (arg : String) : String := s!"to pass '{arg}' as a value, use '-- {arg}'"

/-- **Check a value** as its option requires. -/
def checkValue (o : OptionSpec) (raw : String) : Except UsageError Value :=
  match o.kind with
  | .text => .ok (.text raw)
  | .path => if raw.isEmpty then .error (.missingValue o.display) else .ok (.text raw)
  | .ranged lo hi =>
    match Numeral.read .i64 raw with
    | .error e => .error (.invalidValue raw o.display e.message)
    | .ok n =>
      if lo ≤ n && n ≤ hi then .ok (.number n.toNat)
      else .error (.invalidValue raw o.display s!"{n} is not in {lo}..={hi}")
  | .atLeast lo =>
    match Numeral.readNat .u64 raw with
    | .error e => .error (.invalidValue raw o.display e.message)
    | .ok n =>
      if lo ≤ n then .ok (.number n)
      else .error (.invalidValue raw o.display s!"{n} is not in {lo}..18446744073709551615")
  | .size =>
    match Numeral.readNat .u64 raw with
    | .error e => .error (.invalidValue raw o.display e.message)
    | .ok n => .ok (.number n)

/-- **Give an option**, with its value or without one. -/
def react (s : Scope) (r : Reading) (o : OptionSpec) (raw : Option String) : Except Halt Reading :=
  match o.action with
  | .help => .error (.help s.help)
  | .version => .error .version
  | .store =>
    let raw := match raw, o.takes with
      | none, .optional _ missing => some missing
      | raw, _ => raw
    match o.takes, raw with
    | .one _, none => .error (.refused (.missingValue o.display))
    | _, _ =>
      if r.used.contains o.id then .error (.refused (.repeated o.display s.usage))
      else
        let add (v : Value) : Reading := { r with given := { r.given with values := r.given.values ++ [(o.id, v)] } }
        match raw with
        | none => .ok (add .flag)
        | some v => match checkValue o v with
          | .ok val => .ok (add val)
          | .error e => .error (.refused e)

/-- Give the waiting option without a value. -/
def resolve (s : Scope) (r : Reading) : Except Halt Reading :=
  match r.pending with
  | none => .ok r
  | some o => react s { r with pending := none } o none

/-- Give the waiting option without a value, going on without it if that fails. -/
def resolveQuietly (s : Scope) (r : Reading) : Reading :=
  match resolve s r with
  | .ok r => r
  | .error _ => { r with pending := none }

/-- A long argument's name and its value after `=`. -/
def splitLong (body : String) : String × Option String :=
  match body.toList.span (· != '=') with
  | (name, []) => (String.ofList name, none)
  | (name, _ :: v) => (String.ofList name, some (String.ofList v))

/-- The earliest of the commands named later on the line that has an option
alike to `name`: the command and the option. -/
def commandOptionTip (name : String) (rest : List String) : Option (String × String) :=
  let found := commands.filterMap fun c => do
    let cand ← Similarity.best? name (c.accepted.map (·.long))
    let pos ← rest.idxOf? c.name
    pure (pos, c.name, cand)
  (found.foldl (fun (best : Option (Nat × String × String)) x =>
    match best with
    | some b => if x.1 < b.1 then some x else some b
    | none => some x) none).map (·.2)

/-- **The error for an unknown long option.** -/
def unknownLong (s : Scope) (r : Reading) (name : String) (rest : List String) : UsageError :=
  let arg := "--" ++ name
  match Similarity.best? name (s.options.map (·.long)) with
  | some cand =>
    let used := match s.options.find? (·.long == cand) with
      | some o => if r.used.contains o.id then r.used else r.used ++ [o.id]
      | none => r.used
    .unknownArgument arg (some ("--" ++ cand)) [] (s.usageWith used)
  | none =>
    let tip := if s.commandNames.isEmpty then none else commandOptionTip name rest
    let tips := (if s.positional.isSome && !r.escaped then [trailingTip arg] else []) ++
      (match tip with
        | some (sub, cand) => [s!"'{sub} --{cand}' exists"]
        | none => [])
    .unknownArgument arg none tips (s.usageWith r.used)

/-- **Read a long option.** -/
def long (s : Scope) (r : Reading) (body : String) (rest : List String) : Except Halt Reading := do
  let (name, value) := splitLong body
  match s.options.find? (·.long == name) with
  | some o =>
    if o.takesValue then
      let r ← resolve s r
      match value with
      | some v => react s r o (some v)
      | none => pure { r with pending := some o }
    else
      match value with
      | some v => throw (.refused (.unneededValue v o.display (s.usageWith (r.used ++ [o.id]))))
      | none => react s (← resolve s r) o none
  | none => throw (.refused (unknownLong s (resolveQuietly s r) name rest))

/-- **Read a cluster of short options.** -/
def shorts (s : Scope) (r : Reading) : List Char → Except Halt Reading
  | [] => .ok r
  | c :: more =>
    match s.options.find? (·.short == some c) with
    | none =>
      let arg := "-" ++ toString c
      .error (.refused (.unknownArgument arg none (if s.positional.isSome then [trailingTip arg] else [])
        s.usage))
    | some o =>
      if !o.takesValue then do
        let r ← react s (← resolve s r) o none
        shorts s r more
      else do
        let r ← resolve s r
        match more with
        | [] => pure { r with pending := some o }
        | '=' :: v => react s r o (some (String.ofList v))
        | v => react s r o (some (String.ofList v))

/-- **Read an argument that is no option**: the positional argument, or an error. -/
def positional (s : Scope) (r : Reading) (t : String) : Except Halt Reading := do
  match s.positional with
  | some p =>
    if r.given.positional.isNone then
      let r ← resolve s r
      if t.isEmpty then throw (.refused (.missingValue p.display))
      pure { r with given := { r.given with positional := some t } }
    else throw (.refused (.unknownArgument t none [] s.usage))
  | none =>
    if r.escaped && s.commandNames.contains t then
      throw (.refused (.unknownArgument t none
        [s!"subcommand '{t}' exists; to use it, remove the '--' before it"] s.usage))
    else if !s.commandNames.isEmpty then
      throw (.refused (.unknownCommand t (Similarity.suggestions t s.commandNames) s.usage))
    else throw (.refused (.unknownArgument t none [] s.usage))

/-- **Read one level**: the reading at its end, and the command named and the
arguments after it, if a command was named. -/
def level (s : Scope) : List String → Reading → Except Halt (Reading × Option (String × List String))
  | [], r => do pure (← resolve s r, none)
  | t :: rest, r =>
    if r.escaped then do level s rest (← positional s r t)
    else if r.pending.isNone && s.commandNames.contains t then pure (r, some (t, rest))
    else if t == "--" then level s rest { r with escaped := true }
    else if t.startsWith "--" then do level s rest (← long s r (String.ofList (t.toList.drop 2)) rest)
    else if t.startsWith "-" && t.length > 1 then do level s rest (← shorts s r (t.toList.drop 1))
    else
      match r.pending with
      | some o => do level s rest (← react s { r with pending := none } o (some t))
      | none => do level s rest (← positional s r t)

/-- **What `help` with command names shows**: the help of the command they name. -/
def helpFor : List String → Halt
  | [] => .help Help.top
  | name :: more =>
    if name == "help" then
      match more with
      | [] => .help Help.helpCommand
      | x :: _ => .refused (.unknownHelpTopic x)
    else
      match findCommand name with
      | none => .refused (.unknownCommand name [] Help.topUsage)
      | some c =>
        match more with
        | [] => .help (Help.command c)
        | x :: _ => .refused (.unknownCommand x [] (Help.commandUsage c))

/-- **A command line that was read**: what was given before the command, the
command, and what was given after it. -/
structure CommandLine where
  before : Given
  command : CommandSpec
  after : Given

/-- **Read a command line.** -/
def readLine (args : List String) : Except Halt CommandLine := do
  let (r, next) ← level Scope.top args {}
  match next with
  | none =>
    if r.given.values.isEmpty then throw .bareHelp
    else throw (.refused (.missingCommand Help.topUsage))
  | some (name, rest) =>
    match findCommand name with
    | none => throw (helpFor rest)
    | some c =>
      let s := Scope.ofCommand c
      let (r2, _) ← level s rest {}
      match c.positional with
      | some p =>
        if r2.given.positional.isNone then
          throw (.refused (.missingArguments [p.display] (s.usageWith (r2.used ++ [p.id]))))
      | none => pure ()
      pure ⟨r.given, c, r2.given⟩

end Cli
end ShmBench
