import ShmBench.Text.Format

/-!
# The command line's grammar

`ivmark` takes global options, then a command and the command's options:

```text
ivmark [-c CONFIG] [-v] <host|guest|baseline|inspect|validate|help> ...
```

Each option has a short letter, a long name, or both, and takes no value,
exactly one, or at most one (`Takes`); an option that may go without a value
has a stand-in for when it does (`-l` is `-l 100`).  A value is checked as it
is read (`ValueKind`): paths must not be empty, counts are decimal numerals
within a range.  The global options are accepted after the command as well.

The help of a command lists its options sorted by their place in the
declaration and then by letter (`OptionSpec.sortKey`), in two columns whose
second starts two spaces after the longest first column (`Help.options`).
-/

namespace ShmBench
namespace Cli

/-- **How an option takes its value.** -/
inductive Takes where
  /-- A switch: present or not. -/
  | nothing
  /-- Exactly one value, named `valueName` in help. -/
  | one (valueName : String)
  /-- At most one value; `missing` stands in when none follows. -/
  | optional (valueName : String) (missing : String)
  deriving DecidableEq, Repr

/-- **What a value must be.** -/
inductive ValueKind where
  /-- Any text. -/
  | text
  /-- A path: any text but the empty one. -/
  | path
  /-- A signed 64-bit numeral within `lo ..= hi`. -/
  | ranged (lo hi : Int)
  /-- An unsigned 64-bit numeral of at least `lo`. -/
  | atLeast (lo : Nat)
  /-- Any unsigned 64-bit numeral. -/
  | size
  deriving DecidableEq, Repr

/-- **What giving an option does.** -/
inductive Action where
  /-- Record the option and its value. -/
  | store
  /-- Print the help of the command. -/
  | help
  /-- Print the version. -/
  | version
  deriving DecidableEq, Repr

/-- **An option.** -/
structure OptionSpec where
  /-- The name the option's value is kept under. -/
  id : String
  short : Option Char := none
  long : String
  help : String
  takes : Takes := .nothing
  kind : ValueKind := .text
  action : Action := .store
  /-- The default shown in help, if any. -/
  shownDefault : Option String := none
  /-- The place in the help listing. -/
  order : Nat := 999
  deriving Repr

namespace OptionSpec

/-- Whether the option takes a value. -/
def takesValue (o : OptionSpec) : Bool := o.takes != .nothing

/-- The value part as help and errors write it: ` <NAME>`, ` [<NAME>]`, or nothing. -/
def suffix (o : OptionSpec) : String :=
  match o.takes with
  | .nothing => ""
  | .one v => " <" ++ v ++ ">"
  | .optional v _ => " [<" ++ v ++ ">]"

/-- The option as errors name it: its long form and value part. -/
def display (o : OptionSpec) : String := "--" ++ o.long ++ o.suffix

/-- The first column of the option's help line. -/
def column (o : OptionSpec) : String :=
  (match o.short with
    | some c => "-" ++ toString c ++ ", "
    | none => "    ") ++ o.display

/-- The second column: the help, and the default when one is shown. -/
def helpText (o : OptionSpec) : String :=
  o.help ++ (match o.shownDefault with
    | some d => " [default: " ++ d ++ "]"
    | none => "")

/-- The sort key of the help listing: the place, then the short letter in
lower case (a lower-case letter first) or the long name. -/
def sortKey (o : OptionSpec) : Nat × String :=
  (o.order, match o.short with
    | some c => toString c.toLower ++ (if c.isLower then "0" else "1")
    | none => o.long)

end OptionSpec

/-- Whether one sort key comes no later than another. -/
def keyLe (a b : Nat × String) : Bool := a.1 < b.1 || (a.1 == b.1 && decide (a.2 ≤ b.2))

/-- **A positional argument.** -/
structure PositionalSpec where
  id : String
  valueName : String
  help : String
  deriving Repr

/-- The positional argument as help and errors write it. -/
def PositionalSpec.display (p : PositionalSpec) : String := "<" ++ p.valueName ++ ">"

/-- **A command**: its name, what it does, its own options in declaration
order, and its positional argument. -/
structure CommandSpec where
  name : String
  about : String
  options : List OptionSpec
  positional : Option PositionalSpec := none
  deriving Repr

/-- Number options by their place in the declaration. -/
def numbered (os : List OptionSpec) : List OptionSpec :=
  (List.range os.length).zip os |>.map fun (i, o) => { o with order := i }

/-! ## The options and commands of `ivmark` -/

/-- The program's name. -/
def programName : String := "ivmark"

/-- The program's version. -/
def programVersion : String := "1.0.0"

/-- What the program is. -/
def programAbout : String := "Host, guest, baseline and inspection commands for ivmark"

/-- The largest latency count: latency sequence numbers stay below the
bandwidth numbers. -/
def maxLatencyCount : Int := 65535

/-- The largest 32-bit count. -/
def maxWord : Int := 4294967295

/-- `-c`: the configuration file. -/
def configOption : OptionSpec :=
  { id := "config", short := some 'c', long := "config",
    help := "Configuration file path (built-in defaults when omitted)",
    takes := .one "CONFIG", kind := .path, order := 0 }

/-- `-v`: verbose logging. -/
def verboseOption : OptionSpec :=
  { id := "verbose", short := some 'v', long := "verbose", help := "Enable verbose logging", order := 1 }

/-- `-h`: help. -/
def helpOption : OptionSpec :=
  { id := "help", short := some 'h', long := "help", help := "Print help", action := .help }

/-- `-V`: the version. -/
def versionOption : OptionSpec :=
  { id := "version", short := some 'V', long := "version", help := "Print version", action := .version }

/-- The global options, accepted before and after the command. -/
def globalOptions : List OptionSpec := [configOption, verboseOption]

/-- The options choosing the tests and their counts. -/
def modeOptions : List OptionSpec :=
  [{ id := "latency", short := some 'l', long := "latency",
     help := "Run the latency test [default count: 100, at most 65535]",
     takes := .optional "COUNT" "100", kind := .ranged 1 maxLatencyCount },
   { id := "bandwidth", short := some 'b', long := "bandwidth",
     help := "Run the bandwidth test [default iterations per frame: 10]",
     takes := .optional "ITERATIONS" "10", kind := .ranged 1 maxWord },
   { id := "count", short := some 'n', long := "count",
     help := "Override the count of every selected test [at most 65535]",
     takes := .one "COUNT", kind := .ranged 1 maxLatencyCount }]

/-- The options choosing the region and the CPUs. -/
def transportOptions : List OptionSpec :=
  [{ id := "device", short := some 'd', long := "device",
     help := "Map this file or PCI resource instead of discovering one",
     takes := .one "PATH", kind := .path },
   { id := "wc", long := "wc", help := "Map the write-combining BAR (resource2_wc)" },
   { id := "pin_cpu", long := "pin-cpu",
     help := "Pin this process to the given CPUs, e.g. \"2\" or \"0-3\"", takes := .one "LIST" }]

/-- `host`. -/
def hostCommand : CommandSpec :=
  { name := "host", about := "Initialize the channel and send test messages",
    options := numbered (modeOptions ++ transportOptions ++
      [{ id := "create", long := "create", help := "Create the shared memory file if it does not exist" },
       { id := "corrupt_every", long := "corrupt-every",
         help := "Flip one byte of every K-th message after its digest is taken",
         takes := .one "K", kind := .ranged 1 maxWord },
       { id := "output_dir", short := some 'o', long := "output-dir",
         help := "Directory for the CSV and JSON results", takes := .one "OUTPUT_DIR", kind := .path,
         shownDefault := some "." }]) }

/-- `guest`. -/
def guestCommand : CommandSpec :=
  { name := "guest", about := "Attach to the channel and process messages",
    options := numbered (modeOptions ++ transportOptions ++
      [{ id := "until_shutdown", long := "until-shutdown",
         help := "Serve until the host signals completion instead of a fixed count" }]) }

/-- `baseline`. -/
def baselineCommand : CommandSpec :=
  { name := "baseline", about := "Measure same-machine memory reference numbers",
    options := numbered
      [{ id := "iterations", short := some 'n', long := "iterations", help := "Measured iterations per test",
         takes := .one "ITERATIONS", kind := .atLeast 1, shownDefault := some "10" },
       { id := "size", short := some 's', long := "size",
         help := "Buffer size in bytes [default: one 4K RGB frame]", takes := .one "SIZE", kind := .size },
       { id := "no_shm", long := "no-shm", help := "Skip the POSIX shared memory tests" },
       { id := "output_dir", short := some 'o', long := "output-dir",
         help := "Save a JSON report into this directory", takes := .one "OUTPUT_DIR", kind := .path }] }

/-- `inspect`. -/
def inspectCommand : CommandSpec :=
  { name := "inspect", about := "Print the channel header without modifying it",
    options := numbered (transportOptions ++
      [{ id := "timing", short := some 't', long := "timing",
         help := "Also print the last timing record written by the guest" }]) }

/-- `validate`. -/
def validateCommand : CommandSpec :=
  { name := "validate", about := "Validate a configuration file", options := [],
    positional := some ⟨"file", "FILE", "Path to the configuration file"⟩ }

/-- The commands, in the order help lists them. -/
def commands : List CommandSpec :=
  [hostCommand, guestCommand, baselineCommand, inspectCommand, validateCommand]

/-- The help command's own description. -/
def helpAbout : String := "Print this message or the help of the given subcommand(s)"

/-- The names a command may be given by, the help command last. -/
def commandNames : List String := commands.map (·.name) ++ ["help"]

/-- The command of a name. -/
def findCommand (name : String) : Option CommandSpec := commands.find? (·.name == name)

/-- The options a command accepts, in the order they are looked up: its own,
help, then the global ones. -/
def CommandSpec.accepted (c : CommandSpec) : List OptionSpec := c.options ++ [helpOption] ++ globalOptions

/-- The options accepted before a command. -/
def topOptions : List OptionSpec := globalOptions ++ [helpOption, versionOption]

/-! ## Help text -/

namespace Help

/-- A section: its heading and its lines. -/
def block (heading : String) (lines : List String) : String :=
  heading ++ ":\n" ++ "\n".intercalate lines

/-- Two columns, the second starting two spaces after the widest first column
(at least two wide). -/
def columns (rows : List (String × String)) : List String :=
  let width := (rows.map (·.1.length)).foldl max 2
  rows.map fun (a, b) => "  " ++ Layout.left (width + 2) a ++ b

/-- **The options section's lines**, sorted by `sortKey`. -/
def options (os : List OptionSpec) : List String :=
  columns ((os.mergeSort fun a b => keyLe a.sortKey b.sortKey).map fun o => (o.column, o.helpText))

/-- The usage of the program before a command. -/
def topUsage : String := programName ++ " [OPTIONS] <COMMAND>"

/-- The usage of a command. -/
def commandUsage (c : CommandSpec) : String :=
  programName ++ " " ++ c.name ++ " [OPTIONS]" ++ (match c.positional with
    | some p => " " ++ p.display
    | none => "")

/-- A help page: what it is, how it is used, and its sections. -/
def page (about usage : String) (sections : List String) : String :=
  about ++ "\n\nUsage: " ++ usage ++ "\n\n" ++ "\n\n".intercalate sections ++ "\n"

/-- **The program's help.** -/
def top : String :=
  page programAbout topUsage
    [block "Commands" (columns (commands.map (fun c => (c.name, c.about)) ++ [("help", helpAbout)])),
     block "Options" (options topOptions)]

/-- **A command's help.** -/
def command (c : CommandSpec) : String :=
  page c.about (commandUsage c)
    ((match c.positional with
      | some p => [block "Arguments" (columns [(p.display, p.help)])]
      | none => []) ++
     [block "Options" (options (c.options ++ [helpOption] ++ globalOptions))])

/-- The usage of the help command. -/
def helpUsage : String := programName ++ " help [COMMAND]..."

/-- **The help command's help.** -/
def helpCommand : String :=
  page helpAbout helpUsage
    [block "Arguments" (columns [("[COMMAND]...", "Print help for the subcommand(s)")])]

end Help

/-- A command's help lists each of its options once, and help. -/
theorem Help.options_length (os : List OptionSpec) : (Help.options os).length = os.length := by
  simp [Help.options, Help.columns]

end Cli
end ShmBench
