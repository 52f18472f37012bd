/-!
# YAML tokens

The scanner turns YAML text into tokens, each with the marks (character
index, line, column, byte offset) where it starts and stops.  It works the way the
reference C loader does, so that its tokens, and above all its errors and
their marks, are the same:

* indentation is tracked on a stack (`indent`, `indents`); a deeper column
  opens a block collection and a shallower one closes it with `blockEnd`;
* a scalar, alias, anchor, tag or flow opener may start a *simple key*,
  remembered per flow level; when a `:` follows on the same line within
  1024 bytes, a `key` token is inserted before it (and, in block
  context, a `blockMappingStart` if the key opens a deeper level);
* a simple key that must exist (in block context at the indentation column)
  but is never completed is an error, "could not find expected ':'".

Characters past the end read as NUL, which no input contains (the reader
refuses control characters up front, `checkInput`).  Every loop below reads at
least one character per round, or stops; each is bounded by a fuel of the
input's length.

An error is a `Problem`: what went wrong and where, and what was being
scanned and where that began.  `Problem.message` words it.
-/

namespace ShmBench
namespace Yaml

/-- **A position** in the text: character index, line and column, from 0,
and the offset in bytes of UTF-8, which is what the length limit of a simple
key counts. -/
structure Mark where
  index : Nat := 0
  line : Nat := 0
  column : Nat := 0
  offset : Nat := 0
  deriving DecidableEq, Repr, Inhabited

/-- A position as `line L column C`, counting from 1. -/
def Mark.text (m : Mark) : String := s!"line {m.line + 1} column {m.column + 1}"

/-- Whether a mark is the very start of the text. -/
def Mark.isStart (m : Mark) : Bool := m.line == 0 && m.column == 0

/-- **A loader error**: the problem and where it was found, and optionally
what was being read and where that began.  Errors found while decoding the
text carry a byte offset instead of a mark. -/
structure Problem where
  problem : String
  problemMark : Mark := {}
  context : Option String := none
  contextMark : Mark := {}
  offset : Nat := 0
  deriving Repr, Inhabited

/-- The text of a loader error.  A mark at the very start is left out, and so
is a context mark equal to the problem's. -/
def Problem.message (e : Problem) : String :=
  let m := e.problemMark
  let head := e.problem ++
    (if !m.isStart then " at " ++ m.text
     else if e.offset != 0 then s!" at position {e.offset}" else "")
  match e.context with
  | none => head
  | some c =>
    let cm := e.contextMark
    head ++ ", " ++ c ++
      (if !cm.isStart && (cm.line != m.line || cm.column != m.column) then " at " ++ cm.text else "")

/-- How a scalar was written. -/
inductive ScalarStyle where
  | plain
  | singleQuoted
  | doubleQuoted
  | literal
  | folded
  deriving DecidableEq, Repr, Inhabited

/-- **What a token is.** -/
inductive TokenKind where
  | streamStart
  | streamEnd
  | versionDirective (major minor : Nat)
  | tagDirective (handle uri : String)
  | documentStart
  | documentEnd
  | blockSequenceStart
  | blockMappingStart
  | blockEnd
  | flowSequenceStart
  | flowSequenceEnd
  | flowMappingStart
  | flowMappingEnd
  | blockEntry
  | flowEntry
  | key
  | value
  | alias (name : String)
  | anchor (name : String)
  | tag (handle suffix : String)
  | scalar (text : String) (style : ScalarStyle)
  deriving DecidableEq, Repr, Inhabited

/-- **A token** with the marks where it starts and stops. -/
structure Token where
  kind : TokenKind
  start : Mark
  stop : Mark
  deriving Repr, Inhabited

/-- A place where a simple key may start. -/
structure SimpleKey where
  possible : Bool := false
  required : Bool := false
  tokenNumber : Nat := 0
  mark : Mark := {}
  deriving Repr, Inhabited

/-- **The scanner's state.** Tokens before `head` in `queue` have been
handed out; `tokensParsed` counts them. -/
structure Scanner where
  input : Array Char
  mark : Mark := {}
  queue : Array Token := #[]
  head : Nat := 0
  tokensParsed : Nat := 0
  tokenAvailable : Bool := false
  streamStartProduced : Bool := false
  streamEndProduced : Bool := false
  indent : Int := -1
  indents : List Int := []
  simpleKeyAllowed : Bool := false
  simpleKeys : Array SimpleKey := #[]
  flowLevel : Nat := 0
  deriving Inhabited

/-- Scanning steps. -/
abbrev ScanM := StateT Scanner (Except Problem)

/-! ## Characters -/

/-- Letters, digits, `_` and `-`. -/
def isAlpha (c : Char) : Bool := c.isAlphanum || c == '_' || c == '-'

/-- A hexadecimal digit. -/
def isHex (c : Char) : Bool :=
  c.isDigit || ('a' ≤ c && c ≤ 'f') || ('A' ≤ c && c ≤ 'F')

/-- The value of a hexadecimal digit. -/
def hexValue (c : Char) : Nat :=
  if c.isDigit then c.toNat - '0'.toNat
  else if 'a' ≤ c && c ≤ 'f' then c.toNat - 'a'.toNat + 10
  else c.toNat - 'A'.toNat + 10

/-- A space or a tab. -/
def isBlank (c : Char) : Bool := c == ' ' || c == '\t'

/-- A line break: CR, LF, NEL, LS or PS. -/
def isBreak (c : Char) : Bool :=
  c == '\r' || c == '\n' || c.toNat == 0x85 || c.toNat == 0x2028 || c.toNat == 0x2029

/-- The end of the text. -/
def isZ (c : Char) : Bool := c.toNat == 0

/-- A line break or the end. -/
def isBreakZ (c : Char) : Bool := isBreak c || isZ c

/-- A blank, a line break or the end. -/
def isBlankZ (c : Char) : Bool := isBlank c || isBreakZ c

/-- **Check the text** before scanning: control characters other than tab
and line breaks, and the two non-characters at the end of the basic plane,
are refused, with the byte offset of the first one. -/
def checkInput (text : String) : Except Problem Unit :=
  let ok (c : Char) : Bool :=
    let v := c.toNat
    v == 0x09 || v == 0x0A || v == 0x0D || (0x20 ≤ v && v ≤ 0x7E) || v == 0x85 ||
      (0xA0 ≤ v && v ≤ 0xD7FF) || (0xE000 ≤ v && v ≤ 0xFFFD) || (0x10000 ≤ v && v ≤ 0x10FFFF)
  let rec go (offset : Nat) : List Char → Except Problem Unit
    | [] => .ok ()
    | c :: rest =>
      if ok c then go (offset + c.utf8Size) rest
      else .error { problem := "control characters are not allowed", offset }
  go 0 text.toList

/-! ## Reading -/

namespace Scanner

/-- The character `k` places ahead; NUL past the end. -/
def peekAt (k : Nat) : ScanM Char := do
  let s ← get
  pure (s.input.getD (s.mark.index + k) (Char.ofNat 0))

/-- The current character. -/
def cur : ScanM Char := peekAt 0

/-- A fuel that bounds every loop: each round reads a character. -/
def fuel : ScanM Nat := do pure ((← get).input.size + 8)

/-- Move past one character on the line. -/
def skip : ScanM Unit := do
  let c ← cur
  modify fun s => { s with mark := { s.mark with index := s.mark.index + 1, column := s.mark.column + 1,
                                                 offset := s.mark.offset + c.utf8Size } }

/-- Move past a line break; CR LF counts as one break of two characters. -/
def skipLine : ScanM Unit := do
  let c ← cur
  let d ← peekAt 1
  if c == '\r' && d == '\n' then
    modify fun s => { s with mark := { index := s.mark.index + 2, line := s.mark.line + 1,
                                       column := 0, offset := s.mark.offset + 2 } }
  else if isBreak c then
    modify fun s => { s with mark := { index := s.mark.index + 1, line := s.mark.line + 1,
                                       column := 0, offset := s.mark.offset + c.utf8Size } }

/-- Copy the current character and move past it. -/
def read (acc : String) : ScanM String := do
  let c ← cur
  skip
  pure (acc.push c)

/-- Copy a line break, as LF unless it is LS or PS, and move past it. -/
def readLine (acc : String) : ScanM String := do
  let c ← cur
  let d ← peekAt 1
  if c == '\r' && d == '\n' then
    modify fun s => { s with mark := { index := s.mark.index + 2, line := s.mark.line + 1,
                                       column := 0, offset := s.mark.offset + 2 } }
    pure (acc.push '\n')
  else if c == '\r' || c == '\n' || c.toNat == 0x85 then
    modify fun s => { s with mark := { index := s.mark.index + 1, line := s.mark.line + 1,
                                       column := 0, offset := s.mark.offset + c.utf8Size } }
    pure (acc.push '\n')
  else if isBreak c then
    modify fun s => { s with mark := { index := s.mark.index + 1, line := s.mark.line + 1,
                                       column := 0, offset := s.mark.offset + c.utf8Size } }
    pure (acc.push c)
  else pure acc

/-- Fail at the current mark. -/
def fail {α : Type} (context : Option String) (contextMark : Mark) (problem : String) : ScanM α := do
  let s ← get
  throw { problem, problemMark := s.mark, context, contextMark }

/-- Move past characters while `p` holds. -/
def skipWhile (p : Char → Bool) : ScanM Unit := do
  let rec go : Nat → ScanM Unit
    | 0 => pure ()
    | n + 1 => do
      if p (← cur) then
        skip
        go n
  go (← fuel)

/-- Copy characters while `p` holds. -/
def readWhile (p : Char → Bool) (acc : String) : ScanM String := do
  let rec go : Nat → String → ScanM String
    | 0, acc => pure acc
    | n + 1, acc => do
      if p (← cur) then go n (← read acc) else pure acc
  go (← fuel) acc

/-- Whether the next three characters are `c` and the fourth ends a word, at
the start of a line. -/
def atIndicator (c : Char) : ScanM Bool := do
  let s ← get
  if s.mark.column != 0 then return false
  pure ((← peekAt 0) == c && (← peekAt 1) == c && (← peekAt 2) == c && isBlankZ (← peekAt 3))

/-- Whether a document marker, `---` or `...`, starts here. -/
def atDocumentIndicator : ScanM Bool := do
  pure ((← atIndicator '-') || (← atIndicator '.'))

/-! ## The token queue -/

/-- Append a token. -/
def enqueue (t : Token) : ScanM Unit := modify fun s => { s with queue := s.queue.push t }

/-- Insert a token `k` places after the first pending one. -/
def insertAt (k : Nat) (t : Token) : ScanM Unit :=
  modify fun s =>
    let i := min (s.head + k) s.queue.size
    { s with queue := s.queue.insertIdxIfInBounds i t }

/-- The number of tokens handed out or queued. -/
def queuedCount (s : Scanner) : Nat := s.tokensParsed + (s.queue.size - s.head)

/-! ## Simple keys and indentation -/

/-- Drop simple keys that can no longer be completed: those on an earlier line
or more than 1024 bytes back.  A required one is an error. -/
def staleSimpleKeys : ScanM Unit := do
  let s ← get
  let step (keys : Array SimpleKey) (i : Nat) : ScanM (Array SimpleKey) := do
    let k := keys[i]!
    if k.possible && (k.mark.line < s.mark.line || k.mark.offset + 1024 < s.mark.offset) then
      if k.required then
        fail (some "while scanning a simple key") k.mark "could not find expected ':'"
      else pure (keys.set! i { k with possible := false })
    else pure keys
  let keys ← (List.range s.simpleKeys.size).foldlM step s.simpleKeys
  modify fun s => { s with simpleKeys := keys }

/-- The simple key of the current flow level. -/
def topKey : ScanM SimpleKey := do
  let s ← get
  pure (s.simpleKeys.back?.getD {})

/-- Replace the simple key of the current flow level. -/
def setTopKey (k : SimpleKey) : ScanM Unit :=
  modify fun s =>
    if s.simpleKeys.isEmpty then s else { s with simpleKeys := s.simpleKeys.set! (s.simpleKeys.size - 1) k }

/-- Forget the simple key of the current flow level; a required one is an
error. -/
def removeSimpleKey : ScanM Unit := do
  let k ← topKey
  if k.possible && k.required then
    fail (some "while scanning a simple key") k.mark "could not find expected ':'"
  setTopKey { k with possible := false }

/-- Remember that a simple key may start here. -/
def saveSimpleKey : ScanM Unit := do
  let s ← get
  let required := s.flowLevel == 0 && s.indent == (s.mark.column : Int)
  if s.simpleKeyAllowed then
    let k : SimpleKey :=
      { possible := true, required, tokenNumber := queuedCount s, mark := s.mark }
    removeSimpleKey
    setTopKey k

/-- Enter a flow collection. -/
def increaseFlowLevel : ScanM Unit :=
  modify fun s => { s with simpleKeys := s.simpleKeys.push {}, flowLevel := s.flowLevel + 1 }

/-- Leave a flow collection. -/
def decreaseFlowLevel : ScanM Unit :=
  modify fun s =>
    if s.flowLevel == 0 then s
    else { s with flowLevel := s.flowLevel - 1, simpleKeys := s.simpleKeys.pop }

/-- In block context, open a collection at `column` if it is deeper than the
current indentation; its start token goes at token number `number`, or at
the end. -/
def rollIndent (column : Int) (number : Option Nat) (kind : TokenKind) (mark : Mark) : ScanM Unit := do
  let s ← get
  if s.flowLevel == 0 && s.indent < column then
    set { s with indents := s.indent :: s.indents, indent := column }
    let t : Token := { kind, start := mark, stop := mark }
    match number with
    | none => enqueue t
    | some n => insertAt (n - s.tokensParsed) t

/-- In block context, close every collection deeper than `column`. -/
def unrollIndent (column : Int) : ScanM Unit := do
  let rec go : Nat → ScanM Unit
    | 0 => pure ()
    | n + 1 => do
      let s ← get
      if s.indent > column then
        enqueue { kind := .blockEnd, start := s.mark, stop := s.mark }
        match s.indents with
        | i :: rest => set { (← get) with indent := i, indents := rest }
        | [] => set { (← get) with indent := -1 }
        go n
  let s ← get
  if s.flowLevel == 0 then go (s.indents.length + 1)

/-! ## Whitespace, comments and directives -/

/-- Move past blanks, comments and line breaks up to the next token.  Tabs
count as blanks only in flow context or where no simple key may start. -/
def scanToNextToken : ScanM Unit := do
  let rec go : Nat → ScanM Unit
    | 0 => pure ()
    | n + 1 => do
      let s ← get
      if s.mark.column == 0 && (← cur).toNat == 0xFEFF then skip
      let s ← get
      skipWhile fun c => c == ' ' || ((s.flowLevel > 0 || !s.simpleKeyAllowed) && c == '\t')
      if (← cur) == '#' then skipWhile fun c => !isBreakZ c
      if isBreak (← cur) then
        skipLine
        if (← get).flowLevel == 0 then modify fun s => { s with simpleKeyAllowed := true }
        go n
  go (← fuel)

/-- A directive's name. -/
def scanDirectiveName (start : Mark) : ScanM String := do
  let name ← readWhile isAlpha ""
  if name.isEmpty then
    fail (some "while scanning a directive") start "could not find expected directive name"
  if !isBlankZ (← cur) then
    fail (some "while scanning a directive") start "found unexpected non-alphabetical character"
  pure name

/-- One number of a `%YAML` version, at most nine digits. -/
def scanVersionNumber (start : Mark) : ScanM Nat := do
  let rec go : Nat → Nat → Nat → ScanM (Nat × Nat)
    | 0, v, len => pure (v, len)
    | n + 1, v, len => do
      let c ← cur
      if c.isDigit then
        if len + 1 > 9 then
          fail (some "while scanning a %YAML directive") start "found extremely long version number"
        skip
        go n (v * 10 + (c.toNat - '0'.toNat)) (len + 1)
      else pure (v, len)
  let (v, len) ← go (← fuel) 0 0
  if len == 0 then
    fail (some "while scanning a %YAML directive") start "did not find expected version number"
  pure v

/-- The value of a `%YAML` directive: `major.minor`. -/
def scanVersionValue (start : Mark) : ScanM (Nat × Nat) := do
  skipWhile isBlank
  let major ← scanVersionNumber start
  if (← cur) != '.' then
    fail (some "while scanning a %YAML directive") start "did not find expected digit or '.' character"
  skip
  let minor ← scanVersionNumber start
  pure (major, minor)

/-- Decode `%xx` escapes of one UTF-8 character in a tag. -/
def scanUriEscapes (directive : Bool) (start : Mark) (acc : List UInt8) : ScanM (List UInt8) := do
  let context := if directive then "while parsing a %TAG directive" else "while parsing a tag"
  let rec go : Nat → Nat → List UInt8 → ScanM (List UInt8)
    | 0, _, acc => pure acc
    | n + 1, width, acc => do
      if !((← cur) == '%' && isHex (← peekAt 1) && isHex (← peekAt 2)) then
        fail (some context) start "did not find URI escaped octet"
      let octet := hexValue (← peekAt 1) * 16 + hexValue (← peekAt 2)
      let width ← if width == 0 then do
          let w := if octet &&& 0x80 == 0 then 1 else if octet &&& 0xE0 == 0xC0 then 2
            else if octet &&& 0xF0 == 0xE0 then 3 else if octet &&& 0xF8 == 0xF0 then 4 else 0
          if w == 0 then fail (some context) start "found an incorrect leading UTF-8 octet"
          pure w
        else do
          if octet &&& 0xC0 != 0x80 then fail (some context) start "found an incorrect trailing UTF-8 octet"
          pure width
      skip; skip; skip
      let acc := acc ++ [octet.toUInt8]
      if width - 1 == 0 then pure acc else go n (width - 1) acc
  go (← fuel) 0 acc

/-- Text of UTF-8 bytes, invalid sequences replaced. -/
def bytesText (bs : List UInt8) : String :=
  match String.fromUTF8? (ByteArray.mk bs.toArray) with
  | some s => s
  | none => String.ofList (bs.map fun b => Char.ofNat b.toNat)

/-- Whether a character may appear in a tag URI; inside `!<...>` also `,`,
`[` and `]`. -/
def isUriChar (verbatim : Bool) (c : Char) : Bool :=
  isAlpha c || ";/?:@&=+$.%!~*'()".contains c || (verbatim && (c == ',' || c == '[' || c == ']'))

/-- A tag URI, after the head `head` (whose leading `!` is dropped). -/
def scanTagUri (verbatim directive : Bool) (head : String) (start : Mark) : ScanM String := do
  let rec go : Nat → List UInt8 → Nat → ScanM (List UInt8 × Nat)
    | 0, acc, len => pure (acc, len)
    | n + 1, acc, len => do
      let c ← cur
      if isUriChar verbatim c then
        if c == '%' then go n (← scanUriEscapes directive start acc) (len + 1)
        else
          skip
          go n (acc ++ (String.singleton c).toUTF8.toList) (len + 1)
      else pure (acc, len)
  let headBytes := (head.drop 1).toString.toUTF8.toList
  let (bytes, len) ← go (← fuel) headBytes head.length
  if len == 0 then
    fail (some (if directive then "while parsing a %TAG directive" else "while parsing a tag")) start
      "did not find expected tag URI"
  pure (bytesText bytes)

/-- A tag handle: `!`, `!!` or `!word!`; in a tag, a handle without its
closing `!` is the start of the URI. -/
def scanTagHandle (directive : Bool) (start : Mark) : ScanM String := do
  if (← cur) != '!' then
    fail (some (if directive then "while scanning a tag directive" else "while scanning a tag")) start
      "did not find expected '!'"
  let h ← read ""
  let h ← readWhile isAlpha h
  if (← cur) == '!' then read h
  else
    if directive && h != "!" then
      fail (some "while parsing a tag directive") start "did not find expected '!'"
    pure h

/-- The value of a `%TAG` directive: a handle and a URI. -/
def scanTagDirectiveValue (start : Mark) : ScanM (String × String) := do
  skipWhile isBlank
  let handle ← scanTagHandle true start
  if !isBlank (← cur) then
    fail (some "while scanning a %TAG directive") start "did not find expected whitespace"
  skipWhile isBlank
  let uri ← scanTagUri true true "" start
  if !isBlankZ (← cur) then
    fail (some "while scanning a %TAG directive") start "did not find expected whitespace or line break"
  pure (handle, uri)

/-- A `%YAML` or `%TAG` directive, to the end of its line. -/
def scanDirective : ScanM Token := do
  let start := (← get).mark
  skip
  let name ← scanDirectiveName start
  let kind ← if name == "YAML" then do
      let (major, minor) ← scanVersionValue start
      pure (TokenKind.versionDirective major minor)
    else if name == "TAG" then do
      let (handle, uri) ← scanTagDirectiveValue start
      pure (TokenKind.tagDirective handle uri)
    else fail (some "while scanning a directive") start "found unknown directive name"
  let stop := (← get).mark
  skipWhile isBlank
  if (← cur) == '#' then skipWhile fun c => !isBreakZ c
  if !isBreakZ (← cur) then
    fail (some "while scanning a directive") start "did not find expected comment or line break"
  if isBreak (← cur) then skipLine
  pure { kind, start, stop }

/-! ## Anchors and tags -/

/-- An anchor `&name` or alias `*name`. -/
def scanAnchor (isAnchor : Bool) : ScanM Token := do
  let start := (← get).mark
  skip
  let name ← readWhile isAlpha ""
  let stop := (← get).mark
  let c ← cur
  if name.isEmpty || !(isBlankZ c || "?:,]\x7d%@\x60".contains c) then
    fail (some (if isAnchor then "while scanning an anchor" else "while scanning an alias")) start
      "did not find expected alphabetic or numeric character"
  pure { kind := if isAnchor then .anchor name else .alias name, start, stop }

/-- A tag: `!<uri>`, `!handle!suffix`, `!suffix` or `!`. -/
def scanTag : ScanM Token := do
  let start := (← get).mark
  let (handle, suffix) ← if (← peekAt 1) == '<' then do
      skip; skip
      let suffix ← scanTagUri true false "" start
      if (← cur) != '>' then
        fail (some "while scanning a tag") start "did not find the expected '>'"
      skip
      pure ("", suffix)
    else do
      let h ← scanTagHandle false start
      if h.length > 1 && h.front == '!' && h.back == '!' then
        pure (h, ← scanTagUri false false "" start)
      else
        let suffix ← scanTagUri false false h start
        if suffix.isEmpty then pure ("", "!") else pure ("!", suffix)
  let c ← cur
  if !isBlankZ c && !((← get).flowLevel > 0 && c == ',') then
    fail (some "while scanning a tag") start "did not find expected whitespace or line break"
  pure { kind := .tag handle suffix, start, stop := (← get).mark }

/-! ## Scalars -/

/-- Move past indentation spaces and empty lines before or inside a block
scalar, collecting the breaks; fixes the indentation if not yet known. -/
def scanBlockBreaks (indent : Nat) (breaks : String) (start : Mark) : ScanM (Nat × String × Mark) := do
  let rec go : Nat → Nat → String → Mark → ScanM (Nat × String × Mark)
    | 0, maxIndent, breaks, stop => pure (maxIndent, breaks, stop)
    | n + 1, maxIndent, breaks, stop => do
      skipWhile' indent
      let col := (← get).mark.column
      let maxIndent := max maxIndent col
      if (indent == 0 || col < indent) && (← cur) == '\t' then
        fail (some "while scanning a block scalar") start
          "found a tab character where an indentation space is expected"
      if !isBreak (← cur) then pure (maxIndent, breaks, stop)
      else
        let breaks ← readLine breaks
        go n maxIndent breaks (← get).mark
  let (maxIndent, breaks, stop) ← go (← fuel) 0 breaks (← get).mark
  if indent == 0 then
    let s ← get
    let i := max (max maxIndent (Int.toNat (s.indent + 1))) 1
    pure (i, breaks, stop)
  else pure (indent, breaks, stop)
where
  /-- Move past spaces while the column is below the indentation (any column
  when it is not yet known). -/
  skipWhile' (indent : Nat) : ScanM Unit := do
    let rec go : Nat → ScanM Unit
      | 0 => pure ()
      | n + 1 => do
        if (indent == 0 || (← get).mark.column < indent) && (← cur) == ' ' then
          skip
          go n
    go (← fuel)

/-- A literal (`|`) or folded (`>`) block scalar. -/
def scanBlockScalar (literal : Bool) : ScanM Token := do
  let start := (← get).mark
  skip
  let indicatorZero : ScanM Unit :=
    fail (some "while scanning a block scalar") start "found an indentation indicator equal to 0"
  let (chomping, increment) ← do
    let c ← cur
    if c == '+' || c == '-' then
      let chomping : Int := if c == '+' then 1 else -1
      skip
      let d ← cur
      if d.isDigit then
        if d == '0' then indicatorZero
        skip
        pure (chomping, d.toNat - '0'.toNat)
      else pure (chomping, 0)
    else if c.isDigit then
      if c == '0' then indicatorZero
      skip
      let d ← cur
      if d == '+' || d == '-' then
        skip
        pure ((if d == '+' then 1 else -1 : Int), c.toNat - '0'.toNat)
      else pure (0, c.toNat - '0'.toNat)
    else pure (0, 0)
  skipWhile isBlank
  if (← cur) == '#' then skipWhile fun c => !isBreakZ c
  if !isBreakZ (← cur) then
    fail (some "while scanning a block scalar") start "did not find expected comment or line break"
  if isBreak (← cur) then skipLine
  let s ← get
  let indent0 : Nat :=
    if increment == 0 then 0
    else if s.indent ≥ 0 then Int.toNat (s.indent + increment) else increment
  let (indent, trailing, stop) ← scanBlockBreaks indent0 "" start
  let rec body : Nat → String → String → String → Bool → Mark → ScanM (String × String × String × Mark)
    | 0, text, leading, trailing, _, stop => pure (text, leading, trailing, stop)
    | n + 1, text, leading, trailing, leadingBlank, stop => do
      if (← get).mark.column != indent || isZ (← cur) then pure (text, leading, trailing, stop)
      else
        let trailingBlank := isBlank (← cur)
        let text :=
          if !literal && leading.startsWith "\n" && !leadingBlank && !trailingBlank then
            if trailing.isEmpty then text.push ' ' else text
          else text ++ leading
        let text := text ++ trailing
        let leadingBlank := isBlank (← cur)
        let text ← readWhile (fun c => !isBreakZ c) text
        let leading ← readLine ""
        let (_, trailing, stop) ← scanBlockBreaks indent "" start
        body n text leading trailing leadingBlank stop
  let (text, leading, trailing, stop) ← body (← fuel) "" "" trailing false stop
  let text := if chomping != -1 then text ++ leading else text
  let text := if chomping == 1 then text ++ trailing else text
  pure { kind := .scalar text (if literal then .literal else .folded), start, stop }

/-- The escape `\c` in a double-quoted scalar, as text, or the length of
its hexadecimal code. -/
def simpleEscape (c : Char) : Option (Sum String Nat) :=
  match c with
  | '0' => some (.inl (String.singleton (Char.ofNat 0)))
  | 'a' => some (.inl (String.singleton (Char.ofNat 7)))
  | 'b' => some (.inl (String.singleton (Char.ofNat 8)))
  | 't' | '\t' => some (.inl "\t")
  | 'n' => some (.inl "\n")
  | 'v' => some (.inl (String.singleton (Char.ofNat 11)))
  | 'f' => some (.inl (String.singleton (Char.ofNat 12)))
  | 'r' => some (.inl "\r")
  | 'e' => some (.inl (String.singleton (Char.ofNat 27)))
  | ' ' => some (.inl " ")
  | '"' => some (.inl "\"")
  | '/' => some (.inl "/")
  | '\'' => some (.inl "'")
  | '\\' => some (.inl "\\")
  | 'N' => some (.inl (String.singleton (Char.ofNat 0x85)))
  | '_' => some (.inl (String.singleton (Char.ofNat 0xA0)))
  | 'L' => some (.inl (String.singleton (Char.ofNat 0x2028)))
  | 'P' => some (.inl (String.singleton (Char.ofNat 0x2029)))
  | 'x' => some (.inr 2)
  | 'u' => some (.inr 4)
  | 'U' => some (.inr 8)
  | _ => none

/-- Fold a run of blanks and breaks between two parts of a flow or plain
scalar: a single line break becomes a space, further breaks stay; blanks
without a break stay as they were. -/
def joinBlanks (text whitespace leading trailing : String) (leadingBlanks : Bool) : String :=
  if leadingBlanks then
    if leading.startsWith "\n" then
      if trailing.isEmpty then text.push ' ' else text ++ trailing
    else text ++ leading ++ trailing
  else text ++ whitespace

/-- Consume blanks and line breaks inside a flow or plain scalar, collecting
the blanks before the first break, the first break, and the later breaks. -/
def scanBlanks (plain : Bool) (indent : Int) (start : Mark) (leadingBlanks : Bool)
    (whitespace leading trailing : String) : ScanM (Bool × String × String × String) := do
  let rec go : Nat → Bool → String → String → String → ScanM (Bool × String × String × String)
    | 0, lb, ws, le, tr => pure (lb, ws, le, tr)
    | n + 1, lb, ws, le, tr => do
      let c ← cur
      if isBlank c then
        if plain && lb && ((← get).mark.column : Int) < indent && c == '\t' then
          fail (some "while scanning a plain scalar") start "found a tab character that violates indentation"
        if !lb then go n lb (← read ws) le tr
        else
          skip
          go n lb ws le tr
      else if isBreak c then
        if !lb then go n true "" (← readLine "") tr
        else go n lb ws le (← readLine tr)
      else pure (lb, ws, le, tr)
  go (← fuel) leadingBlanks whitespace leading trailing

/-- A single- or double-quoted scalar. -/
def scanFlowScalar (single : Bool) : ScanM Token := do
  let start := (← get).mark
  skip
  let quote := if single then '\'' else '"'
  let rec chars : Nat → String → ScanM (String × Bool)
    | 0, text => pure (text, false)
    | n + 1, text => do
      let c ← cur
      if isBlankZ c then pure (text, false)
      else if single && c == '\'' && (← peekAt 1) == '\'' then
        skip; skip
        chars n (text.push '\'')
      else if c == quote then pure (text, false)
      else if !single && c == '\\' && isBreak (← peekAt 1) then
        skip
        skipLine
        pure (text, true)
      else if !single && c == '\\' then
        match simpleEscape (← peekAt 1) with
        | none => fail (some "while parsing a quoted scalar") start "found unknown escape character"
        | some (.inl s) =>
          skip; skip
          chars n (text ++ s)
        | some (.inr len) =>
          skip; skip
          let digits ← (List.range len).mapM fun k => peekAt k
          if !digits.all isHex then
            fail (some "while parsing a quoted scalar") start "did not find expected hexadecimal number"
          let v := digits.foldl (fun acc d => acc * 16 + hexValue d) 0
          if (0xD800 ≤ v && v ≤ 0xDFFF) || v > 0x10FFFF then
            fail (some "while parsing a quoted scalar") start "found invalid Unicode character escape code"
          for _ in List.range len do skip
          chars n (text.push (Char.ofNat v))
      else chars n (← read text)
  let rec parts : Nat → String → ScanM String
    | 0, text => pure text
    | n + 1, text => do
      if (← atDocumentIndicator) then
        fail (some "while scanning a quoted scalar") start "found unexpected document indicator"
      if isZ (← cur) then
        fail (some "while scanning a quoted scalar") start "found unexpected end of stream"
      let (text, escapedBreak) ← chars (← fuel) text
      if (← cur) == quote then pure text
      else
        let (lb, ws, le, tr) ← scanBlanks false 0 start escapedBreak "" "" ""
        parts n (joinBlanks text ws le tr lb)
  let text ← parts (← fuel) ""
  skip
  pure { kind := .scalar text (if single then .singleQuoted else .doubleQuoted), start,
         stop := (← get).mark }

/-- A plain scalar: it ends at `: `, at ` #`, at a document marker, in flow
context at a flow indicator, and in block context at a line indented less
than the enclosing block. -/
def scanPlainScalar : ScanM (Token × Bool) := do
  let s ← get
  let indent := s.indent + 1
  let start := s.mark
  let rec chars : Nat → String → String → String → String → Bool → Mark →
      ScanM (String × String × String × String × Bool × Mark)
    | 0, text, ws, le, tr, lb, stop => pure (text, ws, le, tr, lb, stop)
    | n + 1, text, ws, le, tr, lb, stop => do
      let c ← cur
      if isBlankZ c then pure (text, ws, le, tr, lb, stop)
      else
        let flow := (← get).flowLevel > 0
        let d ← peekAt 1
        if flow && c == ':' && ",?[]\x7b\x7d".contains d then
          fail (some "while scanning a plain scalar") start "found unexpected ':'"
        if (c == ':' && isBlankZ d) || (flow && ",[]\x7b\x7d".contains c) then
          pure (text, ws, le, tr, lb, stop)
        else
          let text := if lb || !ws.isEmpty then joinBlanks text ws le tr lb else text
          let text ← read text
          chars n text "" (if lb then "" else le) (if lb then "" else tr) false (← get).mark
  let rec words : Nat → String → String → String → String → Bool → Mark →
      ScanM (String × Bool × Mark)
    | 0, text, _, _, _, lb, stop => pure (text, lb, stop)
    | n + 1, text, ws, le, tr, lb, stop => do
      if (← atDocumentIndicator) || (← cur) == '#' then pure (text, lb, stop)
      else
        let (text, ws, le, tr, lb, stop) ← chars (← fuel) text ws le tr lb stop
        let c ← cur
        if !(isBlank c || isBreak c) then pure (text, lb, stop)
        else
          let (lb, ws, le, tr) ← scanBlanks true indent start lb ws le tr
          let s ← get
          if s.flowLevel == 0 && (s.mark.column : Int) < indent then pure (text, lb, stop)
          else words n text ws le tr lb stop
  let (text, lb, stop) ← words (← fuel) "" "" "" "" false start
  pure ({ kind := .scalar text .plain, start, stop }, lb)

/-! ## Fetching tokens -/

/-- The first token. -/
def fetchStreamStart : ScanM Unit := do
  modify fun s => { s with indent := -1, simpleKeys := s.simpleKeys.push {}, simpleKeyAllowed := true,
                           streamStartProduced := true }
  let m := (← get).mark
  enqueue { kind := .streamStart, start := m, stop := m }

/-- The last token; the end is taken to follow a line break. -/
def fetchStreamEnd : ScanM Unit := do
  let s ← get
  if s.mark.column != 0 then
    set { s with mark := { s.mark with column := 0, line := s.mark.line + 1 } }
  unrollIndent (-1)
  removeSimpleKey
  modify fun s => { s with simpleKeyAllowed := false }
  let m := (← get).mark
  enqueue { kind := .streamEnd, start := m, stop := m }

/-- A directive. -/
def fetchDirective : ScanM Unit := do
  unrollIndent (-1)
  removeSimpleKey
  modify fun s => { s with simpleKeyAllowed := false }
  enqueue (← scanDirective)

/-- A one-character token that leaves simple keys as `allowKey` says. -/
def fetchIndicator (kind : TokenKind) (width : Nat) : ScanM Unit := do
  let start := (← get).mark
  for _ in List.range width do skip
  enqueue { kind, start, stop := (← get).mark }

/-- `---` or `...`. -/
def fetchDocumentIndicator (kind : TokenKind) : ScanM Unit := do
  unrollIndent (-1)
  removeSimpleKey
  modify fun s => { s with simpleKeyAllowed := false }
  fetchIndicator kind 3

/-- `[` or `{`. -/
def fetchFlowCollectionStart (kind : TokenKind) : ScanM Unit := do
  saveSimpleKey
  increaseFlowLevel
  modify fun s => { s with simpleKeyAllowed := true }
  fetchIndicator kind 1

/-- `]` or `}`. -/
def fetchFlowCollectionEnd (kind : TokenKind) : ScanM Unit := do
  removeSimpleKey
  decreaseFlowLevel
  modify fun s => { s with simpleKeyAllowed := false }
  fetchIndicator kind 1

/-- `,`. -/
def fetchFlowEntry : ScanM Unit := do
  removeSimpleKey
  modify fun s => { s with simpleKeyAllowed := true }
  fetchIndicator .flowEntry 1

/-- `-` before a sequence entry. -/
def fetchBlockEntry : ScanM Unit := do
  let s ← get
  if s.flowLevel == 0 then
    if !s.simpleKeyAllowed then
      fail none {} "block sequence entries are not allowed in this context"
    rollIndent s.mark.column none .blockSequenceStart s.mark
  removeSimpleKey
  modify fun s => { s with simpleKeyAllowed := true }
  fetchIndicator .blockEntry 1

/-- `?` before a complex key. -/
def fetchKey : ScanM Unit := do
  let s ← get
  if s.flowLevel == 0 then
    if !s.simpleKeyAllowed then
      fail none {} "mapping keys are not allowed in this context"
    rollIndent s.mark.column none .blockMappingStart s.mark
  removeSimpleKey
  modify fun s => { s with simpleKeyAllowed := s.flowLevel == 0 }
  fetchIndicator .key 1

/-- `:` after a key: completes a pending simple key, inserting its `key`
token (and the mapping start it opens) before it. -/
def fetchValue : ScanM Unit := do
  let k ← topKey
  if k.possible then
    let s ← get
    insertAt (k.tokenNumber - s.tokensParsed) { kind := .key, start := k.mark, stop := k.mark }
    rollIndent k.mark.column (some k.tokenNumber) .blockMappingStart k.mark
    setTopKey { k with possible := false }
    modify fun s => { s with simpleKeyAllowed := false }
  else
    let s ← get
    if s.flowLevel == 0 then
      if !s.simpleKeyAllowed then
        fail none {} "mapping values are not allowed in this context"
      rollIndent s.mark.column none .blockMappingStart s.mark
    modify fun s => { s with simpleKeyAllowed := s.flowLevel == 0 }
  fetchIndicator .value 1

/-- An anchor or alias. -/
def fetchAnchor (isAnchor : Bool) : ScanM Unit := do
  saveSimpleKey
  modify fun s => { s with simpleKeyAllowed := false }
  enqueue (← scanAnchor isAnchor)

/-- A tag. -/
def fetchTag : ScanM Unit := do
  saveSimpleKey
  modify fun s => { s with simpleKeyAllowed := false }
  enqueue (← scanTag)

/-- A block scalar. -/
def fetchBlockScalar (literal : Bool) : ScanM Unit := do
  removeSimpleKey
  modify fun s => { s with simpleKeyAllowed := true }
  enqueue (← scanBlockScalar literal)

/-- A quoted scalar. -/
def fetchFlowScalar (single : Bool) : ScanM Unit := do
  saveSimpleKey
  modify fun s => { s with simpleKeyAllowed := false }
  enqueue (← scanFlowScalar single)

/-- A plain scalar; one that ran over a line break lets a simple key follow. -/
def fetchPlainScalar : ScanM Unit := do
  saveSimpleKey
  modify fun s => { s with simpleKeyAllowed := false }
  let (t, leadingBlanks) ← scanPlainScalar
  if leadingBlanks then modify fun s => { s with simpleKeyAllowed := true }
  enqueue t

/-- **Fetch the next token**, chosen by the first character(s). -/
def fetchNextToken : ScanM Unit := do
  if !(← get).streamStartProduced then fetchStreamStart
  else
    scanToNextToken
    staleSimpleKeys
    unrollIndent ((← get).mark.column)
    let c ← cur
    let d ← peekAt 1
    let s ← get
    let flow := s.flowLevel > 0
    if isZ c then fetchStreamEnd
    else if s.mark.column == 0 && c == '%' then fetchDirective
    else if (← atIndicator '-') then fetchDocumentIndicator .documentStart
    else if (← atIndicator '.') then fetchDocumentIndicator .documentEnd
    else if c == '[' then fetchFlowCollectionStart .flowSequenceStart
    else if c == '{' then fetchFlowCollectionStart .flowMappingStart
    else if c == ']' then fetchFlowCollectionEnd .flowSequenceEnd
    else if c == '}' then fetchFlowCollectionEnd .flowMappingEnd
    else if c == ',' then fetchFlowEntry
    else if c == '-' && isBlankZ d then fetchBlockEntry
    else if c == '?' && (flow || isBlankZ d) then fetchKey
    else if c == ':' && (flow || isBlankZ d) then fetchValue
    else if c == '*' then fetchAnchor false
    else if c == '&' then fetchAnchor true
    else if c == '!' then fetchTag
    else if c == '|' && !flow then fetchBlockScalar true
    else if c == '>' && !flow then fetchBlockScalar false
    else if c == '\'' then fetchFlowScalar true
    else if c == '"' then fetchFlowScalar false
    else if !(isBlankZ c || "-?:,[]\x7b\x7d#&*!|>'\"%@\x60".contains c) || (c == '-' && !isBlank d) ||
        (!flow && (c == '?' || c == ':') && !isBlankZ d) then fetchPlainScalar
    else fail (some "while scanning for the next token") s.mark "found character that cannot start any token"

/-- Whether a token must wait: the queue is empty, or a simple key that may
still be completed would be inserted at its head. -/
def needMoreTokens : ScanM Bool := do
  let s ← get
  if s.head ≥ s.queue.size then return true
  staleSimpleKeys
  let s ← get
  pure (s.simpleKeys.any fun k => k.possible && k.tokenNumber == s.tokensParsed)

/-- **Fetch tokens** until the head of the queue is settled. -/
def fetchMoreTokens : ScanM Unit := do
  let rec go : Nat → ScanM Unit
    | 0 => pure ()
    | n + 1 => do
      if ← needMoreTokens then
        fetchNextToken
        go n
  go ((← fuel) + 8)
  modify fun s => { s with tokenAvailable := true }

/-- **The next token**, without consuming it. -/
def peekToken : ScanM Token := do
  if !(← get).tokenAvailable then fetchMoreTokens
  let s ← get
  pure (s.queue.getD s.head { kind := .streamEnd, start := s.mark, stop := s.mark })

/-- Consume the next token. -/
def skipToken : ScanM Unit :=
  modify fun s =>
    let t := s.queue.getD s.head default
    { s with tokenAvailable := false, tokensParsed := s.tokensParsed + 1,
             streamEndProduced := t.kind == .streamEnd, head := s.head + 1 }

/-- A scanner at the start of `text`.  A byte order mark stays in the text:
the scanner passes over it at the start of a line, as one column. -/
def ofString (text : String) : Scanner := { input := text.toList.toArray }

end Scanner
end Yaml
end ShmBench
