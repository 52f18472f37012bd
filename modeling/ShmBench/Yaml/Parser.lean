import ShmBench.Yaml.Scanner

/-!
# YAML events

The parser reads tokens and emits events: stream and document boundaries,
scalars, aliases, and the starts and ends of sequences and mappings.  It is
the reference loader's state machine: each state says what may come next,
a stack of states says where to return after a node, and a stack of marks
remembers where each open collection began, for error messages.

Tags are resolved here: `!!x` becomes `tag:yaml.org,2002:x`, `!x` stays, and
`%TAG` directives add handles for one document.  A missing node (a key
without a value, say) becomes an empty plain scalar.

Each call of `Parser.next` consumes at most one token more than it looks at,
and the scanner reads the text once, so a run over the text takes at most as
many events as the text has tokens.
-/

namespace ShmBench
namespace Yaml

/-- **An event** of the loader. -/
inductive Event where
  | streamStart
  | streamEnd
  | documentStart (implicit : Bool)
  | documentEnd (implicit : Bool)
  | alias (name : String)
  | scalar (anchor tag : Option String) (text : String) (style : ScalarStyle)
  | sequenceStart (anchor tag : Option String)
  | sequenceEnd
  | mappingStart (anchor tag : Option String)
  | mappingEnd
  deriving Repr, Inhabited

/-- Where the parser is in the grammar. -/
inductive ParseState where
  | streamStart
  | implicitDocumentStart
  | documentStart
  | documentContent
  | documentEnd
  | blockNode
  | blockNodeOrIndentlessSequence
  | flowNode
  | blockSequenceFirstEntry
  | blockSequenceEntry
  | indentlessSequenceEntry
  | blockMappingFirstKey
  | blockMappingKey
  | blockMappingValue
  | flowSequenceFirstEntry
  | flowSequenceEntry
  | flowSequenceEntryMappingKey
  | flowSequenceEntryMappingValue
  | flowSequenceEntryMappingEnd
  | flowMappingFirstKey
  | flowMappingKey
  | flowMappingValue
  | flowMappingEmptyValue
  | finished
  deriving DecidableEq, Repr, Inhabited

/-- **The parser's state.** -/
structure Parser where
  scanner : Scanner
  state : ParseState := .streamStart
  states : List ParseState := []
  marks : List Mark := []
  tagDirectives : List (String × String) := []
  deriving Inhabited

/-- Parsing steps. -/
abbrev ParseM := StateT Parser (Except Problem)

namespace Parser

/-- Run a scanning step. -/
def scan {α : Type} (m : ScanM α) : ParseM α := do
  let p ← get
  match m.run p.scanner with
  | .ok (a, s) =>
    set { p with scanner := s }
    pure a
  | .error e => throw e

/-- The next token. -/
def peek : ParseM Token := scan Scanner.peekToken

/-- Consume the next token. -/
def skip : ParseM Unit := scan Scanner.skipToken

/-- Fail at `mark`. -/
def fail {α : Type} (problem : String) (mark : Mark) : ParseM α :=
  throw { problem, problemMark := mark }

/-- Fail at `mark`, while reading what began at `contextMark`. -/
def failIn {α : Type} (context : String) (contextMark : Mark) (problem : String) (mark : Mark) :
    ParseM α :=
  throw { problem, problemMark := mark, context := some context, contextMark }

/-- Push a state to return to. -/
def pushState (st : ParseState) : ParseM Unit := modify fun p => { p with states := st :: p.states }

/-- Return to the last pushed state. -/
def popState : ParseM Unit :=
  modify fun p => match p.states with
    | st :: rest => { p with state := st, states := rest }
    | [] => { p with state := .finished }

/-- Go to a state. -/
def goto (st : ParseState) : ParseM Unit := modify fun p => { p with state := st }

/-- Remember where a collection began. -/
def pushMark (m : Mark) : ParseM Unit := modify fun p => { p with marks := m :: p.marks }

/-- Forget the innermost collection's start, returning it. -/
def popMark : ParseM Mark := do
  let p ← get
  match p.marks with
  | m :: rest =>
    set { p with marks := rest }
    pure m
  | [] => pure {}

/-- An empty plain scalar at `mark`. -/
def emptyScalar (mark : Mark) : Event × Mark := (.scalar none none "" .plain, mark)

/-- The handles every document has. -/
def defaultTagDirectives : List (String × String) := [("!", "!"), ("!!", "tag:yaml.org,2002:")]

/-- Read `%YAML` and `%TAG` directives before a document. -/
def processDirectives : ParseM Unit := do
  let rec go : Nat → Bool → ParseM Unit
    | 0, _ => pure ()
    | n + 1, seenVersion => do
      let t ← peek
      match t.kind with
      | .versionDirective major minor =>
        if seenVersion then fail "found duplicate %YAML directive" t.start
        if major != 1 || (minor != 1 && minor != 2) then fail "found incompatible YAML document" t.start
        skip
        go n true
      | .tagDirective handle uri =>
        if (← get).tagDirectives.any (·.1 == handle) then fail "found duplicate %TAG directive" t.start
        modify fun p => { p with tagDirectives := p.tagDirectives ++ [(handle, uri)] }
        skip
        go n seenVersion
      | _ => pure ()
  go ((← get).scanner.input.size + 2) false
  for (h, u) in defaultTagDirectives do
    if !(← get).tagDirectives.any (·.1 == h) then
      modify fun p => { p with tagDirectives := p.tagDirectives ++ [(h, u)] }

/-- The start of the stream. -/
def parseStreamStart : ParseM (Event × Mark) := do
  let t ← peek
  if t.kind != .streamStart then fail "did not find expected <stream-start>" t.start
  goto .implicitDocumentStart
  skip
  pure (.streamStart, t.start)

/-- The start of a document, or the end of the stream. -/
def parseDocumentStart (implicit : Bool) : ParseM (Event × Mark) := do
  let rec skipEnds : Nat → ParseM Token
    | 0 => peek
    | n + 1 => do
      let t ← peek
      if t.kind == .documentEnd then
        skip
        skipEnds n
      else pure t
  let t ← if implicit then peek else skipEnds ((← get).scanner.input.size + 2)
  let isDirective := match t.kind with
    | .versionDirective .. | .tagDirective .. => true
    | _ => false
  if implicit && !isDirective && t.kind != .documentStart && t.kind != .streamEnd then
    processDirectives
    pushState .documentEnd
    goto .blockNode
    pure (.documentStart true, t.start)
  else if t.kind != .streamEnd then
    let start := t.start
    processDirectives
    let t ← peek
    if t.kind != .documentStart then fail "did not find expected <document start>" t.start
    pushState .documentEnd
    goto .documentContent
    skip
    pure (.documentStart false, start)
  else
    goto .finished
    skip
    pure (.streamEnd, t.start)

/-- The end of a document; its tag handles are dropped. -/
def parseDocumentEnd : ParseM (Event × Mark) := do
  let t ← peek
  let explicit := t.kind == .documentEnd
  if explicit then skip
  modify fun p => { p with tagDirectives := [], state := .documentStart }
  pure (.documentEnd (!explicit), t.start)

/-- **A node**: an alias, or a scalar or collection with optional anchor and
tag.  In a block mapping's value, a `-` at the key's column starts a
sequence without indentation. -/
def parseNode (block indentlessSequence : Bool) : ParseM (Event × Mark) := do
  let t ← peek
  match t.kind with
  | .alias name =>
    popState
    skip
    pure (.alias name, t.start)
  | _ =>
    let start := t.start
    let (anchor, tagParts, tagMark, t) ← match t.kind with
      | .anchor a => do
        skip
        let t2 ← peek
        match t2.kind with
        | .tag h s =>
          skip
          pure (some a, some (h, s), t2.start, ← peek)
        | _ => pure (some a, none, start, t2)
      | .tag h s => do
        skip
        let t2 ← peek
        match t2.kind with
        | .anchor a =>
          skip
          pure (some a, some (h, s), start, ← peek)
        | _ => pure (none, some (h, s), start, t2)
      | _ => pure (none, none, start, t)
    let tag ← match tagParts with
      | none => pure none
      | some (h, s) =>
        if h.isEmpty then pure (some s)
        else match (← get).tagDirectives.find? (·.1 == h) with
          | some (_, u) => pure (some (u ++ s))
          | none => failIn "while parsing a node" start "found undefined tag handle" tagMark
    if indentlessSequence && t.kind == .blockEntry then
      goto .indentlessSequenceEntry
      pure (.sequenceStart anchor tag, start)
    else
      match t.kind with
      | .scalar text style =>
        popState
        skip
        pure (.scalar anchor tag text style, start)
      | .flowSequenceStart =>
        goto .flowSequenceFirstEntry
        pure (.sequenceStart anchor tag, start)
      | .flowMappingStart =>
        goto .flowMappingFirstKey
        pure (.mappingStart anchor tag, start)
      | .blockSequenceStart =>
        if block then
          goto .blockSequenceFirstEntry
          pure (.sequenceStart anchor tag, start)
        else noContent anchor tag start t
      | .blockMappingStart =>
        if block then
          goto .blockMappingFirstKey
          pure (.mappingStart anchor tag, start)
        else noContent anchor tag start t
      | _ => noContent anchor tag start t
where
  /-- A node with only an anchor or tag is an empty scalar; one with neither
  is an error. -/
  noContent (anchor tag : Option String) (start : Mark) (t : Token) : ParseM (Event × Mark) := do
    if anchor.isSome || tag.isSome then
      popState
      pure (.scalar anchor tag "" .plain, start)
    else
      failIn (if block then "while parsing a block node" else "while parsing a flow node") start
        "did not find expected node content" t.start

/-- The content of an explicit document, which may be empty. -/
def parseDocumentContent : ParseM (Event × Mark) := do
  let t ← peek
  match t.kind with
  | .versionDirective .. | .tagDirective .. | .documentStart | .documentEnd | .streamEnd =>
    popState
    pure (emptyScalar t.start)
  | _ => parseNode true false

/-- Whether a token begins a node in the current context. -/
def startsNode (t : Token) (stops : List TokenKind) : Bool := !stops.contains t.kind

/-- An entry of a block sequence, or its end. -/
def parseBlockSequenceEntry (first : Bool) : ParseM (Event × Mark) := do
  if first then
    pushMark (← peek).start
    skip
  let t ← peek
  if t.kind == .blockEntry then
    let mark := t.stop
    skip
    let t ← peek
    if startsNode t [.blockEntry, .blockEnd] then
      pushState .blockSequenceEntry
      parseNode true false
    else
      goto .blockSequenceEntry
      pure (emptyScalar mark)
  else if t.kind == .blockEnd then
    popState
    let _ ← popMark
    skip
    pure (.sequenceEnd, t.start)
  else
    failIn "while parsing a block collection" (← popMark) "did not find expected '-' indicator" t.start

/-- An entry of a sequence without indentation, or its end. -/
def parseIndentlessSequenceEntry : ParseM (Event × Mark) := do
  let t ← peek
  if t.kind == .blockEntry then
    let mark := t.stop
    skip
    let t ← peek
    if startsNode t [.blockEntry, .key, .value, .blockEnd] then
      pushState .indentlessSequenceEntry
      parseNode true false
    else
      goto .indentlessSequenceEntry
      pure (emptyScalar mark)
  else
    popState
    pure (.sequenceEnd, t.start)

/-- A key of a block mapping, or its end. -/
def parseBlockMappingKey (first : Bool) : ParseM (Event × Mark) := do
  if first then
    pushMark (← peek).start
    skip
  let t ← peek
  if t.kind == .key then
    let mark := t.stop
    skip
    let t ← peek
    if startsNode t [.key, .value, .blockEnd] then
      pushState .blockMappingValue
      parseNode true true
    else
      goto .blockMappingValue
      pure (emptyScalar mark)
  else if t.kind == .blockEnd then
    popState
    let _ ← popMark
    skip
    pure (.mappingEnd, t.start)
  else
    failIn "while parsing a block mapping" (← popMark) "did not find expected key" t.start

/-- A value of a block mapping; a missing one is empty. -/
def parseBlockMappingValue : ParseM (Event × Mark) := do
  let t ← peek
  if t.kind == .value then
    let mark := t.stop
    skip
    let t ← peek
    if startsNode t [.key, .value, .blockEnd] then
      pushState .blockMappingKey
      parseNode true true
    else
      goto .blockMappingKey
      pure (emptyScalar mark)
  else
    goto .blockMappingKey
    pure (emptyScalar t.start)

/-- An entry of a flow sequence, or its end; `key: value` inside makes a
one-pair mapping. -/
def parseFlowSequenceEntry (first : Bool) : ParseM (Event × Mark) := do
  if first then
    pushMark (← peek).start
    skip
  let t ← peek
  let t ← if t.kind != .flowSequenceEnd && !first then
      if t.kind == .flowEntry then
        skip
        peek
      else failIn "while parsing a flow sequence" (← popMark) "did not find expected ',' or ']'" t.start
    else pure t
  if t.kind == .key then
    goto .flowSequenceEntryMappingKey
    skip
    pure (.mappingStart none none, t.start)
  else if t.kind != .flowSequenceEnd then
    pushState .flowSequenceEntry
    parseNode false false
  else
    popState
    let _ ← popMark
    skip
    pure (.sequenceEnd, t.start)

/-- The key of a one-pair mapping in a flow sequence. -/
def parseFlowSequenceEntryMappingKey : ParseM (Event × Mark) := do
  let t ← peek
  if startsNode t [.value, .flowEntry, .flowSequenceEnd] then
    pushState .flowSequenceEntryMappingValue
    parseNode false false
  else
    goto .flowSequenceEntryMappingValue
    pure (emptyScalar t.start)

/-- The value of a one-pair mapping in a flow sequence. -/
def parseFlowSequenceEntryMappingValue : ParseM (Event × Mark) := do
  let t ← peek
  if t.kind == .value then
    skip
    let t ← peek
    if startsNode t [.flowEntry, .flowSequenceEnd] then
      pushState .flowSequenceEntryMappingEnd
      return ← parseNode false false
    goto .flowSequenceEntryMappingEnd
    return emptyScalar t.start
  goto .flowSequenceEntryMappingEnd
  pure (emptyScalar t.start)

/-- The end of a one-pair mapping in a flow sequence. -/
def parseFlowSequenceEntryMappingEnd : ParseM (Event × Mark) := do
  let t ← peek
  goto .flowSequenceEntry
  pure (.mappingEnd, t.start)

/-- A key of a flow mapping, or its end. -/
def parseFlowMappingKey (first : Bool) : ParseM (Event × Mark) := do
  if first then
    pushMark (← peek).start
    skip
  let t ← peek
  let t ← if t.kind != .flowMappingEnd && !first then
      if t.kind == .flowEntry then
        skip
        peek
      else failIn "while parsing a flow mapping" (← popMark) "did not find expected ',' or '\x7d'" t.start
    else pure t
  if t.kind == .key then
    skip
    let t ← peek
    if startsNode t [.value, .flowEntry, .flowMappingEnd] then
      pushState .flowMappingValue
      parseNode false false
    else
      goto .flowMappingValue
      pure (emptyScalar t.start)
  else if t.kind != .flowMappingEnd then
    pushState .flowMappingEmptyValue
    parseNode false false
  else
    popState
    let _ ← popMark
    skip
    pure (.mappingEnd, t.start)

/-- A value of a flow mapping; a missing one is empty. -/
def parseFlowMappingValue (empty : Bool) : ParseM (Event × Mark) := do
  let t ← peek
  if empty then
    goto .flowMappingKey
    return emptyScalar t.start
  if t.kind == .value then
    skip
    let t ← peek
    if startsNode t [.flowEntry, .flowMappingEnd] then
      pushState .flowMappingKey
      return ← parseNode false false
    goto .flowMappingKey
    return emptyScalar t.start
  goto .flowMappingKey
  pure (emptyScalar t.start)

/-- **The next event** and the mark where it starts; `none` after the end of
the stream. -/
def next : ParseM (Option (Event × Mark)) := do
  let p ← get
  if p.scanner.streamEndProduced || p.state == .finished then return none
  let e ← match p.state with
    | .streamStart => parseStreamStart
    | .implicitDocumentStart => parseDocumentStart true
    | .documentStart => parseDocumentStart false
    | .documentContent => parseDocumentContent
    | .documentEnd => parseDocumentEnd
    | .blockNode => parseNode true false
    | .blockNodeOrIndentlessSequence => parseNode true true
    | .flowNode => parseNode false false
    | .blockSequenceFirstEntry => parseBlockSequenceEntry true
    | .blockSequenceEntry => parseBlockSequenceEntry false
    | .indentlessSequenceEntry => parseIndentlessSequenceEntry
    | .blockMappingFirstKey => parseBlockMappingKey true
    | .blockMappingKey => parseBlockMappingKey false
    | .blockMappingValue => parseBlockMappingValue
    | .flowSequenceFirstEntry => parseFlowSequenceEntry true
    | .flowSequenceEntry => parseFlowSequenceEntry false
    | .flowSequenceEntryMappingKey => parseFlowSequenceEntryMappingKey
    | .flowSequenceEntryMappingValue => parseFlowSequenceEntryMappingValue
    | .flowSequenceEntryMappingEnd => parseFlowSequenceEntryMappingEnd
    | .flowMappingFirstKey => parseFlowMappingKey true
    | .flowMappingKey => parseFlowMappingKey false
    | .flowMappingValue => parseFlowMappingValue false
    | .flowMappingEmptyValue => parseFlowMappingValue true
    | .finished => parseStreamStart
  pure (some e)

/-- A parser at the start of `text`. -/
def ofString (text : String) : Parser := { scanner := Scanner.ofString text }

end Parser
end Yaml
end ShmBench
