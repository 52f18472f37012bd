import ShmBench.Yaml.Load
import ShmBench.Yaml.Scalar

/-!
# Reading typed values from a document

A reader walks a loaded document from a position, and each reader takes the
events of one value:

* `Decode.unsigned`, `Decode.bool` and `Decode.string` read scalars;
* `Decode.unitEnum` reads the name of a variant, either as the scalar's text
  or as its `!tag`;
* `Decode.record` reads a mapping into a record, field by field, refusing a
  field it does not know and a field given twice.

An alias is followed by jumping to its node and coming back
(`Decode.jump`); every jump is counted, and a document may not be walked more
than a hundred times its length, so a chain of aliases that doubles at each
step is refused instead of read.

Every error is placed where it happened: the first reader that sees an error
without a place gives it the mark of the node it was reading and the path to
that node (`fixMark`), written `protocol.ack_timeout_ms`.  So a value of the
wrong type is reported at the value, and a field given twice at the mapping
that holds it.

A value of the wrong type is quoted as the scalar resolves (`Resolved`): a
number field given `"16"` reports a string, given `-1` an integer, given
`1e2` the float `100.0`.
-/

namespace ShmBench
namespace Yaml

/-- **Where a value sits** in the document: the keys that lead to it. -/
inductive Path where
  /-- The document's root. -/
  | root
  /-- The value under a key. -/
  | map (parent : Path) (key : String)
  /-- The node an alias names, read where the alias stands. -/
  | alias (parent : Path)
  /-- The value under a key that is not a scalar. -/
  | unknown (parent : Path)

/-- A path as dotted keys: `.` for the root, `transport.region_size_mb` below
it, `?` for a key that is not text. -/
def Path.text : Path → String
  | .root => "."
  | .map .root key => key
  | .map p key => p.text ++ "." ++ key
  | .alias p => p.text
  | .unknown .root => "?"
  | .unknown p => p.text ++ ".?"

example : (Path.map (.map .root "transport") "region_size_mb").text = "transport.region_size_mb" := rfl

/-- **A reader's place**: the document, the position of the next event, and
how many aliases have been followed. -/
structure Cursor where
  doc : Document
  pos : Nat := 0
  jumps : Nat := 0

/-- Readers: they move the cursor and may fail. -/
abbrev DecodeM := StateT Cursor (Except DecodeError)

/-- A message without a place yet. -/
def DecodeError.plain (text : String) : DecodeError := .message text none

/-- Give a placeless message the mark and path of the value being read. -/
def fixMark (mark : Mark) (path : Path) : DecodeError → DecodeError
  | .message t none => .message t (some (mark, path.text))
  | e => e

/-- The names a value may take, as an error lists them. -/
def oneOf (names : List String) : String :=
  let quoted := names.map (fun n => "`" ++ n ++ "`")
  match quoted with
  | [a] => a
  | [a, b] => a ++ " or " ++ b
  | _ => "one of " ++ ", ".intercalate quoted

/-- The error for a field name that is not one of `fields`. -/
def unknownField (name : String) (fields : List String) : DecodeError :=
  .plain (if fields.isEmpty then s!"unknown field `{name}`, there are no fields"
    else s!"unknown field `{name}`, expected {oneOf fields}")

/-- The error for a variant name that is not one of `names`. -/
def unknownVariant (name : String) (names : List String) : DecodeError :=
  .plain (if names.isEmpty then s!"unknown variant `{name}`, there are no variants"
    else s!"unknown variant `{name}`, expected {oneOf names}")

/-- The error for text that a tag or a reader cannot take as `expected`. -/
def invalidValue (text expected : String) : DecodeError :=
  .plain ("invalid value: string " ++ Escape.quoted text ++ ", expected " ++ expected)

/-- The tag of the YAML core schema named `name`. -/
def coreTag (name : String) : String := "tag:yaml.org,2002:" ++ name

/-- **What a scalar stands for** when no particular type is asked for.  A core
tag (`!!bool`, `!!int`, `!!float`, `!!null`) asks for its type and refuses
text of another; a local `!tag` on a plain scalar changes nothing; any other
tag, and any quoted or block scalar, is text.  Inside a tagged variant the
tag has been used up (`tagged`). -/
def resolveScalar (tag : Option String) (text : String) (style : ScalarStyle) (tagged : Bool) :
    Except DecodeError Resolved :=
  match tag, tagged with
  | some t, false =>
    if t == coreTag "bool" then
      match parseBool text with
      | some b => .ok (.bool b)
      | none => .error (invalidValue text "a boolean")
    else if t == coreTag "int" then
      match resolveInt text with
      | some r => .ok r
      | none => .error (invalidValue text "an integer")
    else if t == coreTag "float" then
      match parseF64 text with
      | some x => .ok (.float x)
      | none => .error (invalidValue text "a float")
    else if t == coreTag "null" then
      if parseNull text then .ok .unit else .error (invalidValue text "null")
    else if t.startsWith "!" && style == .plain then .ok (resolvePlain text)
    else .ok (.str text)
  | _, _ => .ok (if style == .plain then resolvePlain text else .str text)

/-- The error for a node that is not the `expected` kind of value: a scalar is
quoted as it resolves, collections by their kind.  A stream without documents
has simply ended. -/
def invalidType (n : Node) (expected : String) : DecodeError :=
  let wrong (what : String) := DecodeError.plain s!"invalid type: {what}, expected {expected}"
  match n with
  | .scalar tag text style =>
    match resolveScalar tag text style false with
    | .error e => e
    | .ok r => wrong r.unexpected
  | .sequenceStart _ => wrong "sequence"
  | .mappingStart _ => wrong "map"
  | _ => .endOfStream

/-- Whether a scalar may be read as a number or flag of the core type `name`:
a plain one always, a block literal one only under that type's tag. -/
def readableAs (name : String) (tag : Option String) (style : ScalarStyle) : Bool :=
  match style, tag with
  | .plain, _ => true
  | .literal, some t => t == coreTag name
  | _, _ => false

/-- The name of a variant given as a tag: `!name`, or `!` alone. -/
def variantTag (tag : Option String) : Option String :=
  match tag with
  | some t =>
    if t.startsWith "!" then some (if t.length > 1 then (t.drop 1).copy else t) else none
  | none => none

namespace Decode

/-- The next event, without moving.  Past the last event, the error that ended
the document, or the end of the stream. -/
def peek : DecodeM (Node × Mark) := do
  let c ← get
  match c.doc.events[c.pos]? with
  | some e => pure e
  | none => throw (match c.doc.error with
    | some e => .load e
    | none => .endOfStream)

/-- The next event, moving past it. -/
def next : DecodeM (Node × Mark) := do
  let e ← peek
  modify fun c => { c with pos := c.pos + 1 }
  pure e

/-- Run `m`, placing its placeless errors at `mark` and `path`. -/
def placed {α : Type} (mark : Mark) (path : Path) (m : DecodeM α) : DecodeM α :=
  tryCatch m (fun e => throw (fixMark mark path e))

/-- Read with `m` from position `target`, then come back.  Each jump counts,
and more than a hundred per event is refused. -/
def jump {α : Type} (target : Nat) (m : DecodeM α) : DecodeM α := do
  let c ← get
  let jumps := c.jumps + 1
  if jumps > c.doc.events.size * 100 then throw .repetitionLimit
  set { c with pos := target, jumps := jumps }
  let v ← m
  modify fun c' => { c' with pos := c.pos }
  pure v

/-- **Read one node** with `read`, given the node, its mark and its path.  An
alias is followed: its node is read at the alias's path, and placed at the
node. -/
def node {α : Type} (read : Node → Mark → Path → DecodeM α) (path : Path) : DecodeM α := do
  let (n, mark) ← next
  placed mark path <| match n with
    | .alias target => jump target do
      let (n', mark') ← next
      placed mark' (.alias path) (read n' mark' (.alias path))
    | n => read n mark path

/-- Read one scalar with `read`. -/
def scalar {α : Type} (read : Node → Except DecodeError α) (path : Path) : DecodeM α :=
  node (fun n _ _ => liftM (m := Except DecodeError) (read n)) path

/-- A non-negative number of 64 bits; `expected` names the type in errors. -/
def unsigned (expected : String) : Path → DecodeM Nat :=
  scalar fun n => match n with
    | .scalar tag text style =>
      match (if readableAs "int" tag style then parseUnsigned 64 text else none) with
      | some v => .ok v
      | none => .error (invalidType n expected)
    | n => .error (invalidType n expected)

/-- A flag. -/
def bool : Path → DecodeM Bool :=
  scalar fun n => match n with
    | .scalar tag text style =>
      match (if readableAs "bool" tag style then parseBool text else none) with
      | some b => .ok b
      | none => .error (invalidType n "a boolean")
    | n => .error (invalidType n "a boolean")

/-- Text: any scalar's text, whatever its tag or style. -/
def string (expected : String := "a string") : Path → DecodeM String :=
  scalar fun n => match n with
    | .scalar _ text _ => .ok text
    | n => .error (invalidType n expected)

/-- The variant named `name`, or the error listing the variants. -/
def variantNamed {α : Type} (variants : List (String × α)) (name : String) : Except DecodeError α :=
  match variants.lookup name with
  | some v => .ok v
  | none => .error (unknownVariant name (variants.map Prod.fst))

/-- A variant without data named by a tag, then the node it tags, which must be
nothing. -/
def taggedUnit {α : Type} (variants : List (String × α)) (name : String) (path : Path) : DecodeM α := do
  let v ← liftM (m := Except DecodeError) (variantNamed variants name)
  let (n, mark) ← next
  placed mark path <| match n with
    | .scalar _ text style =>
      if style == .plain && (text.isEmpty || parseNull text) then pure v
      else throw (invalidValue text "null")
    | .void => pure v
    | n => throw (invalidType n "unit")

/-- The variant at the next node, which is not an alias. -/
def variantAt {α : Type} (variants : List (String × α)) (n : Node) (mark : Mark) (path : Path) :
    DecodeM α :=
  match n with
  | .scalar tag _ _ =>
    match variantTag tag with
    | some t => taggedUnit variants t path
    | none => placed mark path do
      let (_, _) ← next
      match n with
      | .scalar _ text _ => liftM (m := Except DecodeError) (variantNamed variants text)
      | _ => throw .endOfStream
  | .mappingStart tag =>
    match variantTag tag with
    | some t => taggedUnit variants t path
    | none => throw (fixMark mark path (.plain "invalid type: map, expected a YAML tag starting with '!'"))
  | .sequenceStart tag =>
    match variantTag tag with
    | some t => taggedUnit variants t path
    | none => throw (fixMark mark path (.plain "invalid type: sequence, expected a YAML tag starting with '!'"))
  | _ => throw .endOfStream

/-- **A variant without data**, by name: the scalar's text, or its `!tag`
with nothing tagged.  An error about the tag's name is placed by the reader
around it, not here. -/
def unitEnum {α : Type} (variants : List (String × α)) (path : Path) : DecodeM α := do
  let (n, mark) ← peek
  match n with
  | .alias target =>
    modify fun c => { c with pos := c.pos + 1 }
    placed mark path <| jump target do
      let (n', mark') ← peek
      variantAt variants n' mark' (.alias path)
  | n => variantAt variants n mark path

/-- **How to read a record**: its name for errors, its field names in order,
and how the value of a field updates the record read so far. -/
structure RecordSpec (σ : Type) where
  name : String
  fields : List String
  field : String → Path → σ → DecodeM σ

/-- The key of a mapping entry: a scalar naming one of the record's fields. -/
def fieldName {σ : Type} (spec : RecordSpec σ) (path : Path) : DecodeM String :=
  scalar (fun n => match n with
    | .scalar _ text _ => if spec.fields.contains text then .ok text else .error (unknownField text spec.fields)
    | n => .error (invalidType n "field identifier")) path

/-- The entries of a mapping up to its end, each field at most once.  Each
entry moves past at least one event, so the events left bound the entries. -/
def entries {σ : Type} (spec : RecordSpec σ) (path : Path) :
    Nat → List String → σ → DecodeM σ
  | 0, _, _ => throw .endOfStream
  | fuel + 1, seen, acc => do
    let (n, _) ← peek
    match n with
    | .mappingEnd | .void =>
      let _ ← next
      pure acc
    | _ =>
      let valuePath := match n with
        | .scalar _ text _ => Path.map path text
        | _ => Path.unknown path
      let name ← fieldName spec path
      if seen.contains name then throw (.plain s!"duplicate field `{name}`")
      let acc ← spec.field name valuePath acc
      entries spec path fuel (name :: seen) acc

/-- **A record** from a mapping; a missing field keeps its value in `init`.
Nothing at all (an empty plain scalar, or a stream without documents) is the
record `init`. -/
def record {σ : Type} (spec : RecordSpec σ) (init : σ) : Path → DecodeM σ :=
  node fun n _ path => match n with
    | .mappingStart _ => do
      let c ← get
      entries spec path (c.doc.events.size + 1) [] init
    | .scalar _ "" .plain => pure init
    | .void => pure init
    | n => throw (invalidType n ("struct " ++ spec.name))

/-- Read the whole of `text` as one value with `read`, from the root. -/
def run {α : Type} (text : String) (read : Path → DecodeM α) : Except DecodeError α :=
  decodeDocument text fun doc => (read .root).run' { doc := doc }

end Decode

end Yaml
end ShmBench
