import ShmBench.Yaml.Parser

/-!
# Documents

A document is the list of events between a document's start and its end, with
the stream and document boundaries dropped and every alias replaced by the
position of the node it names.  A reader walks a document by position and, at
an alias, jumps to that position and back (`Yaml.Decode`).

Loading keeps going past nothing: the first parse error, or an alias with no
anchor before it, ends the document, and the error is kept with the events read
so far (`Document.error`).  A reader that needs no more than those events
still succeeds, and the error is reported after it; a reader that runs past
them reports the error instead of an early end.

A stream with no document at all reads as one document holding a single
`void` event.

Each step of `Loader.nextDocument` asks the parser for one event, and the parser
consumes the text, so the number of events is bounded by the text's length
(`Loader.fuel`).
-/

namespace ShmBench
namespace Yaml

/-- **An event of a loaded document.** -/
inductive Node where
  /-- A reference to the node that starts at this position. -/
  | alias (target : Nat)
  /-- A scalar with its tag, text and style. -/
  | scalar (tag : Option String) (text : String) (style : ScalarStyle)
  /-- The start of a sequence, with its tag. -/
  | sequenceStart (tag : Option String)
  /-- The end of a sequence. -/
  | sequenceEnd
  /-- The start of a mapping, with its tag. -/
  | mappingStart (tag : Option String)
  /-- The end of a mapping. -/
  | mappingEnd
  /-- The stand-in for a stream without documents. -/
  | void

/-- **Why a document ended early.** -/
inductive LoadError where
  /-- The scanner or parser found a problem. -/
  | problem (p : Problem)
  /-- An alias named no anchor seen so far. -/
  | unknownAnchor (mark : Mark)

/-- The text of a load error. -/
def LoadError.message : LoadError → String
  | .problem p => p.message
  | .unknownAnchor m => "unknown anchor" ++ (if m.isStart then "" else " at " ++ m.text)

/-- **A loaded document**: its events with their marks, and the error that
ended it, if one did. -/
structure Document where
  events : Array (Node × Mark) := #[]
  error : Option LoadError := none

/-- **A loader** over a stream: the parser until the stream has ended, and how
many documents it has handed out. -/
structure Loader where
  parser : Option Parser
  count : Nat := 0
  /-- Steps left; each consumes an event. -/
  fuel : Nat

namespace Loader

/-- A loader at the start of `text`.  Every event consumes text, and there are
at most a few events per character, so four per character bound the work. -/
def ofString (text : String) : Loader :=
  { parser := some (Parser.ofString text), fuel := 4 * text.length + 16 }

/-- Add an anchor for the event about to be pushed. -/
def anchorAt (anchors : List (String × Nat)) (anchor : Option String) (pos : Nat) :
    List (String × Nat) :=
  match anchor with
  | some a => (a, pos) :: anchors
  | none => anchors

/-- The next document of the stream, and the loader after it; none once the
stream has ended.  The first call on a stream without documents gives a
document holding only `void`. -/
def nextDocument (l : Loader) : Option Document × Loader :=
  match l.parser with
  | none => (none, l)
  | some p =>
    let first := l.count == 0
    let l := { l with count := l.count + 1 }
    let rec go (fuel : Nat) (p : Parser) (anchors : List (String × Nat)) (doc : Document) :
        Option Document × Loader :=
      match fuel with
      | 0 => (some doc, { l with parser := none, fuel := 0 })
      | fuel + 1 =>
        let done (d : Document) (p : Option Parser) : Option Document × Loader :=
          (some d, { l with parser := p, fuel := fuel })
        match StateT.run Parser.next p with
        | .error e => done { doc with error := some (.problem e) } (some p)
        | .ok (none, _) =>
          (if first then some (if doc.events.isEmpty then { doc with events := #[(.void, {})] } else doc)
           else none, { l with parser := none, fuel := fuel })
        | .ok (some (ev, mark), p') =>
          let push (n : Node) (anchor : Option String) :=
            go fuel p' (anchorAt anchors anchor doc.events.size) { doc with events := doc.events.push (n, mark) }
          match ev with
          | .streamStart => go fuel p' anchors doc
          | .streamEnd =>
            (if first then some (if doc.events.isEmpty then { doc with events := #[(.void, mark)] } else doc)
             else none, { l with parser := none, fuel := fuel })
          | .documentStart _ => go fuel p' anchors doc
          | .documentEnd _ => done doc (some p')
          | .alias name =>
            match anchors.lookup name with
            | some target => go fuel p' anchors { doc with events := doc.events.push (.alias target, mark) }
            | none => done { doc with error := some (.unknownAnchor mark) } (some p')
          | .scalar anchor tag text style => push (.scalar tag text style) anchor
          | .sequenceStart anchor tag => push (.sequenceStart tag) anchor
          | .sequenceEnd => push .sequenceEnd none
          | .mappingStart anchor tag => push (.mappingStart tag) anchor
          | .mappingEnd => push .mappingEnd none
    go l.fuel p [] {}

end Loader

/-- **Why reading a value failed.** -/
inductive DecodeError where
  /-- A message, with the mark and the path of the value it is about once
  they are known. -/
  | message (text : String) (at? : Option (Mark × String))
  /-- The document ended early. -/
  | load (e : LoadError)
  /-- The events ran out while a value was expected. -/
  | endOfStream
  /-- The stream holds a second document. -/
  | moreThanOneDocument
  /-- Aliases were followed more often than the document allows. -/
  | repetitionLimit

/-- The text of a decoding error: the path (unless it is the root), the
message, and the position unless it is the very start. -/
def DecodeError.text : DecodeError → String
  | .message t none => t
  | .message t (some (m, path)) =>
    (if path == "." then "" else path ++ ": ") ++ t ++ (if m.isStart then "" else " at " ++ m.text)
  | .load e => e.message
  | .endOfStream => "EOF while parsing a value"
  | .moreThanOneDocument => "deserializing from YAML containing more than one document is not supported"
  | .repetitionLimit => "repetition limit exceeded"

/-- The first document of `text` read by `read`.  A load error that `read`
did not run into is reported after it succeeds, and so is a second document. -/
def decodeDocument {α : Type} (text : String) (read : Document → Except DecodeError α) :
    Except DecodeError α :=
  match checkInput text with
  | .error p => .error (.load (.problem p))
  | .ok () =>
    match Loader.nextDocument (Loader.ofString text) with
    | (none, _) => .error .endOfStream
    | (some doc, loader) => do
      let v ← read doc
      if let some e := doc.error then throw (.load e)
      match loader.nextDocument with
      | (none, _) => pure v
      | (some _, _) => throw .moreThanOneDocument

end Yaml
end ShmBench
