import Corpus.Formatter.Mode

/-!
# Events

What the library reports while it works.  Each event has a level, a message and fields; all
values of fields are text.
-/

namespace Corpus

/-- How much attention an event asks for. -/
inductive Event.Level where
  | trace
  | debug
  | warn
  deriving DecidableEq

/-- Something that a reader of the log may want to know. -/
inductive Event where
  | generatedId (id : String)
  | formatting (id : String) (mode : MetadataMode) (selected : Nat)
  | contentDropped (template : String)
  | replacing (id : String)
  | indexing (count : Nat)
  | retrieved (topK returned : Nat)
  | split (parents chunks : Nat)
  deriving DecidableEq

namespace Event

def Level.name : Level → String
  | .trace => "TRACE"
  | .debug => "DEBUG"
  | .warn => "WARN"

def level : Event → Level
  | .formatting .. => .trace
  | .contentDropped .. => .warn
  | _ => .debug

def message : Event → String
  | .generatedId .. => "generated document id"
  | .formatting .. => "formatting document"
  | .contentDropped .. =>
    "text template has no \x7bcontent\x7d placeholder; document content will be dropped"
  | .replacing .. => "replacing stored document"
  | .indexing .. => "indexing documents"
  | .retrieved .. => "retrieved documents"
  | .split .. => "split documents"

def fields : Event → List (String × String)
  | .generatedId id => [("document_id", id)]
  | .formatting id mode selected =>
    [("document_id", id), ("mode", mode.diagnostic), ("selected", toString selected)]
  | .contentDropped template => [("text_template", template)]
  | .replacing id => [("document_id", id)]
  | .indexing count => [("count", toString count)]
  | .retrieved topK returned => [("top_k", toString topK), ("returned", toString returned)]
  | .split parents chunks => [("parents", toString parents), ("chunks", toString chunks)]

end Event

end Corpus
