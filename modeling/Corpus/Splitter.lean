import Corpus.Document.Draft

/-!
# Splitting text

A splitter cuts a text into windows of a fixed count of characters, each of which repeats the end
of the one before it.  The chunks of a document inherit its metadata and name their parent.
-/

namespace Corpus

/-- How text is split: the length of a chunk and how much of it the next one repeats. -/
structure Splitter where
  chunkSize : Nat
  chunkOverlap : Nat
  /-- Whether chunks take over the formatter of their parent. -/
  copyFormatter : Bool

namespace Splitter

/-- What a chunk repeats of the one before it: always less than a whole chunk. -/
def overlap (splitter : Splitter) : Nat :=
  min splitter.chunkOverlap (splitter.chunkSize - 1)

/-- How far the start of a chunk is behind that of the one before it. -/
def step (splitter : Splitter) : Nat :=
  max 1 (splitter.chunkSize - splitter.overlap)

/-- The windows of a text, the last of which reaches its end; `bound` limits their number. -/
def windows (size step : Nat) : Nat → List Char → List (List Char)
  | _, [] => []
  | 0, _ => []
  | bound + 1, text =>
    if (text.drop size).isEmpty then [text]
    else text.take size :: windows size step bound (text.drop step)

/-- The chunks of a text.  A splitter for chunks without characters has none. -/
def chunks (splitter : Splitter) (text : List Char) : List (List Char) :=
  if splitter.chunkSize = 0 then []
  else windows splitter.chunkSize splitter.step text.length text

def splitText (splitter : Splitter) (text : String) : List String :=
  (splitter.chunks text.toList).map String.ofList

def parentKey : String := "parent_document_id"

/-- The metadata key of the position among the parent's chunks. -/
def indexKey : String := "chunk_index"

def draft (splitter : Splitter) (parent : Document) (index : Nat) (chunk : String) : Draft :=
  let draft := (Draft.blank.setContent chunk).setMetadata parent.metadata
  let draft := (draft.setEntry parentKey (.string parent.id)).setEntry indexKey (.ofNat index)
  if splitter.copyFormatter then draft.setFormatter parent.formatter else draft

/-- The documents of some chunks, the first of which has the given position. -/
def buildChunks (splitter : Splitter) (parent : Document) :
    Nat → List String → Attempt DocumentError (List Document)
  | _, [] => return []
  | index, chunk :: chunks => do
    let document ← (splitter.draft parent index chunk).build
    let documents ← buildChunks splitter parent (index + 1) chunks
    return document :: documents

def buildAll (splitter : Splitter) : List Document → Attempt DocumentError (List Document)
  | [] => return []
  | parent :: parents => do
    let documents ← splitter.buildChunks parent 0 (splitter.splitText parent.content)
    let others ← buildAll splitter parents
    return documents ++ others

/-- The chunks of some documents, each with a random identifier. -/
def splitDocuments (splitter : Splitter) (parents : List Document) :
    Attempt RetrievalError (List Document) := do
  let documents ← (splitter.buildAll parents).adapt RetrievalError.document
  Session.report (.split parents.length documents.length)
  return documents

end Splitter

end Corpus
