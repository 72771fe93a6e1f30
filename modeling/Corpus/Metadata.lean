import Corpus.Text.Diagnostic

/-!
# Metadata

The metadata of a document is a map from keys to JSON values.  Its canonical text depends on the
entries alone and names the metadata wherever documents are identified.
-/

namespace Corpus

abbrev Metadata : Type := KeyMap Value

namespace Metadata

def writeEntry (entry : String × Value) : List Char :=
  Json.writeString entry.1 ++ ':' :: entry.2.json.write

/-- The canonical text: entries by ascending key, with a comma between them, in braces. -/
def canonical (metadata : Metadata) : String :=
  String.ofList ('{' :: ([','].intercalate (metadata.entries.map writeEntry) ++ ['}']))

/-- Writes the entry at a place behind a text; only the first entry has no comma before it. -/
def appendEntry (text : String) (place : (String × Value) × Nat) : String :=
  let started := if 0 < place.2 then text.push ',' else text
  (started ++ (Value.string place.1.1).compact).push ':' ++ place.1.2.compact

/-- The text of a listing in any order: its entries are sorted by key and written one by one. -/
def writeListing (listing : List (String × Value)) : String :=
  ((KeyMap.sortEntries listing).zipIdx.foldl appendEntry "\x7b").push '\x7d'

/-- Metadata is alike when the same keys have alike values. -/
def alike (left right : Metadata) : Bool :=
  KeyMap.alike Value.alike left right

/-- The text that a value has inside a prompt: a string stands without quotes, everything else in
compact form. -/
def render (value : Value) : String :=
  match value.json with
  | .string text => text
  | json => json.compact

def diagnostic (metadata : Metadata) : String :=
  Diagnostic.map (metadata.entries.map fun entry =>
    (Text.quoted entry.1, Diagnostic.json entry.2.json))

end Metadata

end Corpus
