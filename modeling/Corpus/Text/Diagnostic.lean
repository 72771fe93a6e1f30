import Corpus.Json.Printer
import Corpus.Text.Quoted

/-!
# Diagnostic text

The one-line notation that diagnostics show values in: constructors with their fields, lists and
maps in brackets, texts in quotes.
-/

namespace Corpus

namespace Diagnostic

def commas (parts : List String) : String :=
  String.intercalate ", " parts

def list (parts : List String) : String :=
  "[" ++ commas parts ++ "]"

def map (entries : List (String × String)) : String :=
  "\x7b" ++ commas (entries.map fun entry => entry.1 ++ ": " ++ entry.2) ++ "\x7d"

def set (keys : List String) : String :=
  "\x7b" ++ commas keys ++ "\x7d"

def call (name part : String) : String :=
  name ++ "(" ++ part ++ ")"

def record (name : String) (fields : List (String × String)) : String :=
  name ++ " \x7b " ++ commas (fields.map fun field => field.1 ++ ": " ++ field.2) ++ " \x7d"

/-- A constructor of which some fields are not shown. -/
def openRecord (name : String) (fields : List (String × String)) : String :=
  name ++ " \x7b " ++ commas (fields.map fun field => field.1 ++ ": " ++ field.2) ++ ", .. \x7d"

def option : Option String → String
  | none => "None"
  | some part => call "Some" part

mutual

/-- A JSON value, each with the name of its kind. -/
def json : Json → String
  | .null => "Null"
  | .bool value => call "Bool" (if value then "true" else "false")
  | .number value => call "Number" (String.ofList value.write)
  | .string text => call "String" (Text.quoted text)
  | .array items => "Array " ++ list (jsonItems items)
  | .object fields => "Object " ++ map (jsonFields fields)

def jsonItems : List Json → List String
  | [] => []
  | item :: items => json item :: jsonItems items

def jsonFields : List (String × Json) → List (String × String)
  | [] => []
  | (key, value) :: fields => (Text.quoted key, json value) :: jsonFields fields

end

end Diagnostic

end Corpus
