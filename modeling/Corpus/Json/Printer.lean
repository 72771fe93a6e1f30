import Corpus.Json.Basic
import Corpus.Text.Hex

/-!
# Compact JSON text

Values are written without blanks.  In strings only the quote, the backslash and the characters
below the blank are escaped; every other character stands for itself.
-/

namespace Corpus

namespace Json

/-- A character as it is written inside a string. -/
def escape (char : Char) : List Char :=
  if char = '"' then ['\\', '"']
  else if char = '\\' then ['\\', '\\']
  else if char = '\x08' then ['\\', 'b']
  else if char = '\x0c' then ['\\', 'f']
  else if char = '\n' then ['\\', 'n']
  else if char = '\r' then ['\\', 'r']
  else if char = '\t' then ['\\', 't']
  else if char.toNat < 0x20 then
    '\\' :: 'u' :: Hex.padded 4 char.toNat
  else [char]

def writeString (text : String) : List Char :=
  '"' :: (text.toList.flatMap escape ++ ['"'])

mutual

def write : Json → List Char
  | .null => ['n', 'u', 'l', 'l']
  | .bool true => ['t', 'r', 'u', 'e']
  | .bool false => ['f', 'a', 'l', 's', 'e']
  | .number value => value.write
  | .string text => writeString text
  | .array [] => ['[', ']']
  | .array (item :: items) => '[' :: (item.write ++ writeItems items)
  | .object [] => ['{', '}']
  | .object ((key, value) :: fields) =>
    '{' :: (writeString key ++ ':' :: (value.write ++ writeFields fields))

/-- The items of an array behind its first one, and the closing bracket. -/
def writeItems : List Json → List Char
  | [] => [']']
  | item :: items => ',' :: (item.write ++ writeItems items)

/-- The fields of an object behind its first one, and the closing brace. -/
def writeFields : List (String × Json) → List Char
  | [] => ['}']
  | (key, value) :: fields =>
    ',' :: (writeString key ++ ':' :: (value.write ++ writeFields fields))

end

def compact (json : Json) : String :=
  String.ofList json.write

end Json

def Value.compact (value : Value) : String :=
  value.json.compact

end Corpus
