import Corpus.Json.Outline

/-!
# From text to outlines

`Outline.ofText` goes through a JSON text once and never fails: where the text leaves the grammar,
the outline says so.  `Value.parse?` reads a text that holds one value and nothing else.
-/

namespace Corpus

namespace Outline

/-- A part of a string: a character that stands for itself or is named by a letter, or a unit of
sixteen bits written in hexadecimal. -/
inductive Piece where
  | char (value : Char)
  | unit (value : Nat)

/-- The character that a letter behind a backslash names. -/
def named? (letter : Char) : Option Char :=
  if letter = '"' then some '"'
  else if letter = '\\' then some '\\'
  else if letter = '/' then some '/'
  else if letter = 'b' then some '\x08'
  else if letter = 'f' then some '\x0c'
  else if letter = 'n' then some '\n'
  else if letter = 'r' then some '\r'
  else if letter = 't' then some '\t'
  else none

/-- The parts of a string behind its opening quote, and the text behind the closing one. -/
def scanPieces : List Char → Option (List Piece × List Char)
  | [] => none
  | '"' :: rest => some ([], rest)
  | '\\' :: 'u' :: a :: b :: c :: d :: rest => do
    let unit ← Hex.number? [a, b, c, d]
    let (pieces, rest) ← scanPieces rest
    return (.unit unit :: pieces, rest)
  | '\\' :: letter :: rest => do
    let char ← named? letter
    let (pieces, rest) ← scanPieces rest
    return (.char char :: pieces, rest)
  | char :: rest =>
    if char.toNat < 0x20 || char = '\\' then none
    else do
      let (pieces, rest) ← scanPieces rest
      return (.char char :: pieces, rest)

/-- The characters of a string; a unit that is half a surrogate pair must stand with its other
half. -/
def joinPieces : List Piece → Option (List Char)
  | [] => some []
  | .char char :: pieces => (joinPieces pieces).map (char :: ·)
  | .unit high :: .unit low :: pieces =>
    if 0xD800 ≤ high && high < 0xDC00 then
      if 0xDC00 ≤ low && low < 0xE000 then
        let code := 0x10000 + (high - 0xD800) * 0x400 + (low - 0xDC00)
        (joinPieces pieces).map (Char.ofNat code :: ·)
      else none
    else if 0xDC00 ≤ high && high < 0xE000 then none
    else (joinPieces (.unit low :: pieces)).map (Char.ofNat high :: ·)
  | .unit unit :: pieces =>
    if 0xD800 ≤ unit && unit < 0xE000 then none
    else (joinPieces pieces).map (Char.ofNat unit :: ·)

/-- A string behind its opening quote: its text, if it has one, and what follows. -/
def scanString (text : List Char) : Option (Option String × List Char) :=
  (scanPieces text).map fun (pieces, rest) => ((joinPieces pieces).map String.ofList, rest)

/-- The blanks between the parts of a JSON text. -/
def isSpace (char : Char) : Bool :=
  char = ' ' || char = '\n' || char = '\r' || char = '\t'

def skipSpace (text : List Char) : List Char :=
  text.dropWhile isSpace

/-- The outline of one place, with the text behind it if that place is in the grammar. -/
abbrev Scanned (α : Type) : Type := α × Option (List Char)

def scanStringValue (text : List Char) : Scanned Outline :=
  match scanString text with
  | none => (.broken, none)
  | some (none, rest) => (.valueless, some rest)
  | some (some text, rest) => (.string text, some rest)

def scanNumber (text : List Char) : Scanned Outline :=
  match Number.Literal.scan text with
  | none => (.broken, none)
  | some (literal, rest) =>
    match literal.number? with
    | none => (.valueless, some rest)
    | some value => (.number value, some rest)

mutual

/-- The value at the front of a text, behind blanks.  Every nested value is at least one character
shorter, so a bound above the length of the text is never reached. -/
def scanValue : Nat → List Char → Scanned Outline
  | 0, _ => (.broken, none)
  | bound + 1, text =>
    match skipSpace text with
    | [] => (.broken, none)
    | 'n' :: 'u' :: 'l' :: 'l' :: rest => (.null, some rest)
    | 't' :: 'r' :: 'u' :: 'e' :: rest => (.bool true, some rest)
    | 'f' :: 'a' :: 'l' :: 's' :: 'e' :: rest => (.bool false, some rest)
    | '"' :: rest => scanStringValue rest
    | '[' :: rest =>
      match skipSpace rest with
      | ']' :: rest => (.array [] true, some rest)
      | rest =>
        let (items, behind) := scanItems bound rest
        (.array items behind.isSome, behind)
    | '{' :: rest =>
      match skipSpace rest with
      | '}' :: rest => (.object [] true, some rest)
      | '"' :: rest =>
        let (fields, behind) := scanFields bound rest
        (.object fields behind.isSome, behind)
      | _ => (.object [] false, none)
    | char :: rest => scanNumber (char :: rest)

/-- The items of an array from the one at the front of a text. -/
def scanItems : Nat → List Char → Scanned (List Outline)
  | 0, _ => ([], none)
  | bound + 1, text =>
    match scanValue bound text with
    | (item, none) => ([item], none)
    | (item, some rest) =>
      match skipSpace rest with
      | ']' :: rest => ([item], some rest)
      | ',' :: rest =>
        let (items, behind) := scanItems bound rest
        (item :: items, behind)
      | _ => ([item], none)

/-- The fields of an object from the one whose key starts behind the quote that was read. -/
def scanFields : Nat → List Char → Scanned (List (Option String × Outline))
  | 0, _ => ([], none)
  | bound + 1, text =>
    match scanString text with
    | none => ([], none)
    | some (key, rest) =>
      match skipSpace rest with
      | ':' :: rest =>
        match scanValue bound rest with
        | (value, none) => ([(key, value)], none)
        | (value, some rest) =>
          match skipSpace rest with
          | '}' :: rest => ([(key, value)], some rest)
          | ',' :: rest =>
            match skipSpace rest with
            | '"' :: rest =>
              let (fields, behind) := scanFields bound rest
              ((key, value) :: fields, behind)
            | _ => ([(key, value)], none)
          | _ => ([(key, value)], none)
      | _ => ([(key, .broken)], none)

end

/-- The outline of a text, and whether only blanks follow the value. -/
def ofText (text : String) : Outline × Bool :=
  let chars := text.toList
  match scanValue (2 * chars.length + 2) chars with
  | (outline, none) => (outline, true)
  | (outline, some rest) => (outline, (skipSpace rest).isEmpty)

end Outline

/-- The value that a text holds, if it is a JSON text. -/
def Value.parse? (text : String) : Option Value :=
  match Outline.ofText text with
  | (outline, true) => outline.value? .value
  | (_, false) => none

end Corpus
