import Corpus.Json.Scan

/-!
# Strings are read back from their text

Each character of a string is written as one part, which the scanner takes off the front of the
text, and the parts of a string join to its characters.
-/

namespace Corpus.Outline

/-- The part that a character of a string is written as. -/
def piece (char : Char) : Piece :=
  if char.toNat < 0x20 ∧ char ∉ ['\x08', '\x0c', '\n', '\r', '\t'] then .unit char.toNat
  else .char char

/-- How a character is written as a part: by a letter that names it, by its number or as it is. -/
inductive Written (char : Char) : Piece → List Char → Prop
  | named {letter : Char} (names : named? letter = some char) (noUnit : letter ≠ 'u') :
      Written char (.char char) ['\\', letter]
  | unit (control : char.toNat < 0x20) :
      Written char (.unit char.toNat) ('\\' :: 'u' :: Hex.padded 4 char.toNat)
  | plain (noQuote : char ≠ '"') (noBackslash : char ≠ '\\') (shown : ¬char.toNat < 0x20) :
      Written char (.char char) [char]

theorem written_escape (char : Char) : Written char (piece char) (Json.escape char) := by
  by_cases special : char ∈ ['"', '\\', '\x08', '\x0c', '\n', '\r', '\t']
  · simp only [List.mem_cons, List.not_mem_nil, or_false] at special
    rcases special with rfl | rfl | rfl | rfl | rfl | rfl | rfl <;>
      exact .named rfl (by decide)
  · simp only [List.mem_cons, List.not_mem_nil, or_false, not_or] at special
    by_cases control : char.toNat < 0x20
    · have pieceIs : piece char = .unit char.toNat := by
        simp [piece, control, special]
      have escapeIs : Json.escape char = '\\' :: 'u' :: Hex.padded 4 char.toNat := by
        simp [Json.escape, control, special]
      rw [pieceIs, escapeIs]
      exact .unit control
    · have pieceIs : piece char = .char char := by
        simp [piece, control]
      have escapeIs : Json.escape char = [char] := by
        simp [Json.escape, control, special]
      rw [pieceIs, escapeIs]
      exact .plain special.1 special.2.1 control

/-- The parts and the rest of a text behind one more part. -/
private def behind (piece : Piece) (scanned : List Piece × List Char) :
    List Piece × List Char :=
  (piece :: scanned.1, scanned.2)

private theorem scanPieces_named {letter char : Char} (named : named? letter = some char)
    (noUnit : letter ≠ 'u') (text : List Char) :
    scanPieces ('\\' :: letter :: text) = (scanPieces text).map (behind (.char char)) := by
  rw [scanPieces.eq_def]
  split
  · next equal => cases equal
  · next equal => cases equal
  · next equal =>
    cases equal
    exact absurd rfl noUnit
  · next equal =>
    cases equal
    rw [named]
    cases scanPieces text <;> rfl
  · next noLetter equal =>
    cases equal
    exact absurd rfl (noLetter _ _ rfl)

private theorem scanPieces_unit {a b c d : Char} {unit : Nat}
    (number : Hex.number? [a, b, c, d] = some unit) (text : List Char) :
    scanPieces ('\\' :: 'u' :: a :: b :: c :: d :: text) =
      (scanPieces text).map (behind (.unit unit)) := by
  rw [scanPieces, number]
  cases scanPieces text <;> rfl

private theorem scanPieces_plain {char : Char} (noQuote : char ≠ '"') (noBackslash : char ≠ '\\')
    (shown : ¬char.toNat < 0x20) (text : List Char) :
    scanPieces (char :: text) = (scanPieces text).map (behind (.char char)) := by
  rw [scanPieces.eq_def]
  split
  · next equal => cases equal
  · next equal =>
    cases equal
    exact absurd rfl noQuote
  · next equal =>
    cases equal
    exact absurd rfl noBackslash
  · next equal =>
    cases equal
    exact absurd rfl noBackslash
  · next equal =>
    cases equal
    rw [if_neg (by simp [shown, noBackslash])]
    cases scanPieces text <;> rfl

private theorem number?_padded :
    ∀ value < 0x20, Hex.number? (Hex.padded 4 value) = some value := by decide

private theorem scanPieces_escape_append (char : Char) (text : List Char) :
    scanPieces (Json.escape char ++ text) = (scanPieces text).map (behind (piece char)) := by
  have written := written_escape char
  generalize piece char = part, Json.escape char = escaped at written ⊢
  cases written with
  | named names noUnit => exact scanPieces_named names noUnit text
  | unit control => exact scanPieces_unit (number?_padded char.toNat control) text
  | plain noQuote noBackslash shown => exact scanPieces_plain noQuote noBackslash shown text

theorem scanPieces_flatMap_escape (chars rest : List Char) :
    scanPieces (chars.flatMap Json.escape ++ '"' :: rest) = some (chars.map piece, rest) := by
  induction chars with
  | nil => simp [scanPieces]
  | cons char chars induction =>
      rw [List.flatMap_cons, List.append_assoc, scanPieces_escape_append, induction]
      rfl

theorem joinPieces_unit {unit : Nat} (small : unit < 0x20) (pieces : List Piece) :
    joinPieces (.unit unit :: pieces) = (joinPieces pieces).map (Char.ofNat unit :: ·) := by
  have noHigh : ¬(decide (0xD800 ≤ unit) && decide (unit < 0xDC00)) = true := by
    simp only [Bool.and_eq_true, decide_eq_true_eq]
    omega
  have noLow : ¬(decide (0xDC00 ≤ unit) && decide (unit < 0xE000)) = true := by
    simp only [Bool.and_eq_true, decide_eq_true_eq]
    omega
  have noHalf : ¬(decide (0xD800 ≤ unit) && decide (unit < 0xE000)) = true := by
    simp only [Bool.and_eq_true, decide_eq_true_eq]
    omega
  cases pieces with
  | nil =>
      rw [joinPieces.eq_def]
      exact if_neg noHalf
  | cons next pieces =>
      rw [joinPieces.eq_def]
      cases next with
      | char char => exact if_neg noHalf
      | unit low => exact (if_neg noHigh).trans (if_neg noLow)

private theorem joinPieces_piece (char : Char) (pieces : List Piece) :
    joinPieces (piece char :: pieces) = (joinPieces pieces).map (char :: ·) := by
  have written := written_escape char
  generalize piece char = part, Json.escape char = escaped at written ⊢
  have shown : joinPieces (.char char :: pieces) = (joinPieces pieces).map (char :: ·) := by
    rw [joinPieces]
  cases written with
  | named _ _ => exact shown
  | unit control => rw [joinPieces_unit control, Char.ofNat_toNat]
  | plain _ _ _ => exact shown

theorem joinPieces_map_piece (chars : List Char) :
    joinPieces (chars.map piece) = some chars := by
  induction chars with
  | nil => rfl
  | cons char chars induction =>
      rw [List.map_cons, joinPieces_piece, induction]
      rfl

/-- A string behind its opening quote is read back from the front of any text. -/
theorem scanString_append (text : String) (rest : List Char) :
    scanString (text.toList.flatMap Json.escape ++ '"' :: rest) = some (some text, rest) := by
  rw [scanString, scanPieces_flatMap_escape]
  simp [joinPieces_map_piece]

end Corpus.Outline
