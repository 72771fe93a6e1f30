import Corpus.Proofs.Json.NumberText
import Corpus.Proofs.Json.Shown
import Corpus.Proofs.Json.StringText

/-!
# What a reader sees in compact text

The scanner finds in the text of a value the outline of that value, with every number as it is read,
and leaves what stands behind.  Distinct values have distinct texts, even where their numbers are
read as the same ones: the text of a value ends where that of no other one could go on.
-/

namespace Corpus

namespace Number

theorem head?_write (number : Number) :
    ∃ first others, number.write = first :: others ∧
      (first.isDigit = true ∨ first = '-') := by
  obtain ⟨literal, sound, text, -⟩ := exists_literal number
  rw [text]
  unfold Literal.write Literal.writeSign
  cases literal.negative with
  | true => exact ⟨'-', _, rfl, .inr rfl⟩
  | false =>
      obtain ⟨first, others, whole, digit⟩ := Literal.head?_whole sound
        (literal.writeFraction ++ literal.writeExponent)
      exact ⟨first, others, whole, .inl digit⟩

end Number

namespace Json

/-- A character that starts a value: neither a blank nor the end of an array. -/
def Opens (char : Char) : Prop :=
  Outline.isSpace char = false ∧ char ≠ ']'

theorem ne_of_number {char : Char} (number : char.isDigit = true ∨ char = '-') (other : Char)
    (noDigit : other.isDigit = false) (noSign : other ≠ '-') : char ≠ other := by
  rintro rfl
  rcases number with digit | sign
  · simp [digit] at noDigit
  · exact noSign sign

theorem opens_of_number {char : Char} (number : char.isDigit = true ∨ char = '-') :
    Opens char := by
  have different := ne_of_number number
  refine ⟨?_, different ']' (by decide) (by decide)⟩
  simp [Outline.isSpace, different ' ' (by decide) (by decide),
    different '\n' (by decide) (by decide), different '\r' (by decide) (by decide),
    different '\t' (by decide) (by decide)]

theorem head?_write (json : Json) :
    ∃ first others, json.write = first :: others ∧ Opens first := by
  cases json with
  | null => exact ⟨_, _, rfl, by decide, by decide⟩
  | bool value => cases value <;> exact ⟨_, _, rfl, by decide, by decide⟩
  | number value =>
      obtain ⟨first, others, text, number⟩ := value.head?_write
      exact ⟨first, others, text, opens_of_number number⟩
  | string text => exact ⟨_, _, rfl, by decide, by decide⟩
  | array items => cases items <;> exact ⟨_, _, rfl, by decide, by decide⟩
  | object fields => cases fields <;> exact ⟨_, _, rfl, by decide, by decide⟩

theorem length_write_pos (json : Json) : 0 < json.write.length := by
  obtain ⟨first, others, text, -⟩ := json.head?_write
  simp [text]

end Json

namespace Outline

open Number.Literal (Stops stops_cons)

/-- What is seen of the text of a number. -/
def ofWrittenNumber (number : Number) : Outline :=
  match number.reread? with
  | none => .valueless
  | some read => .number read

mutual

/-- What is seen of the text of a value: its outline, with every number as it is read. -/
def ofWritten : Json → Outline
  | .null => .null
  | .bool value => .bool value
  | .number value => ofWrittenNumber value
  | .string text => .string text
  | .array items => .array (ofWrittenItems items) true
  | .object fields => .object (ofWrittenFields fields) true

def ofWrittenItems : List Json → List Outline
  | [] => []
  | item :: items => ofWritten item :: ofWrittenItems items

def ofWrittenFields : List (String × Json) → List (Option String × Outline)
  | [] => []
  | (key, value) :: fields => (some key, ofWritten value) :: ofWrittenFields fields

end

theorem skipSpace_of_head {first : Char} (noSpace : isSpace first = false) (others : List Char) :
    skipSpace (first :: others) = first :: others := by
  simp [skipSpace, noSpace]

theorem scanNumber_append (number : Number) {rest : List Char} (stops : Stops rest) :
    scanNumber (number.write ++ rest) = (ofWrittenNumber number, some rest) := by
  obtain ⟨literal, scanned, read⟩ := number.scan_write_append stops
  unfold scanNumber ofWrittenNumber
  rw [scanned]
  simp only [read]
  cases number.reread? <;> rfl

/-- What starts with a digit or a minus sign is scanned as a number. -/
theorem scanValue_of_number {first : Char} (number : first.isDigit = true ∨ first = '-')
    (bound : Nat) (others : List Char) :
    scanValue (bound + 1) (first :: others) = scanNumber (first :: others) := by
  rw [scanValue, skipSpace_of_head (Json.opens_of_number number).1]
  split
  case h_1 equal => cases equal
  case h_8 equal =>
    cases equal
    rfl
  all_goals
    next equal =>
    cases equal
    exact absurd number (by decide)

theorem scanValue_bracket {first : Char} (opens : Json.Opens first) {bound : Nat}
    {others rest : List Char} {items : List Outline}
    (scanned : scanItems bound (first :: others) = (items, some rest)) :
    scanValue (bound + 1) ('[' :: first :: others) = (.array items true, some rest) := by
  have text : skipSpace ('[' :: first :: others) = '[' :: first :: others := rfl
  rw [scanValue, text]
  simp only [skipSpace_of_head opens.1]
  split
  · next equal =>
    cases equal
    exact absurd rfl opens.2
  · rw [scanned]
    rfl

theorem scanValue_brace {bound : Nat} {others rest : List Char}
    {fields : List (Option String × Outline)}
    (scanned : scanFields bound others = (fields, some rest)) :
    scanValue (bound + 1) ('\x7b' :: '"' :: others) = (.object fields true, some rest) := by
  have text : skipSpace ('\x7b' :: '"' :: others) = '\x7b' :: '"' :: others := rfl
  have quote : skipSpace ('"' :: others) = '"' :: others := rfl
  rw [scanValue, text]
  simp only [quote, scanned]
  rfl

theorem stops_writeItems_append (items : List Json) (rest : List Char) :
    Stops (Json.writeItems items ++ rest) := by
  cases items <;> exact stops_cons (by decide) (by decide) (by decide) (by decide)

theorem stops_writeFields_append (fields : List (String × Json)) (rest : List Char) :
    Stops (Json.writeFields fields ++ rest) := by
  cases fields <;> exact stops_cons (by decide) (by decide) (by decide) (by decide)

/-- The text of a key behind its opening quote, with the value it stands for. -/
def keyed (key : String) (value : Json) : List Char :=
  key.toList.flatMap Json.escape ++ '"' :: ':' :: value.write

theorem writeFields_cons_append (key : String) (value : Json) (fields : List (String × Json))
    (rest : List Char) :
    Json.writeFields ((key, value) :: fields) ++ rest =
      ',' :: '"' :: (keyed key value ++ (Json.writeFields fields ++ rest)) := by
  simp [Json.writeFields, Json.writeString, keyed]

mutual

/-- A value is scanned off the front of a text that does not continue it. -/
theorem scanValue_write (json : Json) (bound : Nat) (rest : List Char)
    (enough : 2 * json.write.length ≤ bound) (stops : Stops rest) :
    scanValue bound (json.write ++ rest) = (ofWritten json, some rest) := by
  have positive := json.length_write_pos
  cases bound with
  | zero => omega
  | succ bound =>
      cases json with
      | null => rfl
      | bool value => cases value <;> rfl
      | number value =>
          obtain ⟨first, others, text, number⟩ := value.head?_write
          have scanned := scanNumber_append value stops
          simp only [Json.write, text, List.cons_append] at scanned ⊢
          rw [scanValue_of_number number, scanned]
          rfl
      | string text =>
          have scanned := scanString_append text rest
          have quoted : scanValue (bound + 1)
              ('"' :: (text.toList.flatMap Json.escape ++ '"' :: rest)) =
                scanStringValue (text.toList.flatMap Json.escape ++ '"' :: rest) := rfl
          simp only [Json.write, Json.writeString, List.cons_append, List.append_assoc,
            List.nil_append]
          rw [quoted, scanStringValue, scanned]
          rfl
      | array items =>
          cases items with
          | nil => rfl
          | cons item items =>
              obtain ⟨first, others, text, opens⟩ := item.head?_write
              have scanned := scanItems_write item items bound rest (by
                simp only [Json.write, List.length_cons, List.length_append] at enough
                omega)
              simp only [Json.write, List.cons_append, List.append_assoc, text] at scanned ⊢
              exact scanValue_bracket opens scanned
      | object fields =>
          cases fields with
          | nil => rfl
          | cons field fields =>
              obtain ⟨key, value⟩ := field
              have scanned := scanFields_write key value fields bound rest (by
                simp only [Json.write, Json.writeString, keyed, List.length_cons,
                  List.length_append, List.length_nil] at enough ⊢
                omega)
              simp only [Json.write, Json.writeString, keyed, List.cons_append,
                List.append_assoc, List.nil_append] at scanned ⊢
              exact scanValue_brace scanned
termination_by bound

theorem scanItems_write (item : Json) (items : List Json) (bound : Nat) (rest : List Char)
    (enough : 2 * (item.write.length + (Json.writeItems items).length) + 1 ≤ bound) :
    scanItems bound (item.write ++ (Json.writeItems items ++ rest)) =
      (ofWrittenItems (item :: items), some rest) := by
  cases bound with
  | zero => omega
  | succ bound =>
      have scanned := scanValue_write item bound (Json.writeItems items ++ rest) (by omega)
        (stops_writeItems_append items rest)
      rw [scanItems, scanned]
      cases items with
      | nil => rfl
      | cons next items =>
          have others := scanItems_write next items bound rest (by
            simp only [Json.writeItems, List.length_cons, List.length_append] at enough
            omega)
          have comma : skipSpace (Json.writeItems (next :: items) ++ rest) =
              ',' :: (next.write ++ (Json.writeItems items ++ rest)) := by
            rw [← List.append_assoc]
            rfl
          simp only [comma, others]
          rfl
termination_by bound

theorem scanFields_write (key : String) (value : Json) (fields : List (String × Json))
    (bound : Nat) (rest : List Char)
    (enough : 2 * ((keyed key value).length + (Json.writeFields fields).length) + 1 ≤ bound) :
    scanFields bound (keyed key value ++ (Json.writeFields fields ++ rest)) =
      (ofWrittenFields ((key, value) :: fields), some rest) := by
  cases bound with
  | zero => omega
  | succ bound =>
      have scannedKey := scanString_append key
        (':' :: (value.write ++ (Json.writeFields fields ++ rest)))
      have scanned := scanValue_write value bound (Json.writeFields fields ++ rest) (by
        simp only [keyed, List.length_append, List.length_cons] at enough
        omega) (stops_writeFields_append fields rest)
      have colon : skipSpace (':' :: (value.write ++ (Json.writeFields fields ++ rest))) =
          ':' :: (value.write ++ (Json.writeFields fields ++ rest)) := rfl
      simp only [keyed, List.append_assoc, List.cons_append]
      rw [scanFields, scannedKey]
      simp only [colon, scanned]
      cases fields with
      | nil => rfl
      | cons next fields =>
          obtain ⟨nextKey, nextValue⟩ := next
          have others := scanFields_write nextKey nextValue fields bound rest (by
            simp only [Json.writeFields, Json.writeString, keyed, List.length_cons,
              List.length_append, List.length_nil] at enough ⊢
            omega)
          have comma : skipSpace (Json.writeFields ((nextKey, nextValue) :: fields) ++ rest) =
              ',' :: '"' :: (keyed nextKey nextValue ++ (Json.writeFields fields ++ rest)) := by
            rw [writeFields_cons_append]
            rfl
          have quote : skipSpace
              ('"' :: (keyed nextKey nextValue ++ (Json.writeFields fields ++ rest))) =
                '"' :: (keyed nextKey nextValue ++ (Json.writeFields fields ++ rest)) := rfl
          simp only [comma, quote, others]
          rfl
termination_by bound

end

theorem ofText_compact (json : Json) : ofText json.compact = (ofWritten json, true) := by
  have scanned := scanValue_write json (2 * json.write.length + 2) [] (by omega)
    Number.Literal.stops_nil
  rw [List.append_nil] at scanned
  simp only [ofText, Json.compact, String.toList_ofList, scanned]
  rfl

end Outline

/-! ## Distinct texts -/

namespace Json

open Number.Literal (Stops stops_nil)

theorem stops_writeItems (items : List Json) : Stops (writeItems items) := by
  simpa using Outline.stops_writeItems_append items []

theorem stops_writeFields (fields : List (String × Json)) : Stops (writeFields fields) := by
  simpa using Outline.stops_writeFields_append fields []

/-- Values whose texts start one text have one text, and the same is seen of both. -/
theorem write_append_cancel {left right : Json} {leftRest rightRest : List Char}
    (leftStops : Stops leftRest) (rightStops : Stops rightRest)
    (same : left.write ++ leftRest = right.write ++ rightRest) :
    left.write = right.write ∧ leftRest = rightRest ∧
      Outline.ofWritten left = Outline.ofWritten right := by
  let bound := 2 * left.write.length + 2 * right.write.length
  have leftScanned := Outline.scanValue_write left bound leftRest (by omega) leftStops
  have rightScanned := Outline.scanValue_write right bound rightRest (by omega) rightStops
  rw [same, rightScanned, Prod.mk.injEq, Option.some.injEq] at leftScanned
  obtain ⟨outlines, rfl⟩ := leftScanned
  exact ⟨List.append_cancel_right same, rfl, outlines.symm⟩

theorem writeString_append_cancel {left right : String} {leftRest rightRest : List Char}
    (same : writeString left ++ leftRest = writeString right ++ rightRest) :
    left = right ∧ leftRest = rightRest := by
  have leftScanned := Outline.scanString_append left leftRest
  have rightScanned := Outline.scanString_append right rightRest
  simp only [writeString, List.cons_append, List.append_assoc, List.nil_append,
    List.cons.injEq, true_and] at same
  rw [same, rightScanned] at leftScanned
  simp only [Option.some.injEq, Prod.mk.injEq] at leftScanned
  exact ⟨leftScanned.1.symm, leftScanned.2.symm⟩

theorem ofWritten_eq_of_write_eq {left right : Json} (same : left.write = right.write) :
    Outline.ofWritten left = Outline.ofWritten right :=
  (write_append_cancel stops_nil stops_nil (congrArg (· ++ []) same)).2.2

theorem writeItems_eq_of_write_eq {left right : List Json}
    (same : write (.array left) = write (.array right)) : writeItems left = writeItems right := by
  have outlines := ofWritten_eq_of_write_eq same
  cases left with
  | nil =>
      cases right with
      | nil => rfl
      | cons item items => cases outlines
  | cons item items =>
      cases right with
      | nil => cases outlines
      | cons other others => exact congrArg (',' :: ·) (List.cons.inj same).2

theorem writeFields_eq_of_write_eq {left right : List (String × Json)}
    (same : write (.object left) = write (.object right)) :
    writeFields left = writeFields right := by
  have outlines := ofWritten_eq_of_write_eq same
  cases left with
  | nil =>
      cases right with
      | nil => rfl
      | cons field fields => cases outlines
  | cons field fields =>
      cases right with
      | nil => cases outlines
      | cons other others => exact congrArg (',' :: ·) (List.cons.inj same).2

theorem eq_number_of_write_eq {number : Number} {json : Json}
    (same : write (.number number) = json.write) : json = .number number := by
  obtain ⟨first, others, text, numeric⟩ := number.head?_write
  have different := ne_of_number numeric
  rw [write, text] at same
  cases json with
  | null => exact absurd (List.cons.inj same).1 (different 'n' (by decide) (by decide))
  | bool value =>
      cases value with
      | true => exact absurd (List.cons.inj same).1 (different 't' (by decide) (by decide))
      | false => exact absurd (List.cons.inj same).1 (different 'f' (by decide) (by decide))
  | number other =>
      rw [← text] at same
      rw [Number.write_injective same]
  | string text => exact absurd (List.cons.inj same).1 (different '"' (by decide) (by decide))
  | array items =>
      cases items <;>
        exact absurd (List.cons.inj same).1 (different '[' (by decide) (by decide))
  | object fields =>
      cases fields <;>
        exact absurd (List.cons.inj same).1 (different '\x7b' (by decide) (by decide))

mutual

theorem eq_of_write_eq (left right : Json) (same : left.write = right.write) : left = right := by
  have outlines := ofWritten_eq_of_write_eq same
  cases left with
  | number value => exact (eq_number_of_write_eq same).symm
  | null =>
      cases right with
      | null => rfl
      | number other => exact eq_number_of_write_eq same.symm
      | _ => cases outlines
  | bool value =>
      cases right with
      | bool other =>
          cases outlines
          rfl
      | number other => exact eq_number_of_write_eq same.symm
      | _ => cases outlines
  | string text =>
      cases right with
      | string other =>
          cases outlines
          rfl
      | number other => exact eq_number_of_write_eq same.symm
      | _ => cases outlines
  | array items =>
      cases right with
      | array others => rw [eq_of_writeItems_eq items others (writeItems_eq_of_write_eq same)]
      | number other => exact eq_number_of_write_eq same.symm
      | _ => cases outlines
  | object fields =>
      cases right with
      | object others => rw [eq_of_writeFields_eq fields others (writeFields_eq_of_write_eq same)]
      | number other => exact eq_number_of_write_eq same.symm
      | _ => cases outlines

theorem eq_of_writeItems_eq (left right : List Json)
    (same : writeItems left = writeItems right) : left = right := by
  cases left with
  | nil =>
      cases right with
      | nil => rfl
      | cons other others => cases same
  | cons item items =>
      cases right with
      | nil => cases same
      | cons other others =>
          obtain ⟨heads, tails, -⟩ := write_append_cancel (stops_writeItems items)
            (stops_writeItems others) (List.cons.inj same).2
          rw [eq_of_write_eq item other heads, eq_of_writeItems_eq items others tails]

theorem eq_of_writeFields_eq (left right : List (String × Json))
    (same : writeFields left = writeFields right) : left = right := by
  cases left with
  | nil =>
      cases right with
      | nil => rfl
      | cons other others => cases same
  | cons field fields =>
      obtain ⟨key, value⟩ := field
      cases right with
      | nil => cases same
      | cons other others =>
          obtain ⟨otherKey, otherValue⟩ := other
          obtain ⟨keys, behind⟩ := writeString_append_cancel (List.cons.inj same).2
          obtain ⟨heads, tails, -⟩ := write_append_cancel (stops_writeFields fields)
            (stops_writeFields others) (List.cons.inj behind).2
          rw [keys, eq_of_write_eq value otherValue heads,
            eq_of_writeFields_eq fields others tails]

end

end Json

theorem Value.compact_injective {left right : Value} (same : left.compact = right.compact) :
    left = right :=
  ext_json (Json.eq_of_write_eq _ _ (String.ofList_injective same))

end Corpus
