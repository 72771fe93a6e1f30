import Corpus.Json.Number
import Mathlib.Data.List.TakeDrop

/-!
# Number literals are read back from their text

A literal whose parts are in the grammar has a text of its own, `Literal.write`, which
`Literal.scan` takes off the front of every text that does not continue it.
-/

namespace Corpus.Number

namespace Literal

/-- A nonempty run of decimal digits. -/
def DigitRun (chars : List Char) : Prop :=
  chars ≠ [] ∧ ∀ char ∈ chars, char.isDigit = true

/-- The parts of a literal in the grammar: the whole part does not start with a zero unless it is
one, and every other part has digits. -/
structure Sound (literal : Literal) : Prop where
  whole : DigitRun literal.whole
  noZeroAhead : ∀ second others, literal.whole ≠ '0' :: second :: others
  fraction : ∀ places, literal.fraction = some places → DigitRun places
  exponent : ∀ negative places, literal.exponent = some (negative, places) → DigitRun places

def writeSign (literal : Literal) : List Char :=
  if literal.negative then ['-'] else []

def writeFraction (literal : Literal) : List Char :=
  match literal.fraction with
  | none => []
  | some places => '.' :: places

/-- The exponent of a literal, always with a sign. -/
def writeExponent (literal : Literal) : List Char :=
  match literal.exponent with
  | none => []
  | some (negative, places) => 'e' :: (if negative then '-' else '+') :: places

def write (literal : Literal) : List Char :=
  literal.writeSign ++ (literal.whole ++ (literal.writeFraction ++ literal.writeExponent))

/-- A text that continues no literal. -/
def Stops (rest : List Char) : Prop :=
  ∀ char ∈ rest.head?, char.isDigit = false ∧ char ≠ '.' ∧ char ≠ 'e' ∧ char ≠ 'E'

theorem stops_nil : Stops [] := by
  intro char member
  cases member

theorem stops_cons {char : Char} {rest : List Char} (digit : char.isDigit = false)
    (point : char ≠ '.') (lower : char ≠ 'e') (upper : char ≠ 'E') : Stops (char :: rest) := by
  intro other member
  cases member
  exact ⟨digit, point, lower, upper⟩

/-- The text of a literal consists of digits, signs, the point and the `e` of the exponent. -/
theorem mem_write {literal : Literal} (sound : literal.Sound) {char : Char}
    (member : char ∈ literal.write) : char.isDigit = true ∨ char ∈ ['-', '+', '.', 'e'] := by
  simp only [write, List.mem_append] at member
  rcases member with sign | whole | fraction | exponent
  · unfold writeSign at sign
    split at sign
    · simp [List.mem_singleton.mp sign]
    · cases sign
  · exact .inl (sound.whole.2 char whole)
  · unfold writeFraction at fraction
    split at fraction
    · cases fraction
    · next places placesIs =>
      rcases List.mem_cons.mp fraction with point | digit
      · simp [point]
      · exact .inl ((sound.fraction places placesIs).2 char digit)
  · unfold writeExponent at exponent
    split at exponent
    · cases exponent
    · next negative places exponentIs =>
      rcases List.mem_cons.mp exponent with letter | behind
      · simp [letter]
      · rcases List.mem_cons.mp behind with sign | digit
        · cases negative <;> simp [sign]
        · exact .inl ((sound.exponent negative places exponentIs).2 char digit)

theorem digits_append {chars rest : List Char} (run : ∀ char ∈ chars, char.isDigit = true)
    (stops : ∀ char ∈ rest.head?, char.isDigit = false) :
    digits (chars ++ rest) = (chars, rest) := by
  unfold digits
  rw [List.span_eq_takeWhile_dropWhile, List.takeWhile_append_of_pos run,
    List.dropWhile_append_of_pos run]
  cases rest with
  | nil => simp
  | cons char rest =>
      have noDigit : char.isDigit = false := stops char rfl
      simp [noDigit]

theorem scanWhole_append {literal : Literal} (sound : literal.Sound) {rest : List Char}
    (stops : ∀ char ∈ rest.head?, char.isDigit = false) :
    scanWhole (literal.whole ++ rest) = some (literal.whole, rest) := by
  obtain ⟨⟨nonempty, run⟩, noZeroAhead, -, -⟩ := sound
  unfold scanWhole
  rw [digits_append run stops]
  split
  · next empty => exact absurd (congrArg Prod.fst empty) nonempty
  · next zeroAhead => exact absurd (congrArg Prod.fst zeroAhead) (noZeroAhead _ _)
  · next equal =>
    cases equal
    rfl

theorem scanFraction_append {literal : Literal} (sound : literal.Sound) {rest : List Char}
    (stops : ∀ char ∈ rest.head?, char.isDigit = false ∧ char ≠ '.') :
    scanFraction (literal.writeFraction ++ rest) = some (literal.fraction, rest) := by
  unfold writeFraction
  cases fraction : literal.fraction with
  | none =>
      cases rest with
      | nil => rfl
      | cons char rest =>
          have noPoint : char ≠ '.' := (stops char rfl).2
          simp only [List.nil_append]
          unfold scanFraction
          split
          · next equal => exact absurd (List.cons.inj equal).1 noPoint
          · rfl
  | some places =>
      obtain ⟨nonempty, run⟩ := sound.fraction places fraction
      have scanned : digits (places ++ rest) = (places, rest) :=
        digits_append run fun char member => (stops char member).1
      cases places with
      | nil => exact absurd rfl nonempty
      | cons first others => simp only [List.cons_append, scanFraction] at scanned ⊢; rw [scanned]

theorem scanExponent_append {literal : Literal} (sound : literal.Sound) {rest : List Char}
    (stops : Stops rest) :
    scanExponent (literal.writeExponent ++ rest) = some (literal.exponent, rest) := by
  unfold writeExponent
  cases exponent : literal.exponent with
  | none =>
      cases rest with
      | nil => rfl
      | cons char rest =>
          obtain ⟨-, -, lower, upper⟩ := stops char rfl
          simp only [List.nil_append]
          unfold scanExponent
          split <;> next equal =>
            first
              | rfl
              | exact absurd (List.cons.inj equal).1 lower
              | exact absurd (List.cons.inj equal).1 upper
  | some power =>
      obtain ⟨negative, places⟩ := power
      obtain ⟨nonempty, run⟩ := sound.exponent negative places exponent
      have scanned : digits (places ++ rest) = (places, rest) :=
        digits_append run fun char member => (stops char member).1
      have power : scanPower negative (places ++ rest) = some (some (negative, places), rest) := by
        cases places with
        | nil => exact absurd rfl nonempty
        | cons first others => simp only [scanPower, scanned]
      cases negative <;> exact power

theorem head?_writeExponent_append (literal : Literal) {rest : List Char} (stops : Stops rest) :
    ∀ char ∈ (literal.writeExponent ++ rest).head?, char.isDigit = false ∧ char ≠ '.' := by
  intro char member
  unfold writeExponent at member
  cases exponent : literal.exponent with
  | none =>
      simp only [exponent, List.nil_append] at member
      obtain ⟨digit, point, -, -⟩ := stops char member
      exact ⟨digit, point⟩
  | some power =>
      simp only [exponent, List.cons_append, List.head?_cons, Option.mem_some] at member
      subst member
      decide

theorem head?_writeFraction_append (literal : Literal) {rest : List Char}
    (stops : ∀ char ∈ rest.head?, char.isDigit = false) :
    ∀ char ∈ (literal.writeFraction ++ rest).head?, char.isDigit = false := by
  intro char member
  unfold writeFraction at member
  cases fraction : literal.fraction with
  | none =>
      simp only [fraction, List.nil_append] at member
      exact stops char member
  | some places =>
      simp only [fraction, List.cons_append, List.head?_cons, Option.mem_some] at member
      subst member
      decide

theorem scanMagnitude_append {literal : Literal} (sound : literal.Sound) {rest : List Char}
    (stops : Stops rest) :
    scanMagnitude literal.negative
        (literal.whole ++ (literal.writeFraction ++ (literal.writeExponent ++ rest))) =
      some (literal, rest) := by
  have behindFraction := head?_writeExponent_append literal stops
  have behindWhole := head?_writeFraction_append literal
    fun char member => (behindFraction char member).1
  unfold scanMagnitude
  rw [scanWhole_append sound behindWhole]
  simp only [Option.bind_eq_bind, Option.bind_some, scanFraction_append sound behindFraction,
    scanExponent_append sound stops]
  rfl

theorem head?_whole {literal : Literal} (sound : literal.Sound) (rest : List Char) :
    ∃ first others, literal.whole ++ rest = first :: others ∧ first.isDigit = true := by
  obtain ⟨nonempty, run⟩ := sound.whole
  cases whole : literal.whole with
  | nil => exact absurd whole nonempty
  | cons first others => exact ⟨first, others ++ rest, rfl, run first (by simp [whole])⟩

/-- A literal is scanned off the front of a text that does not continue it. -/
theorem scan_write_append {literal : Literal} (sound : literal.Sound) {rest : List Char}
    (stops : Stops rest) : scan (literal.write ++ rest) = some (literal, rest) := by
  have magnitude := scanMagnitude_append sound stops
  simp only [write, List.append_assoc]
  unfold writeSign
  cases negative : literal.negative with
  | true =>
      rw [negative] at magnitude
      exact magnitude
  | false =>
      rw [negative] at magnitude
      obtain ⟨first, others, text, digit⟩ := head?_whole sound
        (literal.writeFraction ++ (literal.writeExponent ++ rest))
      simp only [Bool.false_eq_true, if_false, List.nil_append]
      rw [text] at magnitude ⊢
      unfold scan
      split
      · next equal =>
        rw [(List.cons.inj equal).1] at digit
        exact absurd digit (by decide)
      · exact magnitude

theorem scan_write {literal : Literal} (sound : literal.Sound) :
    scan literal.write = some (literal, []) := by
  have scanned := scan_write_append sound stops_nil
  rwa [List.append_nil] at scanned

end Literal

end Corpus.Number
