import Corpus.Proofs.Decimal.ReadBack
import Corpus.Proofs.Json.Literal

/-!
# The texts of numbers

The text of every number is the text of a literal, and the number is the one nearest to the exact
value of that literal.  Distinct numbers hence have distinct texts.  A reader does not round the
exact value, so it reads back every whole number but not every real.
-/

namespace Corpus

namespace Decimal

theorem digitChars_ne_nil (whole : Nat) : digitChars whole ≠ [] :=
  Nat.toDigits_ne_nil

theorem isDigit_of_mem_digitChars {whole : Nat} {char : Char}
    (member : char ∈ digitChars whole) : char.isDigit = true :=
  Nat.isDigit_of_mem_toDigits (by decide) (by decide) member

theorem digitRun_digitChars (whole : Nat) : Number.Literal.DigitRun (digitChars whole) :=
  ⟨digitChars_ne_nil whole, fun _ => isDigit_of_mem_digitChars⟩

private theorem digitChar_ne_zero :
    ∀ digit < 10, digit ≠ 0 → Nat.digitChar digit ≠ '0' := by decide

theorem head?_digitChars_ne_zero {whole : Nat} (positive : whole ≠ 0) :
    (digitChars whole).head? ≠ some '0' := by
  induction whole using Nat.strongRecOn with
  | ind whole induction =>
      unfold digitChars at induction ⊢
      by_cases small : whole < 10
      · rw [Nat.toDigits_of_lt_base small]
        simpa using digitChar_ne_zero whole small positive
      · have fewer := induction (whole / 10) (by omega) (by omega)
        rw [Nat.toDigits_of_base_le (by decide) (by omega), List.head?_append]
        cases head : (Nat.toDigits 10 (whole / 10)).head? with
        | none => exact absurd (List.head?_eq_none_iff.mp head) Nat.toDigits_ne_nil
        | some first => simpa [head] using fewer

theorem digitChars_zero : digitChars 0 = ['0'] :=
  Nat.toDigits_zero 10

theorem digitChars_ne_zero_cons (whole : Nat) (second : Char) (others : List Char) :
    digitChars whole ≠ '0' :: second :: others := by
  intro equal
  by_cases zero : whole = 0
  · subst zero
    rw [digitChars_zero] at equal
    cases equal
  · exact head?_digitChars_ne_zero zero (by rw [equal]; rfl)

end Decimal

namespace Number

namespace Literal

/-- The power of ten that the exponent of a literal stands for. -/
def power (literal : Literal) : Int :=
  match literal.exponent with
  | none => 0
  | some (negative, digits) =>
    if negative then -(Decimal.ofDigitChars digits : Int) else Decimal.ofDigitChars digits

/-- The exact value of a literal. -/
def decimal (literal : Literal) : Decimal :=
  let places := literal.fraction.getD []
  ⟨Decimal.ofDigitChars (literal.whole ++ places), literal.power - (places.length : Int)⟩

/-- The number of a literal when its exact value is rounded once. -/
def nearest? (literal : Literal) : Option Number :=
  match literal.fraction, literal.exponent with
  | none, none => literal.number?
  | _, _ => (literal.decimal.toBinary .double literal.negative).map .real

end Literal

open Literal

theorem writeWhole_eq_write (value : Int) :
    writeWhole value =
      (Literal.mk (decide (value < 0)) (Decimal.digitChars value.natAbs) none none).write := by
  unfold writeWhole Literal.write writeSign writeFraction writeExponent
  by_cases negative : value < 0 <;> simp [negative]

theorem sound_whole (negative : Bool) (whole : Nat) :
    (Literal.mk negative (Decimal.digitChars whole) none none).Sound where
  whole := Decimal.digitRun_digitChars whole
  noZeroAhead := Decimal.digitChars_ne_zero_cons whole
  fraction := by simp
  exponent := by simp

theorem number?_whole {value : Int} (whole : Whole value) :
    (Literal.mk (decide (value < 0)) (Decimal.digitChars value.natAbs) none none).number? =
      some (.integer value whole) := by
  unfold number?
  simp only [Decimal.ofDigitChars_digitChars]
  have signed : (if decide (value < 0) = true then -(value.natAbs : Int) else value.natAbs) =
      value := by
    by_cases negative : value < 0
    · rw [if_pos (decide_eq_true negative)]
      omega
    · rw [if_neg (by simpa using negative)]
      omega
  have noNegativeZero : ¬(decide (value < 0) && value.natAbs == 0) = true := by
    simp only [Bool.and_eq_true, decide_eq_true_eq, beq_iff_eq]
    omega
  rw [if_neg noNegativeZero]
  simp only [signed]
  rw [dif_pos whole]

/-- A literal that stands for a decimal: it has its value, and it is not that of a whole number. -/
structure StandsFor (literal : Literal) (decimal : Decimal) : Prop where
  sound : literal.Sound
  value : literal.decimal.value = decimal.value
  real : literal.fraction ≠ none ∨ literal.exponent ≠ none

theorem nearest?_of_standsFor {literal : Literal} {value : Double}
    (stands : StandsFor literal (Decimal.shortest value))
    (sign : literal.negative = value.negative) : literal.nearest? = some (.real value) := by
  unfold nearest?
  split
  · next noFraction noExponent =>
    rcases stands.real with fraction | exponent
    · exact absurd noFraction fraction
    · exact absurd noExponent exponent
  · rw [sign, Decimal.toBinary_of_value_eq Decimal.covers_double stands.value]
    rfl

private theorem isDigit_of_mem_zeros {count : Nat} {char : Char}
    (member : char ∈ List.replicate count '0') : char.isDigit = true := by
  rw [(List.mem_replicate.mp member).2]
  decide

private theorem isDigit_of_mem_append {left right : List Char}
    (leftRun : ∀ char ∈ left, char.isDigit = true)
    (rightRun : ∀ char ∈ right, char.isDigit = true) :
    ∀ char ∈ left ++ right, char.isDigit = true := by
  intro char member
  exact (List.mem_append.mp member).elim (leftRun char) (rightRun char)

/-- Positional text of a decimal without places: the zero behind the point is one digit more. -/
theorem standsFor_positional_of_nonneg {decimal : Decimal} (negative : Bool)
    (whole : 0 ≤ decimal.exponent) (zero : decimal.digits = 0 → decimal.exponent = 0) :
    StandsFor ⟨negative, Decimal.digitChars decimal.digits ++
      List.replicate decimal.exponent.toNat '0', some ['0'], none⟩ decimal := by
  obtain ⟨power, exponent⟩ := Int.eq_ofNat_of_zero_le whole
  refine ⟨⟨⟨?_, ?_⟩, ?_, ?_, ?_⟩, ?_, .inl (by simp)⟩
  · simp [Decimal.digitChars_ne_nil]
  · exact isDigit_of_mem_append (fun _ => Decimal.isDigit_of_mem_digitChars)
      fun _ => isDigit_of_mem_zeros
  · intro second others equal
    by_cases noDigits : decimal.digits = 0
    · simp only [zero noDigits, Int.toNat_zero, List.replicate_zero, List.append_nil] at equal
      exact Decimal.digitChars_ne_zero_cons _ _ _ equal
    · have head := congrArg List.head? equal
      rw [List.head?_append_of_ne_nil _ (Decimal.digitChars_ne_nil _)] at head
      exact Decimal.head?_digitChars_ne_zero noDigits head
  · intro places equal
    cases equal
    exact ⟨by simp, fun char member => isDigit_of_mem_zeros (List.mem_replicate.mpr
      ⟨Nat.one_ne_zero, List.mem_singleton.mp member⟩)⟩
  · intro _ _ equal
    cases equal
  · have text : Decimal.digitChars decimal.digits ++ List.replicate power '0' ++ ['0'] =
        Decimal.digitChars decimal.digits ++ List.replicate (power + 1) '0' := by
      simp [List.replicate_succ', List.append_assoc]
    simp only [Literal.decimal, Option.getD_some, Literal.power, exponent, Int.toNat_natCast,
      text, Decimal.ofDigitChars_append_zeros, Decimal.ofDigitChars_digitChars, Decimal.value]
    simp only [List.length_singleton, Nat.cast_one, zero_sub, zpow_neg_one, zpow_natCast]
    push_cast
    rw [pow_succ]
    field_simp

private theorem take_padded_ne_zero_cons {chars : List Char} (noZero : chars.head? ≠ some '0')
    (places : Nat) (second : Char) (others : List Char) :
    let padded := List.replicate (places + 1 - chars.length) '0' ++ chars
    padded.take (padded.length - places) ≠ '0' :: second :: others := by
  intro padded equal
  have paddedLength : padded.length = (places + 1 - chars.length) + chars.length := by
    simp only [padded, List.length_append, List.length_replicate]
  by_cases filled : chars.length ≤ places
  · have lengths := congrArg List.length equal
    simp only [List.length_take, List.length_cons] at lengths
    omega
  · have noZeros : places + 1 - chars.length = 0 := by omega
    have heads := congrArg List.head? equal
    rw [List.head?_take, if_neg (by omega)] at heads
    apply noZero
    simpa [padded, noZeros] using heads

/-- Positional text of a decimal with places: it is filled up with zeros to one digit more. -/
theorem standsFor_positional_of_neg {decimal : Decimal} (negative : Bool)
    (fractional : decimal.exponent < 0) (zero : decimal.digits = 0 → decimal.exponent = 0) :
    let places := (-decimal.exponent).toNat
    let chars := Decimal.digitChars decimal.digits
    let padded := List.replicate (places + 1 - chars.length) '0' ++ chars
    StandsFor ⟨negative, padded.take (padded.length - places),
      some (padded.drop (padded.length - places)), none⟩ decimal := by
  intro places chars padded
  have placesIs : (places : Int) = -decimal.exponent := by omega
  have long : places + 1 ≤ padded.length := by
    simp only [padded, List.length_append, List.length_replicate]
    omega
  have run : ∀ char ∈ padded, char.isDigit = true :=
    isDigit_of_mem_append (fun _ => isDigit_of_mem_zeros)
      fun _ => Decimal.isDigit_of_mem_digitChars
  have behindLength : (padded.drop (padded.length - places)).length = places := by
    rw [List.length_drop]
    omega
  refine ⟨⟨⟨?_, fun char member => run char (List.mem_of_mem_take member)⟩, ?_, ?_, ?_⟩, ?_,
    .inl (by simp)⟩
  · intro empty
    have lengths := congrArg List.length empty
    rw [List.length_take, List.length_nil] at lengths
    omega
  · have noDigits : decimal.digits ≠ 0 := by
      intro none
      have := zero none
      omega
    exact take_padded_ne_zero_cons (Decimal.head?_digitChars_ne_zero noDigits) places
  · intro digits equal
    cases equal
    refine ⟨fun empty => ?_, fun char member => run char (List.mem_of_mem_drop member)⟩
    have lengths := congrArg List.length empty
    rw [behindLength, List.length_nil] at lengths
    omega
  · intro _ _ equal
    cases equal
  · have exponent : (0 : Int) - places = decimal.exponent := by omega
    have digits : Decimal.ofDigitChars padded = decimal.digits := by
      simp only [padded, Decimal.ofDigitChars_zeros_append, chars,
        Decimal.ofDigitChars_digitChars]
    simp only [Literal.decimal, Option.getD_some, Literal.power, List.take_append_drop,
      behindLength, digits, exponent]

theorem standsFor_positional (decimal : Decimal) (negative : Bool)
    (zero : decimal.digits = 0 → decimal.exponent = 0) :
    ∃ whole places, decimal.positional = whole ++ '.' :: places ∧
      StandsFor ⟨negative, whole, some places, none⟩ decimal := by
  unfold Decimal.positional
  simp only
  split
  · next whole =>
    exact ⟨_, ['0'], rfl, standsFor_positional_of_nonneg negative whole zero⟩
  · next fractional =>
    exact ⟨_, _, rfl, standsFor_positional_of_neg negative (not_le.mp fractional) zero⟩

private theorem power_eq (power : Int) :
    (if decide (power < 0) = true
      then -(Decimal.ofDigitChars (Decimal.digitChars power.natAbs) : Int)
      else Decimal.ofDigitChars (Decimal.digitChars power.natAbs)) = power := by
  rw [Decimal.ofDigitChars_digitChars]
  by_cases negative : power < 0
  · rw [if_pos (decide_eq_true negative)]
    omega
  · rw [if_neg (by simpa using negative)]
    omega

/-- Scientific text with one digit before the point and the others, if any, behind it. -/
private theorem standsFor_mantissa {decimal : Decimal} (negative : Bool) {first : Char}
    (fraction : Option (List Char))
    (digits : Decimal.digitChars decimal.digits = first :: fraction.getD [])
    (nonempty : fraction ≠ some []) :
    let power := decimal.exponent + ((fraction.getD []).length : Int)
    StandsFor ⟨negative, [first], fraction,
      some (decide (power < 0), Decimal.digitChars power.natAbs)⟩ decimal := by
  intro power
  have run : ∀ char ∈ first :: fraction.getD [], char.isDigit = true := by
    rw [← digits]
    exact fun _ => Decimal.isDigit_of_mem_digitChars
  refine ⟨⟨⟨by simp, ?_⟩, by simp, ?_, ?_⟩, ?_, .inr (by simp)⟩
  · intro char member
    exact run char (List.mem_cons.mpr (.inl (List.mem_singleton.mp member)))
  · intro places equal
    simp only at equal
    subst equal
    refine ⟨fun empty => nonempty (by rw [empty]), fun char member => ?_⟩
    exact run char (List.mem_cons_of_mem _ member)
  · intro _ places equal
    cases equal
    exact Decimal.digitRun_digitChars _
  · have whole : Decimal.ofDigitChars ([first] ++ fraction.getD []) = decimal.digits := by
      rw [List.singleton_append, ← digits, Decimal.ofDigitChars_digitChars]
    have exponent : power - ((fraction.getD []).length : Int) = decimal.exponent := by
      omega
    simp only [Literal.decimal, Literal.power, power_eq, whole, exponent]

theorem standsFor_scientific (decimal : Decimal) (negative : Bool) :
    ∃ literal, literal.negative = negative ∧
      decimal.scientific = literal.whole ++ (literal.writeFraction ++ literal.writeExponent) ∧
      StandsFor literal decimal := by
  unfold Decimal.scientific
  simp only
  cases digits : Decimal.digitChars decimal.digits with
  | nil => exact absurd digits (Decimal.digitChars_ne_nil _)
  | cons first others =>
      cases others with
      | nil =>
          refine ⟨_, rfl, ?_, standsFor_mantissa negative none digits (by simp)⟩
          simp [writeFraction, writeExponent]
      | cons second others =>
          refine ⟨_, rfl, ?_, standsFor_mantissa negative
            (some (second :: others)) digits (by simp)⟩
          have power : decimal.exponent + ((others.length : Int) + 1 + 1) - 1 =
              decimal.exponent + ((others.length : Int) + 1) := by
            omega
          simp [writeFraction, writeExponent, power]

theorem exists_literal_real (value : Double) :
    ∃ literal, literal.negative = value.negative ∧ writeReal value = literal.write ∧
      StandsFor literal (Decimal.shortest value) := by
  have body : ∃ literal, literal.negative = value.negative ∧
      layout.write (Decimal.shortest value) =
        literal.whole ++ (literal.writeFraction ++ literal.writeExponent) ∧
      StandsFor literal (Decimal.shortest value) := by
    unfold Decimal.Layout.write
    simp only
    split
    · obtain ⟨whole, places, text, stands⟩ := standsFor_positional (Decimal.shortest value)
        value.negative Decimal.exponent_shortest_of_digits_eq_zero
      exact ⟨_, rfl, by simpa [writeFraction, writeExponent] using text, stands⟩
    · exact standsFor_scientific _ _
  obtain ⟨literal, sign, text, stands⟩ := body
  refine ⟨literal, sign, ?_, stands⟩
  unfold writeReal Decimal.Layout.writeBinary Literal.write writeSign
  rw [text, sign]
  cases value.negative <;> rfl

/-- The text of a number is the text of a literal to which this number is the nearest. -/
theorem exists_literal (number : Number) :
    ∃ literal : Literal, literal.Sound ∧ number.write = literal.write ∧
      literal.nearest? = some number := by
  cases number with
  | integer value whole =>
      exact ⟨_, sound_whole _ _, writeWhole_eq_write value, number?_whole whole⟩
  | real value =>
      obtain ⟨literal, sign, text, stands⟩ := exists_literal_real value
      exact ⟨literal, stands.sound, text, nearest?_of_standsFor stands sign⟩

theorem write_injective {left right : Number} (same : left.write = right.write) :
    left = right := by
  obtain ⟨leftLiteral, leftSound, leftText, leftNearest⟩ := left.exists_literal
  obtain ⟨rightLiteral, rightSound, rightText, rightNearest⟩ := right.exists_literal
  have leftScanned := scan_write leftSound
  have rightScanned := scan_write rightSound
  rw [← leftText, same, rightText, rightScanned] at leftScanned
  cases leftScanned
  rw [leftNearest] at rightNearest
  exact Option.some.inj rightNearest

/-! ## Reading the text of a number -/

/-- What is read of the text of a number; `none` is an overflow. -/
def reread? (number : Number) : Option Number :=
  (scan number.write).bind fun scanned => scanned.1.number?

theorem scan_write_append (number : Number) {rest : List Char} (stops : Stops rest) :
    ∃ literal, scan (number.write ++ rest) = some (literal, rest) ∧
      literal.number? = number.reread? := by
  obtain ⟨literal, sound, text, -⟩ := number.exists_literal
  refine ⟨literal, ?_, ?_⟩
  · rw [text, Literal.scan_write_append sound stops]
  · rw [reread?, text, scan_write sound]
    rfl

def ReadsBack (number : Number) : Prop :=
  number.reread? = some number

instance (number : Number) : Decidable number.ReadsBack :=
  inferInstanceAs (Decidable (_ = _))

theorem readsBack_integer {value : Int} (whole : Whole value) :
    (integer value whole).ReadsBack := by
  rw [ReadsBack, reread?, write, writeWhole_eq_write, scan_write (sound_whole _ _)]
  exact number?_whole whole

/-- The greatest whole number with 53 bits, written as a real, is read as the one below it. -/
theorem reread?_real_greatest :
    (real ⟨false, 0x1fffffffffffff, 0, by decide⟩).reread? =
      some (real ⟨false, 0x1ffffffffffffe, 0, by decide⟩) := by
  decide +kernel

end Number

end Corpus
