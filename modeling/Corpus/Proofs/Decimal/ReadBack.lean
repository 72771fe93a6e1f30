import Corpus.Decimal.Shortest
import Corpus.Proofs.Binary.Rounding

/-!
# Decimals are read by their value

`Decimal.toBinary` settles far exponents without computing the power; in a format that the bound
covers it still rounds the exact value.  Every decimal with the value of a number's shortest one
therefore reads back as that number.
-/

namespace Corpus.Decimal

variable {format : BinaryFormat}

/-- Beyond the bound on exponents a format has no number above, and only zero below. -/
structure Covers (format : BinaryFormat) : Prop where
  above : (2 : Rat) ^ (format.maxExponent + format.precision) ≤
    (10 : Rat) ^ (exponentBound + 1)
  below : 2 * (10 : Rat) ^ (-(exponentBound + 1)) ≤ (2 : Rat) ^ (format.minExponent - 1)

private theorem two_zpow_le_ten_zpow {binary : Int} (decimal : Nat)
    (bits : binary ≤ 3 * decimal) : (2 : Rat) ^ binary ≤ (10 : Rat) ^ (decimal : Int) := by
  calc
    (2 : Rat) ^ binary ≤ (2 : Rat) ^ ((3 * decimal : Nat) : Int) :=
      zpow_le_zpow_right₀ (by norm_num) (by omega)
    _ = (8 : Rat) ^ decimal := by
      rw [zpow_natCast, pow_mul]
      norm_num
    _ ≤ (10 : Rat) ^ (decimal : Int) := by
      rw [zpow_natCast]
      exact pow_le_pow_left₀ (by norm_num) (by norm_num) _

theorem covers_double : Covers .double where
  above := two_zpow_le_ten_zpow 401 (by decide)
  below := by
    have powers : (2 : Rat) ^ (1076 : Int) ≤ (10 : Rat) ^ (401 : Int) :=
      two_zpow_le_ten_zpow 401 (by decide)
    change 2 * (10 : Rat) ^ (-401 : Int) ≤ (2 : Rat) ^ (-1075 : Int)
    rw [zpow_neg, ← div_eq_mul_inv, div_le_iff₀ (by positivity)]
    calc
      (2 : Rat) = (2 : Rat) ^ (-1075 : Int) * (2 : Rat) ^ (1076 : Int) := by
        rw [← zpow_add₀ (by norm_num)]
        rfl
      _ ≤ (2 : Rat) ^ (-1075 : Int) * (10 : Rat) ^ (401 : Int) := by
        gcongr

private theorem value_of_above {decimal : Decimal} (positive : decimal.digits ≠ 0)
    (above : exponentBound < decimal.exponent) :
    (10 : Rat) ^ (exponentBound + 1) ≤ decimal.value := by
  have digit : (1 : Rat) ≤ decimal.digits := by
    exact_mod_cast Nat.one_le_iff_ne_zero.mpr positive
  calc
    (10 : Rat) ^ (exponentBound + 1) ≤ (10 : Rat) ^ decimal.exponent :=
      zpow_le_zpow_right₀ (by norm_num) above
    _ ≤ decimal.digits * (10 : Rat) ^ decimal.exponent :=
      le_mul_of_one_le_left (by positivity) digit

private theorem value_of_below {decimal : Decimal}
    (below : decimal.exponent < -(exponentBound + (decimal.digits.log2 : Int))) :
    decimal.value < 2 * (10 : Rat) ^ (-(exponentBound + 1)) := by
  have digits : (decimal.digits : Rat) < (2 : Rat) ^ (decimal.digits.log2 + 1) := by
    exact_mod_cast Nat.lt_log2_self (n := decimal.digits)
  have powers : (2 : Rat) ^ decimal.digits.log2 ≤ (10 : Rat) ^ decimal.digits.log2 :=
    pow_le_pow_left₀ (by norm_num) (by norm_num) _
  calc
    decimal.digits * (10 : Rat) ^ decimal.exponent
        < (2 : Rat) ^ (decimal.digits.log2 + 1) * (10 : Rat) ^ decimal.exponent := by
      gcongr
    _ ≤ (2 : Rat) ^ (decimal.digits.log2 + 1) *
        (10 : Rat) ^ (-(exponentBound + 1) - (decimal.digits.log2 : Int)) := by
      gcongr
      · norm_num
      · omega
    _ = 2 * (10 : Rat) ^ (-(exponentBound + 1)) *
        ((2 : Rat) ^ decimal.digits.log2 / (10 : Rat) ^ decimal.digits.log2) := by
      rw [zpow_sub₀ (by norm_num), zpow_natCast, pow_succ]
      ring
    _ ≤ 2 * (10 : Rat) ^ (-(exponentBound + 1)) := by
      refine mul_le_of_le_one_right (by positivity) ?_
      exact div_le_one_of_le₀ powers (by positivity)

theorem toBinary_eq_nearest (covers : Covers format) (negative : Bool) (decimal : Decimal) :
    decimal.toBinary format negative = Binary.nearest format negative decimal.value := by
  unfold toBinary
  by_cases zero : decimal.digits = 0
  · simp [zero, value]
  rw [if_neg zero]
  by_cases above : exponentBound < decimal.exponent
  · rw [if_pos above]
    exact (Binary.nearest_eq_none negative
      (covers.above.trans (value_of_above zero above))).symm
  rw [if_neg above]
  by_cases below : decimal.exponent < -(exponentBound + (decimal.digits.log2 : Int))
  · rw [if_pos below]
    have positive : 0 < decimal.value := by
      have digits : (0 : Rat) < decimal.digits := by
        exact_mod_cast Nat.pos_of_ne_zero zero
      exact mul_pos digits (by positivity)
    exact (Binary.nearest_of_lt_half negative positive
      ((value_of_below below).trans_le covers.below)).symm
  · rw [if_neg below]

theorem ofDigitChars_eq (chars : List Char) :
    ofDigitChars chars = Nat.ofDigitChars 10 chars 0 := by
  simp only [ofDigitChars, Nat.ofDigitChars_eq_foldl, Nat.mul_comm 10]

@[simp] theorem ofDigitChars_digitChars (whole : Nat) :
    ofDigitChars (digitChars whole) = whole := by
  rw [ofDigitChars_eq]
  exact Nat.ofDigitChars_ten_toDigits

theorem ofDigitChars_append (left right : List Char) :
    ofDigitChars (left ++ right) =
      Nat.ofDigitChars 10 right (ofDigitChars left) := by
  simp only [ofDigitChars_eq, Nat.ofDigitChars_append]

theorem ofDigitChars_append_zeros (chars : List Char) (count : Nat) :
    ofDigitChars (chars ++ List.replicate count '0') = 10 ^ count * ofDigitChars chars := by
  rw [ofDigitChars_append, Nat.ofDigitChars_replicate_zero]

theorem ofDigitChars_zeros_append (count : Nat) (chars : List Char) :
    ofDigitChars (List.replicate count '0' ++ chars) = ofDigitChars chars := by
  have zeros : ofDigitChars (List.replicate count '0') = 0 := by
    simpa [ofDigitChars] using ofDigitChars_append_zeros [] count
  rw [ofDigitChars_append, zeros, ofDigitChars_eq]

private theorem eq_append_zeros (chars : List Char) :
    ∃ front, chars = front ++
      List.replicate (chars.reverse.takeWhile (· == '0')).length '0' := by
  refine ⟨(chars.reverse.dropWhile (· == '0')).reverse, ?_⟩
  have zeros : chars.reverse.takeWhile (· == '0') =
      List.replicate (chars.reverse.takeWhile (· == '0')).length '0' := by
    refine List.eq_replicate_of_mem fun char member => ?_
    simpa using (List.mem_takeWhile_imp member)
  have split := congrArg List.reverse
    (List.takeWhile_append_dropWhile (p := (· == '0')) (l := chars.reverse))
  rw [List.reverse_append, List.reverse_reverse, zeros, List.reverse_replicate] at split
  simpa using split.symm

@[simp] theorem value_trim (decimal : Decimal) : decimal.trim.value = decimal.value := by
  unfold trim
  by_cases zero : decimal.digits = 0
  · simp [zero, value]
  obtain ⟨front, split⟩ := eq_append_zeros (digitChars decimal.digits)
  simp only
  rw [if_neg zero]
  generalize ((digitChars decimal.digits).reverse.takeWhile (· == '0')).length = zeros at split ⊢
  have digits : decimal.digits = 10 ^ zeros * ofDigitChars front := by
    rw [← ofDigitChars_append_zeros, ← split, ofDigitChars_digitChars]
  have quotient : decimal.digits / Nat.pow 10 zeros = ofDigitChars front := by
    rw [digits, Nat.pow_eq, Nat.mul_div_cancel_left _ (by positivity)]
  unfold value
  simp only
  rw [quotient, digits, zpow_add₀ (by norm_num), zpow_natCast]
  push_cast
  ring

theorem exponent_trim_of_digits_eq_zero {decimal : Decimal} (zero : decimal.trim.digits = 0) :
    decimal.trim.exponent = 0 := by
  have value : decimal.value = 0 := by
    rw [← value_trim, Decimal.value, zero]
    simp
  have digits : decimal.digits = 0 := by
    have powers : (10 : Rat) ^ decimal.exponent ≠ 0 := by positivity
    simpa [Decimal.value, powers] using value
  simp [trim, digits]

theorem value_exact (number : Binary format) : (exact number).value = number.magnitude := by
  unfold exact value Binary.magnitude
  by_cases whole : 0 ≤ number.exponent
  · obtain ⟨power, exponent⟩ := Int.eq_ofNat_of_zero_le whole
    simp [exponent]
  · obtain ⟨power, exponent⟩ := Int.exists_eq_neg_ofNat (not_le.mp whole).le
    rw [if_neg whole]
    simp only [exponent, neg_neg, Int.toNat_natCast, zpow_neg, zpow_natCast, Nat.pow_eq]
    push_cast
    rw [show (10 : Rat) = 5 * 2 by norm_num, mul_pow]
    field_simp

theorem readsBack_of_readable {number : Binary format} {unit : Int} {decimal : Decimal}
    (found : readable number unit = some decimal) : readsBack number decimal = true := by
  unfold readable at found
  generalize neighbours number.magnitude unit = pair at found
  obtain ⟨below, above⟩ := pair
  simp only at found
  cases belowReads : readsBack number below <;> cases aboveReads : readsBack number above <;>
    simp only [belowReads, aboveReads] at found
  · cases found
  · cases found
    exact aboveReads
  · cases found
    exact belowReads
  · split at found
    · cases found
      exact belowReads
    · split at found
      · cases found
        exact aboveReads
      · split at found <;> cases found
        · exact belowReads
        · exact aboveReads

/-- The value of the shortest decimal is rounded to the number. -/
theorem nearest_value_shortest (covers : Covers format) (number : Binary format) :
    Binary.nearest format number.negative (shortest number).value = some number := by
  have exactly := Binary.nearest_magnitude number
  unfold shortest
  by_cases zero : number.isZero
  · have magnitude : number.magnitude = 0 := by
      have significand : number.significand = 0 := by
        simpa [Binary.isZero] using zero
      simp [Binary.magnitude, significand]
    rw [if_pos zero]
    simpa [value, magnitude] using exactly
  · rw [if_neg zero]
    simp only
    rw [value_trim]
    cases found : (List.range 17).findSome? fun (fewer : Nat) =>
      readable number (pointPosition number.magnitude - (fewer : Int) - 1) with
    | none =>
        rw [Option.getD_none, value_exact]
        exact exactly
    | some decimal =>
        obtain ⟨fewer, -, readableIs⟩ := List.exists_of_findSome?_eq_some found
        have reads := readsBack_of_readable readableIs
        rw [Option.getD_some, ← toBinary_eq_nearest covers]
        simpa [readsBack] using reads

theorem toBinary_of_value_eq (covers : Covers format) {number : Binary format}
    {decimal : Decimal} (same : decimal.value = (shortest number).value) :
    decimal.toBinary format number.negative = some number := by
  rw [toBinary_eq_nearest covers, same]
  exact nearest_value_shortest covers number

theorem exponent_shortest_of_digits_eq_zero {number : Binary format}
    (zero : (shortest number).digits = 0) : (shortest number).exponent = 0 := by
  unfold shortest at zero ⊢
  split at zero
  · next isZero => simp [isZero]
  · next nonzero =>
    simp only [nonzero] at zero ⊢
    exact exponent_trim_of_digits_eq_zero zero

end Corpus.Decimal
