import Corpus.Proofs.Binary.Order

/-!
# Rounding goes to the nearest number

On the scale of a magnitude the numbers of a format are the whole numbers, and the whole number
nearest to a scaled magnitude is chosen.  Numbers on smaller scales lie below the power of two at
which the precision is full, which is itself no farther from the magnitude than they are.
-/

namespace Corpus

theorem even_roundHalfEven_of_half {magnitude : Rat} (nonnegative : 0 ≤ magnitude)
    (half : |(roundHalfEven magnitude : Rat) - magnitude| = 1 / 2) :
    roundHalfEven magnitude % 2 = 0 := by
  have below := Int.floor_le magnitude
  have above := Int.lt_floor_add_one magnitude
  rw [← cast_toNat_floor nonnegative] at below above
  unfold roundHalfEven at half ⊢
  simp only at half ⊢
  generalize magnitude.floor.toNat = whole at below above half ⊢
  split at half
  · next lower =>
    rw [abs_of_nonpos (by linarith)] at half
    linarith
  · next notLower =>
    split at half
    · next upper =>
      rw [Nat.cast_succ, abs_of_nonneg (by linarith)] at half
      linarith
    · next notUpper =>
      rw [if_neg notLower, if_neg notUpper]
      split
      · next even => exact even
      · next odd => omega

/-- No whole number is nearer to a magnitude than its rounding, and one that is as near leaves the
even one. -/
theorem roundHalfEven_nearest {magnitude : Rat} (nonnegative : 0 ≤ magnitude) (other : Nat) :
    |(roundHalfEven magnitude : Rat) - magnitude| ≤ |(other : Rat) - magnitude| ∧
      (|(roundHalfEven magnitude : Rat) - magnitude| = |(other : Rat) - magnitude| →
        other ≠ roundHalfEven magnitude → roundHalfEven magnitude % 2 = 0) := by
  have near := abs_roundHalfEven_sub_le nonnegative
  by_cases same : other = roundHalfEven magnitude
  · rw [same]
    exact ⟨le_rfl, fun _ different => absurd rfl different⟩
  · have apart : (1 : Rat) ≤ |(other : Rat) - roundHalfEven magnitude| := by
      have whole : (1 : Int) ≤ |(other : Int) - roundHalfEven magnitude| :=
        Int.one_le_abs (by omega)
      exact_mod_cast whole
    have triangle := abs_sub_le (other : Rat) magnitude (roundHalfEven magnitude)
    rw [abs_sub_comm magnitude] at triangle
    refine ⟨by linarith, fun tie _ => ?_⟩
    exact even_roundHalfEven_of_half nonnegative (by linarith)

namespace Binary

variable {format : BinaryFormat}

/-- No other number of the format is nearer to an exact value, and one of another value that is as
near leaves the number with the even significand. -/
structure IsNearest (number : Binary format) (exact : Rat) : Prop where
  closest : ∀ other : Binary format, |number.value - exact| ≤ |other.value - exact|
  even : ∀ other : Binary format, |number.value - exact| = |other.value - exact| →
    other.value ≠ number.value → number.significand % 2 = 0

theorem even_significand_of_nearest (digits : 1 < format.precision) {negative : Bool}
    {magnitude : Rat} {number : Binary format}
    (rounded : nearest format negative magnitude = some number)
    (even : roundHalfEven (magnitude / (2 : Rat) ^ scaleOf format magnitude) % 2 = 0) :
    number.significand % 2 = 0 := by
  unfold nearest ofParts? at rounded
  simp only at rounded
  split at rounded
  · split at rounded
    · cases rounded
      obtain ⟨rest, precision⟩ : ∃ rest, format.precision - 1 = rest + 1 :=
        ⟨format.precision - 2, by omega⟩
      change Nat.pow 2 (format.precision - 1) % 2 = 0
      rw [precision, Nat.pow_eq, pow_succ]
      exact Nat.mul_mod_left ..
    · cases rounded
  · split at rounded
    · cases rounded
      exact even
    · cases rounded

theorem exists_magnitude_eq_mul {number : Binary format} {scale : Int}
    (above : scale ≤ number.exponent) :
    ∃ whole : Nat, number.magnitude = whole * (2 : Rat) ^ scale := by
  obtain ⟨shift, exponent⟩ := Int.eq_ofNat_of_zero_le (sub_nonneg.mpr above)
  refine ⟨number.significand * 2 ^ shift, ?_⟩
  rw [magnitude, show number.exponent = shift + scale by omega, zpow_add₀ (by norm_num),
    zpow_natCast]
  push_cast
  ring

theorem magnitude_lt_of_below_scale {exact : Rat} (positive : 0 < exact) {other : Binary format}
    (below : other.exponent < scaleOf format exact) (digits : 0 < format.precision) :
    other.magnitude < (Nat.pow 2 (format.precision - 1) : Nat) * (2 : Rat) ^ scaleOf format exact ∧
      (Nat.pow 2 (format.precision - 1) : Nat) * (2 : Rat) ^ scaleOf format exact ≤ exact := by
  have scaled : Scaled format exact _ := scaled_scaleOf positive
  have power : (Nat.pow 2 (format.precision - 1) : Nat) * (2 : Rat) ^ scaleOf format exact =
      (2 : Rat) ^ (scaleOf format exact + format.precision - 1) := by
    rw [cast_two_pow, ← zpow_natCast, ← zpow_add₀ (by norm_num)]
    congr 1
    omega
  rw [power]
  constructor
  · calc
      other.magnitude < (Nat.pow 2 format.precision : Nat) * (2 : Rat) ^ other.exponent := by
        unfold magnitude
        gcongr
        exact other.canonical.1
      _ = (2 : Rat) ^ (other.exponent + format.precision) := by
        rw [cast_two_pow, ← zpow_natCast, ← zpow_add₀ (by norm_num), add_comm]
      _ ≤ (2 : Rat) ^ (scaleOf format exact + format.precision - 1) :=
        (zpow_le_zpow_iff_right₀ (by norm_num)).mpr (by omega)
  · exact scaled.full.resolve_right (by have := other.canonical.2.1; omega)

theorem abs_mul_sub {unit : Rat} (positive : 0 < unit) (whole exact : Rat) :
    |whole * unit - exact| = |whole - exact / unit| * unit := by
  calc
    |whole * unit - exact| = |(whole - exact / unit) * unit| := by
      rw [sub_mul, div_mul_cancel₀ _ positive.ne']
    _ = |whole - exact / unit| * unit := by
      rw [abs_mul, abs_of_pos positive]

theorem abs_magnitude_sub_le (digits : 0 < format.precision) {negative : Bool} {exact : Rat}
    (nonnegative : 0 ≤ exact) {number : Binary format}
    (rounded : nearest format negative exact = some number) (whole : Nat) :
    |number.magnitude - exact| ≤ |whole * (2 : Rat) ^ scaleOf format exact - exact| := by
  have unit : (0 : Rat) < (2 : Rat) ^ scaleOf format exact := by positivity
  rw [(nearest_eq_some digits rounded).2, abs_mul_sub unit, abs_mul_sub unit]
  apply mul_le_mul_of_nonneg_right
  · exact (roundHalfEven_nearest (by positivity) whole).1
  · exact unit.le

theorem magnitude_nearest (digits : 1 < format.precision) {negative : Bool} {exact : Rat}
    (nonnegative : 0 ≤ exact) {number : Binary format}
    (rounded : nearest format negative exact = some number) (other : Binary format) :
    |number.magnitude - exact| ≤ |other.magnitude - exact| ∧
      (|number.magnitude - exact| = |other.magnitude - exact| →
        other.magnitude ≠ number.magnitude → number.significand % 2 = 0) := by
  rcases nonnegative.eq_or_lt with zero | positive
  · subst zero
    rw [magnitude_eq_zero rounded, sub_zero, abs_zero, sub_zero]
    refine ⟨abs_nonneg _, fun tie different => ?_⟩
    exact absurd (abs_eq_zero.mp tie.symm) different
  · have onGrid := abs_magnitude_sub_le (by omega) nonnegative rounded
    rcases le_or_gt (scaleOf format exact) other.exponent with above | below
    · obtain ⟨whole, value⟩ := exists_magnitude_eq_mul above
      rw [value]
      refine ⟨onGrid whole, fun tie different => ?_⟩
      rw [(nearest_eq_some (by omega) rounded).2] at tie different
      have unit : (0 : Rat) < (2 : Rat) ^ scaleOf format exact := by positivity
      rw [abs_mul_sub unit, abs_mul_sub unit] at tie
      apply even_significand_of_nearest digits rounded
      apply (roundHalfEven_nearest (by positivity) whole).2
      · exact mul_right_cancel₀ unit.ne' tie
      · intro same
        exact different (same ▸ rfl)
    · obtain ⟨less, full⟩ := magnitude_lt_of_below_scale positive below (by omega)
      have nearer := onGrid (Nat.pow 2 (format.precision - 1))
      rw [abs_of_nonpos (sub_nonpos.mpr full)] at nearer
      rw [abs_of_nonpos (sub_nonpos.mpr (less.le.trans full))]
      exact ⟨by linarith, fun tie => by linarith⟩

theorem magnitude_eq_zero_of_tie {negative : Bool} {exact : Rat} {number : Binary format}
    (rounded : nearest format negative exact = some number)
    (tie : |number.magnitude - exact| = number.magnitude + exact) : number.magnitude = 0 := by
  rcases abs_cases (number.magnitude - exact) with ⟨positive, _⟩ | ⟨negated, _⟩
  · have exactZero : exact = 0 := by linarith
    exact magnitude_eq_zero (exactZero ▸ rounded)
  · linarith

theorem abs_signed_sub_signed (negative : Bool) (left right : Rat) :
    |signed negative left - signed negative right| = |left - right| := by
  cases negative with
  | false => rfl
  | true =>
      change |-left - -right| = |left - right|
      rw [neg_sub_neg, abs_sub_comm]

theorem abs_signed_sub_opposite {sign negative : Bool} (opposite : sign ≠ negative)
    {left right : Rat} (leftNonneg : 0 ≤ left) (rightNonneg : 0 ≤ right) :
    |signed sign left - signed negative right| = left + right := by
  obtain rfl : sign = !negative := Bool.eq_not_of_ne opposite
  cases negative with
  | false =>
      change |-left - right| = left + right
      rw [abs_of_nonpos (by linarith)]
      ring
  | true =>
      change |left - -right| = left + right
      rw [sub_neg_eq_add, abs_of_nonneg (by linarith)]

/-- What a signed magnitude is rounded to is the number nearest to it. -/
theorem isNearest_of_nearest (digits : 1 < format.precision) {negative : Bool} {exact : Rat}
    (nonnegative : 0 ≤ exact) {number : Binary format}
    (rounded : nearest format negative exact = some number) :
    number.IsNearest (signed negative exact) := by
  have sign := (nearest_eq_some (by omega) rounded).1
  have numberNonneg := number.magnitude_nonneg
  have near := magnitude_nearest digits nonnegative rounded
  have distance : |number.value - signed negative exact| = |number.magnitude - exact| := by
    rw [value_eq_signed, sign, abs_signed_sub_signed]
  have apart (other : Binary format) :
      |other.magnitude - exact| ≤ other.magnitude + exact := by
    have otherNonneg := other.magnitude_nonneg
    exact abs_le.mpr ⟨by linarith, by linarith⟩
  constructor
  · intro other
    rw [distance]
    by_cases same : other.negative = negative
    · rw [value_eq_signed other, same, abs_signed_sub_signed]
      exact (near other).1
    · rw [value_eq_signed other,
        abs_signed_sub_opposite same other.magnitude_nonneg nonnegative]
      exact (near other).1.trans (apart other)
  · intro other tie different
    rw [distance] at tie
    by_cases same : other.negative = negative
    · rw [value_eq_signed other, same, abs_signed_sub_signed] at tie
      apply (near other).2 tie
      intro equal
      apply different
      rw [value_eq_signed, value_eq_signed, equal, same, sign]
    · rw [value_eq_signed other,
        abs_signed_sub_opposite same other.magnitude_nonneg nonnegative] at tie
      apply (near other).2 (le_antisymm (near other).1 ((apart other).trans tie.ge))
      intro equal
      have zero := magnitude_eq_zero_of_tie rounded (equal ▸ tie)
      apply different
      rw [value_eq_signed, value_eq_signed, equal, zero]
      cases other.negative <;> cases number.negative <;> simp [signed]

end Binary

end Corpus
