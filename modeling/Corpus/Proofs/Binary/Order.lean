import Corpus.Json.Number
import Corpus.Proofs.Binary.Rounding

/-!
# Rounding keeps the order

A rounded significand is off by at most a half, so a greater magnitude is never rounded to a smaller
one: on one scale because of the half, and on two scales because all significands of full precision
lie between the same two powers of two.  Numbers are hence ordered as the reals nearest to them,
except that different numbers can have one nearest real; whole numbers up to the precision have
themselves.
-/

namespace Corpus

theorem cast_toNat_floor {magnitude : Rat} (nonnegative : 0 ≤ magnitude) :
    ((magnitude.floor.toNat : Nat) : Rat) = (⌊magnitude⌋ : Rat) := by
  have cast : ((magnitude.floor.toNat : Nat) : Int) = ⌊magnitude⌋ :=
    Int.toNat_of_nonneg (Int.floor_nonneg.mpr nonnegative)
  exact_mod_cast congrArg (Int.cast (R := Rat)) cast

theorem abs_roundHalfEven_sub_le {magnitude : Rat} (nonnegative : 0 ≤ magnitude) :
    |(roundHalfEven magnitude : Rat) - magnitude| ≤ 1 / 2 := by
  have below := cast_toNat_floor nonnegative
  have lower := Int.floor_le magnitude
  have upper := Int.lt_floor_add_one magnitude
  rw [abs_le]
  unfold roundHalfEven
  simp only [below]
  split
  · rw [below]
    constructor <;> linarith
  · split
    · rw [Nat.cast_succ, below]
      constructor <;> linarith
    · split
      · rw [below]
        constructor <;> linarith
      · rw [Nat.cast_succ, below]
        constructor <;> linarith

theorem roundHalfEven_mono {small great : Rat} (nonnegative : 0 ≤ small) (le : small ≤ great) :
    roundHalfEven small ≤ roundHalfEven great := by
  by_contra crossed
  have apart : (roundHalfEven great : Rat) + 1 ≤ roundHalfEven small := by
    exact_mod_cast Nat.lt_of_not_le crossed
  have smallOff := abs_le.mp (abs_roundHalfEven_sub_le nonnegative)
  have greatOff := abs_le.mp (abs_roundHalfEven_sub_le (nonnegative.trans le))
  have same : small = great := by linarith
  exact crossed (same ▸ le_rfl)

namespace Binary

variable {format : BinaryFormat}

/-- A magnitude with a sign. -/
def signed (negative : Bool) (magnitude : Rat) : Rat :=
  if negative then -magnitude else magnitude

theorem cast_two_pow (digits : Nat) :
    ((Nat.pow 2 digits : Nat) : Rat) = (2 : Rat) ^ digits := by
  rw [Nat.pow_eq, Nat.cast_pow, Nat.cast_ofNat]

theorem value_eq_signed (number : Binary format) :
    number.value = signed number.negative number.magnitude := rfl

theorem magnitude_nonneg (number : Binary format) : 0 ≤ number.magnitude := by
  unfold magnitude
  positivity

theorem magnitude_lt_of_exponent_lt (digits : 0 < format.precision) {left right : Binary format}
    (less : left.exponent < right.exponent) : left.magnitude < right.magnitude := by
  have full : Nat.pow 2 (format.precision - 1) ≤ right.significand := by
    apply right.canonical.2.2.2.resolve_right
    have := left.canonical.2.1
    omega
  calc
    left.magnitude < (Nat.pow 2 format.precision : Nat) * (2 : Rat) ^ left.exponent := by
      unfold magnitude
      gcongr
      exact left.canonical.1
    _ = (Nat.pow 2 (format.precision - 1) : Nat) * (2 : Rat) ^ (left.exponent + 1) := by
      rw [cast_two_pow, cast_two_pow, ← pow_sub_one_mul digits.ne', zpow_add_one₀ (by norm_num)]
      ring
    _ ≤ (Nat.pow 2 (format.precision - 1) : Nat) * (2 : Rat) ^ right.exponent := by
      gcongr
      · norm_num
      · omega
    _ ≤ right.magnitude := by
      unfold magnitude
      gcongr

theorem ofParts?_eq_some {negative : Bool} {significand : Nat} {exponent : Int}
    {number : Binary format} (made : ofParts? negative significand exponent = some number) :
    number.negative = negative ∧ number.magnitude = significand * (2 : Rat) ^ exponent := by
  unfold ofParts? at made
  split at made
  · cases made
    exact ⟨rfl, rfl⟩
  · cases made

/-- A magnitude is rounded on its own scale, also where the rounded significand has a digit more. -/
theorem nearest_eq_some (digits : 0 < format.precision) {negative : Bool} {magnitude : Rat}
    {number : Binary format} (rounded : nearest format negative magnitude = some number) :
    number.negative = negative ∧
      number.magnitude = roundHalfEven (magnitude / (2 : Rat) ^ scaleOf format magnitude) *
        (2 : Rat) ^ scaleOf format magnitude := by
  unfold nearest at rounded
  simp only at rounded
  split at rounded
  · next carried =>
    obtain ⟨sign, value⟩ := ofParts?_eq_some rounded
    refine ⟨sign, ?_⟩
    rw [value, carried, cast_two_pow, cast_two_pow, ← pow_sub_one_mul digits.ne',
      zpow_add_one₀ (by norm_num)]
    ring
  · exact ofParts?_eq_some rounded

theorem scaleOf_mono {small great : Rat} (positive : 0 < small) (le : small ≤ great) :
    scaleOf format small ≤ scaleOf format great := by
  have smallScaled : Scaled format small _ := scaled_scaleOf positive
  have greatScaled : Scaled format great _ := scaled_scaleOf (positive.trans_le le)
  rcases smallScaled.full with full | least
  · exact greatScaled.le_of_full (full.trans le)
  · exact least ▸ greatScaled.least

theorem roundHalfEven_scaled_le {magnitude : Rat} (positive : 0 < magnitude) :
    roundHalfEven (magnitude / (2 : Rat) ^ scaleOf format magnitude) ≤
      Nat.pow 2 format.precision := by
  have below : magnitude / (2 : Rat) ^ scaleOf format magnitude ≤
      (Nat.pow 2 format.precision : Nat) := by
    have scaled : Scaled format magnitude _ := scaled_scaleOf positive
    rw [div_le_iff₀ (by positivity)]
    refine scaled.below.le.trans_eq ?_
    rw [add_comm, zpow_add₀ (by norm_num), zpow_natCast, cast_two_pow]
  exact (roundHalfEven_mono (by positivity) below).trans_eq (roundHalfEven_natCast _)

theorem le_roundHalfEven_scaled (digits : 0 < format.precision) {magnitude : Rat}
    (positive : 0 < magnitude) (above : scaleOf format magnitude ≠ format.minExponent) :
    Nat.pow 2 (format.precision - 1) ≤
      roundHalfEven (magnitude / (2 : Rat) ^ scaleOf format magnitude) := by
  have filled : ((Nat.pow 2 (format.precision - 1) : Nat) : Rat) ≤
      magnitude / (2 : Rat) ^ scaleOf format magnitude := by
    have scaled : Scaled format magnitude _ := scaled_scaleOf positive
    rw [le_div_iff₀ (by positivity)]
    refine le_trans (le_of_eq ?_) (scaled.full.resolve_right above)
    rw [show scaleOf format magnitude + format.precision - 1 =
      ((format.precision - 1 : Nat) : Int) + scaleOf format magnitude by omega,
      zpow_add₀ (by norm_num), zpow_natCast, cast_two_pow]
  exact (roundHalfEven_natCast _).symm.trans_le (roundHalfEven_mono (by positivity) filled)

theorem magnitude_eq_zero {negative : Bool} {number : Binary format}
    (rounded : nearest format negative 0 = some number) : number.magnitude = 0 := by
  rw [nearest_zero] at rounded
  simp [(ofParts?_eq_some rounded).2]

theorem magnitude_le_of_nearest (digits : 0 < format.precision) {small great : Rat}
    (nonnegative : 0 ≤ small) (le : small ≤ great) {negative opposite : Bool}
    {lower upper : Binary format} (smallRounded : nearest format negative small = some lower)
    (greatRounded : nearest format opposite great = some upper) :
    lower.magnitude ≤ upper.magnitude := by
  rcases nonnegative.eq_or_lt with zero | positive
  · rw [magnitude_eq_zero (zero ▸ smallRounded)]
    exact upper.magnitude_nonneg
  · rw [(nearest_eq_some digits smallRounded).2, (nearest_eq_some digits greatRounded).2]
    have greatPositive : 0 < great := positive.trans_le le
    have scales : scaleOf format small ≤ scaleOf format great := scaleOf_mono positive le
    rcases scales.eq_or_lt with same | less
    · rw [← same]
      gcongr
      exact roundHalfEven_mono (by positivity) (by gcongr)
    · have above : scaleOf format great ≠ format.minExponent := by
        have scaled : Scaled format small _ := scaled_scaleOf positive
        have least := scaled.least
        omega
      calc
        (roundHalfEven (small / (2 : Rat) ^ scaleOf format small) : Rat) *
            (2 : Rat) ^ scaleOf format small
            ≤ (Nat.pow 2 format.precision : Nat) * (2 : Rat) ^ scaleOf format small := by
          gcongr
          exact roundHalfEven_scaled_le positive
        _ = (Nat.pow 2 (format.precision - 1) : Nat) * (2 : Rat) ^ (scaleOf format small + 1) := by
          rw [cast_two_pow, cast_two_pow, ← pow_sub_one_mul digits.ne',
            zpow_add_one₀ (by norm_num)]
          ring
        _ ≤ (Nat.pow 2 (format.precision - 1) : Nat) * (2 : Rat) ^ scaleOf format great := by
          gcongr
          · norm_num
          · omega
        _ ≤ roundHalfEven (great / (2 : Rat) ^ scaleOf format great) *
            (2 : Rat) ^ scaleOf format great := by
          gcongr
          exact le_roundHalfEven_scaled digits greatPositive above

/-- Rounding keeps the order of signed magnitudes. -/
theorem value_le_of_nearest (digits : 0 < format.precision) {left right : Rat}
    {leftSign rightSign : Bool} (leftNonneg : 0 ≤ left) (rightNonneg : 0 ≤ right)
    (le : signed leftSign left ≤ signed rightSign right) {lower upper : Binary format}
    (leftRounded : nearest format leftSign left = some lower)
    (rightRounded : nearest format rightSign right = some upper) : lower.value ≤ upper.value := by
  rw [value_eq_signed, value_eq_signed, (nearest_eq_some digits leftRounded).1,
    (nearest_eq_some digits rightRounded).1]
  have lowerNonneg := lower.magnitude_nonneg
  have upperNonneg := upper.magnitude_nonneg
  cases leftSign <;> cases rightSign <;>
    simp only [signed, Bool.false_eq_true, if_false, if_true] at le ⊢
  · exact magnitude_le_of_nearest digits leftNonneg le leftRounded rightRounded
  · have leftZero : left = 0 := by linarith
    have rightZero : right = 0 := by linarith
    rw [magnitude_eq_zero (leftZero ▸ leftRounded), magnitude_eq_zero (rightZero ▸ rightRounded),
      neg_zero]
  · linarith
  · have := magnitude_le_of_nearest digits rightNonneg (by linarith) rightRounded leftRounded
    linarith

/-- What is less than the greatest power of two of the format is rounded to a number of it. -/
theorem exists_nearest_eq (digits : 0 < format.precision)
    (exponents : format.minExponent < format.maxExponent) (negative : Bool) {magnitude : Rat}
    (nonnegative : 0 ≤ magnitude)
    (small : magnitude < (2 : Rat) ^ (format.maxExponent + format.precision - 1)) :
    ∃ number, nearest format negative magnitude = some number := by
  have made {significand : Nat} {exponent : Int}
      (canonical : format.Canonical significand exponent) :
      ∃ number, ofParts? negative significand exponent = some number :=
    ⟨_, dif_pos canonical⟩
  rcases nonnegative.eq_or_lt with zero | positive
  · rw [← zero, nearest_zero]
    exact made ⟨Nat.two_pow_pos _, le_rfl, exponents.le, .inr rfl⟩
  · have scaled : Scaled format magnitude _ := scaled_scaleOf positive
    have bounded : scaleOf format magnitude < format.maxExponent := by
      rcases scaled.full with full | least
      · have powers := (zpow_lt_zpow_iff_right₀ (by norm_num)).mp (full.trans_lt small)
        omega
      · exact least ▸ exponents
    unfold nearest
    simp only
    split
    · exact made ⟨Nat.pow_lt_pow_right one_lt_two (by omega), scaled.least.trans (by omega),
        bounded, .inl le_rfl⟩
    · next different =>
      refine made ⟨(roundHalfEven_scaled_le positive).lt_of_ne different, scaled.least, bounded.le,
        ?_⟩
      by_cases least : scaleOf format magnitude = format.minExponent
      · exact .inr least
      · exact .inl (le_roundHalfEven_scaled digits positive least)

theorem magnitude_of_nearest_natCast (digits : 0 < format.precision)
    (least : format.minExponent ≤ 0) {negative : Bool} {whole : Nat} {number : Binary format}
    (fits : whole ≤ Nat.pow 2 format.precision)
    (rounded : nearest format negative (whole : Rat) = some number) :
    number.magnitude = whole := by
  rcases Nat.eq_zero_or_pos whole with zero | positive
  · subst zero
    rw [Nat.cast_zero] at rounded
    rw [magnitude_eq_zero rounded, Nat.cast_zero]
  · have scaled : Scaled format (whole : Rat) _ := scaled_scaleOf (Nat.cast_pos.mpr positive)
    obtain ⟨significand, exact⟩ : ∃ significand : Nat,
        (whole : Rat) / (2 : Rat) ^ scaleOf format (whole : Rat) = significand := by
      rcases le_or_gt (scaleOf format (whole : Rat)) 0 with fine | coarse
      · refine ⟨whole * 2 ^ (-scaleOf format (whole : Rat)).toNat, ?_⟩
        rw [Nat.cast_mul, Nat.cast_pow, Nat.cast_ofNat, ← zpow_natCast,
          Int.toNat_of_nonneg (by omega), zpow_neg, div_eq_mul_inv]
      · have full := scaled.full.resolve_right (by omega)
        have whole_le : (whole : Rat) ≤ (2 : Rat) ^ (format.precision : Int) := by
          rw [zpow_natCast, ← cast_two_pow]
          exact_mod_cast fits
        have one : scaleOf format (whole : Rat) = 1 := by
          have powers := (zpow_le_zpow_iff_right₀ (by norm_num)).mp (full.trans whole_le)
          omega
        rw [one, add_sub_cancel_left] at full
        refine ⟨Nat.pow 2 (format.precision - 1), ?_⟩
        rw [one, cast_two_pow, le_antisymm whole_le full, zpow_natCast,
          ← pow_sub_one_mul digits.ne', zpow_one, mul_div_cancel_right₀ _ (by norm_num)]
    rw [(nearest_eq_some digits rounded).2, exact, roundHalfEven_natCast, ← exact,
      div_mul_cancel₀ _ (by positivity)]

end Binary

end Corpus
