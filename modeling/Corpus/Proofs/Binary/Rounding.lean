import Corpus.Binary.Round
import Mathlib

/-!
# Rounding on the grid of a format

`Scaled` says which exponent a magnitude is rounded at.  It has exactly one solution, which
`Binary.scaleOf` finds, so a number of the format is its own rounding, a magnitude above the
format has none, and one below half of the least unit becomes zero.  A wider format holds every
number of a narrow one, so going there and back changes nothing.
-/

namespace Corpus.Binary

variable {format : BinaryFormat}

/-- At this exponent a magnitude has a significand of full precision, or the exponent is the
least one and the significand is smaller. -/
structure Scaled (format : BinaryFormat) (magnitude : Rat) (scale : Int) : Prop where
  least : format.minExponent ≤ scale
  below : magnitude < (2 : Rat) ^ (scale + format.precision)
  full : (2 : Rat) ^ (scale + format.precision - 1) ≤ magnitude ∨
    scale = format.minExponent

private theorem two_zpow_lt_iff {left right : Int} :
    (2 : Rat) ^ left < (2 : Rat) ^ right ↔ left < right :=
  zpow_lt_zpow_iff_right₀ (by norm_num)

private theorem two_zpow_le_iff {left right : Int} :
    (2 : Rat) ^ left ≤ (2 : Rat) ^ right ↔ left ≤ right :=
  zpow_le_zpow_iff_right₀ (by norm_num)

theorem Scaled.le_of_full {magnitude : Rat} {scale other : Int}
    (full : (2 : Rat) ^ (scale + format.precision - 1) ≤ magnitude)
    (scaled : Scaled format magnitude other) : scale ≤ other := by
  have powers := lt_of_le_of_lt full scaled.below
  have exponents := two_zpow_lt_iff.mp powers
  omega

theorem Scaled.unique {magnitude : Rat} {scale other : Int}
    (first : Scaled format magnitude scale)
    (second : Scaled format magnitude other) : scale = other := by
  apply le_antisymm
  · rcases first.full with full | least
    · exact second.le_of_full full
    · exact least ▸ second.least
  · rcases second.full with full | least
    · exact first.le_of_full full
    · exact least ▸ first.least

private theorem log2_bounds {whole : Nat} (positive : 0 < whole) :
    (2 : Rat) ^ (whole.log2 : Int) ≤ whole ∧
      (whole : Rat) < (2 : Rat) ^ ((whole.log2 : Int) + 1) := by
  constructor
  · exact_mod_cast Nat.log2_self_le positive.ne'
  · exact_mod_cast Nat.lt_log2_self (n := whole)

private theorem magnitude_bounds {magnitude : Rat} (positive : 0 < magnitude) :
    let power : Int := (magnitude.num.toNat.log2 : Int) - magnitude.den.log2
    (2 : Rat) ^ (power - 1) ≤ magnitude ∧ magnitude < (2 : Rat) ^ (power + 1) := by
  intro power
  have numeratorPositive : 0 < magnitude.num.toNat := by
    have := Rat.num_pos.mpr positive
    omega
  have quotient : magnitude = (magnitude.num.toNat : Rat) / magnitude.den := by
    have cast : ((magnitude.num.toNat : Int) : Rat) = magnitude.num := by
      rw [Int.toNat_of_nonneg (Rat.num_pos.mpr positive).le]
    rw [← Int.cast_natCast (R := Rat), cast, Rat.num_div_den]
  obtain ⟨numeratorLower, numeratorUpper⟩ := log2_bounds numeratorPositive
  obtain ⟨denominatorLower, denominatorUpper⟩ := log2_bounds magnitude.den_pos
  have denominatorPositive : (0 : Rat) < magnitude.den := by
    exact_mod_cast magnitude.den_pos
  constructor
  · rw [quotient, le_div_iff₀ denominatorPositive]
    calc
      (2 : Rat) ^ (power - 1) * magnitude.den
          ≤ (2 : Rat) ^ (power - 1) * (2 : Rat) ^ ((magnitude.den.log2 : Int) + 1) := by
        gcongr
      _ = (2 : Rat) ^ (magnitude.num.toNat.log2 : Int) := by
        rw [← zpow_add₀ (by norm_num)]
        congr 1
        omega
      _ ≤ magnitude.num.toNat := numeratorLower
  · rw [quotient, div_lt_iff₀ denominatorPositive]
    calc
      (magnitude.num.toNat : Rat) < (2 : Rat) ^ ((magnitude.num.toNat.log2 : Int) + 1) :=
        numeratorUpper
      _ = (2 : Rat) ^ (power + 1) * (2 : Rat) ^ (magnitude.den.log2 : Int) := by
        rw [← zpow_add₀ (by norm_num)]
        congr 1
        omega
      _ ≤ (2 : Rat) ^ (power + 1) * magnitude.den := by
        gcongr

theorem scaled_scaleOf {magnitude : Rat} (positive : 0 < magnitude) :
    Scaled format magnitude (scaleOf format magnitude) := by
  have bounds := magnitude_bounds positive
  unfold scaleOf
  rw [if_neg positive.ne']
  simp only at bounds ⊢
  generalize estimateIs : (magnitude.num.toNat.log2 : Int) - magnitude.den.log2
    - format.precision = estimate
  have lower : (2 : Rat) ^ (estimate + format.precision - 1) ≤ magnitude := by
    rw [show estimate + format.precision - 1 =
      (magnitude.num.toNat.log2 : Int) - magnitude.den.log2 - 1 by omega]
    exact bounds.1
  have upper : magnitude < (2 : Rat) ^ (estimate + format.precision + 1) := by
    rw [show estimate + format.precision + 1 =
      (magnitude.num.toNat.log2 : Int) - magnitude.den.log2 + 1 by omega]
    exact bounds.2
  have exact : ∃ scale : Int,
      (if magnitude / (2 : Rat) ^ estimate < (2 : Rat) ^ (format.precision : Int)
        then estimate else estimate + 1) = scale ∧
      magnitude < (2 : Rat) ^ (scale + format.precision) ∧
      (2 : Rat) ^ (scale + format.precision - 1) ≤ magnitude := by
    have scaling : magnitude / (2 : Rat) ^ estimate < (2 : Rat) ^ (format.precision : Int) ↔
        magnitude < (2 : Rat) ^ (estimate + format.precision) := by
      rw [div_lt_iff₀ (by positivity), ← zpow_add₀ (by norm_num), add_comm]
    by_cases fits : magnitude / (2 : Rat) ^ estimate < (2 : Rat) ^ (format.precision : Int)
    · exact ⟨estimate, if_pos fits, scaling.mp fits, lower⟩
    · refine ⟨estimate + 1, if_neg fits, ?_, ?_⟩
      · rwa [show estimate + 1 + format.precision = estimate + format.precision + 1 by omega]
      · rw [show estimate + 1 + format.precision - 1 = estimate + format.precision by omega]
        exact not_lt.mp fun smaller => fits (scaling.mpr smaller)
  obtain ⟨scale, scaleIs, below, full⟩ := exact
  rw [scaleIs]
  rcases le_total format.minExponent scale with inside | outside
  · rw [max_eq_left inside]
    exact ⟨inside, below, .inl full⟩
  · rw [max_eq_right outside]
    refine ⟨le_rfl, lt_of_lt_of_le below (two_zpow_le_iff.mpr (by omega)), .inr rfl⟩

theorem scaleOf_eq {magnitude : Rat} {scale : Int} (positive : 0 < magnitude)
    (scaled : Scaled format magnitude scale) : scaleOf format magnitude = scale :=
  (scaled_scaleOf positive).unique scaled

theorem roundHalfEven_natCast (whole : Nat) : roundHalfEven (whole : Rat) = whole := by
  have floorIs : (whole : Rat).floor = whole := Rat.floor_intCast whole
  simp [roundHalfEven, floorIs]

theorem roundHalfEven_of_lt_half {magnitude : Rat} (nonnegative : 0 ≤ magnitude)
    (small : magnitude < 1 / 2) : roundHalfEven magnitude = 0 := by
  have floorIs : magnitude.floor = 0 := by
    change ⌊magnitude⌋ = 0
    rw [Int.floor_eq_zero_iff]
    exact ⟨nonnegative, lt_trans small (by norm_num)⟩
  unfold roundHalfEven
  simp only [floorIs, Int.toNat_zero, Nat.cast_zero, sub_zero]
  rw [if_pos small]

theorem scaled_of_canonical {significand : Nat} {exponent : Int}
    (canonical : format.Canonical significand exponent) :
    Scaled format (significand * (2 : Rat) ^ exponent) exponent := by
  obtain ⟨fits, least, -, full⟩ := canonical
  refine ⟨least, ?_, ?_⟩
  · rw [zpow_add₀ (by norm_num), mul_comm]
    gcongr
    exact_mod_cast fits
  · refine full.imp (fun digits => ?_) id
    rw [add_sub_assoc, zpow_add₀ (by norm_num), mul_comm]
    gcongr
    calc
      (2 : Rat) ^ ((format.precision : Int) - 1)
          ≤ (2 : Rat) ^ ((format.precision - 1 : Nat) : Int) :=
        two_zpow_le_iff.mpr (by omega)
      _ ≤ significand := by exact_mod_cast digits

theorem nearest_zero (negative : Bool) :
    nearest format negative 0 = ofParts? negative 0 format.minExponent := by
  have floorIs : roundHalfEven 0 = 0 := roundHalfEven_natCast 0
  have different : ¬0 = 2 ^ format.precision := (Nat.two_pow_pos _).ne
  simp [nearest, scaleOf, floorIs, different]

/-- A number of the format is its own rounding. -/
theorem nearest_magnitude (number : Binary format) :
    nearest format number.negative number.magnitude = some number := by
  obtain ⟨negative, significand, exponent, canonical⟩ := number
  have parts : ofParts? negative significand exponent =
      some (⟨negative, significand, exponent, canonical⟩ : Binary format) := by
    simp [ofParts?, canonical]
  rcases Nat.eq_zero_or_pos significand with zero | positive
  · subst zero
    have least : exponent = format.minExponent :=
      canonical.2.2.2.resolve_left (not_le.mpr (Nat.two_pow_pos _))
    simp only [magnitude, Nat.cast_zero, zero_mul, nearest_zero]
    rw [← least, parts]
  · have scale : scaleOf format (significand * (2 : Rat) ^ exponent) = exponent :=
      scaleOf_eq (by positivity) (scaled_of_canonical canonical)
    have significandIs : (significand * (2 : Rat) ^ exponent) / (2 : Rat) ^ exponent
        = (significand : Rat) :=
      mul_div_cancel_right₀ _ (by positivity)
    have different : ¬significand = Nat.pow 2 format.precision := canonical.1.ne
    simp only [nearest, magnitude, scale, significandIs, roundHalfEven_natCast]
    rw [if_neg different, parts]

theorem nearest_eq_none {magnitude : Rat} (negative : Bool)
    (large : (2 : Rat) ^ (format.maxExponent + format.precision) ≤ magnitude) :
    nearest format negative magnitude = none := by
  have positive : 0 < magnitude := lt_of_lt_of_le (by positivity) large
  have scaled : Scaled format magnitude (scaleOf format magnitude) := scaled_scaleOf positive
  have above : format.maxExponent < scaleOf format magnitude := by
    have powers := two_zpow_lt_iff.mp (lt_of_le_of_lt large scaled.below)
    omega
  have parts (significand : Nat) {scale : Int} (beyond : format.maxExponent < scale) :
      (ofParts? negative significand scale : Option (Binary format)) = none := by
    have different : ¬format.Canonical significand scale := fun canonical =>
      absurd canonical.2.2.1 (not_le.mpr beyond)
    simp [ofParts?, different]
  unfold nearest
  simp only
  split
  · exact parts _ (by omega)
  · exact parts _ above

theorem nearest_of_lt_half {magnitude : Rat} (negative : Bool) (positive : 0 < magnitude)
    (small : magnitude < (2 : Rat) ^ (format.minExponent - 1)) :
    nearest format negative magnitude = nearest format negative 0 := by
  have scale : scaleOf format magnitude = format.minExponent := by
    refine scaleOf_eq positive ⟨le_rfl, lt_of_lt_of_le small ?_, .inr rfl⟩
    exact two_zpow_le_iff.mpr (by omega)
  have half : magnitude / (2 : Rat) ^ format.minExponent < 1 / 2 := by
    rw [div_lt_iff₀ (by positivity)]
    calc
      magnitude < (2 : Rat) ^ (format.minExponent - 1) := small
      _ = 1 / 2 * (2 : Rat) ^ format.minExponent := by
        rw [zpow_sub_one₀ (by norm_num)]
        ring
  have zero : roundHalfEven (magnitude / (2 : Rat) ^ format.minExponent) = 0 :=
    roundHalfEven_of_lt_half (by positivity) half
  have different : ¬0 = Nat.pow 2 format.precision := (Nat.two_pow_pos _).ne
  rw [nearest_zero]
  simp only [nearest, scale, zero]
  rw [if_neg different]

/-! ## Wider formats -/

section

variable {narrow wide : BinaryFormat}

theorem exists_wider (precision : narrow.precision ≤ wide.precision)
    (least : wide.minExponent + wide.precision ≤ narrow.minExponent)
    (greatest : narrow.maxExponent ≤ wide.maxExponent) (number : Binary narrow) :
    ∃ wider : Binary wide,
      wider.negative = number.negative ∧ wider.magnitude = number.magnitude := by
  obtain ⟨negative, significand, exponent, fits, aboveLeast, belowGreatest, -⟩ := number
  rcases Nat.eq_zero_or_pos significand with zero | positive
  · subst zero
    have canonical : wide.Canonical 0 wide.minExponent :=
      ⟨Nat.two_pow_pos _, le_rfl, by omega, .inr rfl⟩
    exact ⟨⟨negative, 0, wide.minExponent, canonical⟩, rfl, by simp [magnitude]⟩
  · have digits : significand.log2 < narrow.precision :=
      (Nat.log2_lt positive.ne').mpr fits
    obtain ⟨shift, filled⟩ : ∃ shift, significand.log2 + shift = wide.precision - 1 :=
      ⟨wide.precision - 1 - significand.log2, by omega⟩
    have lower : Nat.pow 2 (wide.precision - 1) ≤ significand * 2 ^ shift := by
      calc
        2 ^ (wide.precision - 1) = 2 ^ significand.log2 * 2 ^ shift := by rw [← filled, pow_add]
        _ ≤ significand * 2 ^ shift := by
          gcongr
          exact Nat.log2_self_le positive.ne'
    have upper : significand * 2 ^ shift < Nat.pow 2 wide.precision := by
      calc
        significand * 2 ^ shift < 2 ^ (significand.log2 + 1) * 2 ^ shift := by
          gcongr
          exact Nat.lt_log2_self
        _ = 2 ^ wide.precision := by
          rw [← pow_add]
          congr 1
          omega
    refine ⟨⟨negative, significand * 2 ^ shift, exponent - shift,
      upper, by omega, by omega, .inl lower⟩, rfl, ?_⟩
    simp only [magnitude, Nat.cast_mul, Nat.cast_pow, Nat.cast_ofNat]
    rw [zpow_sub₀ (by norm_num), zpow_natCast, mul_assoc, mul_div_cancel₀ _ (by positivity)]

/-- A number that is rounded to a wider format and back is the same number. -/
theorem exists_convert_eq (precision : narrow.precision ≤ wide.precision)
    (least : wide.minExponent + wide.precision ≤ narrow.minExponent)
    (greatest : narrow.maxExponent ≤ wide.maxExponent) (number : Binary narrow) :
    ∃ wider, convert wide number = some wider ∧ convert narrow wider = some number := by
  obtain ⟨wider, sign, magnitude⟩ := exists_wider precision least greatest number
  refine ⟨wider, ?_, ?_⟩
  · rw [convert, ← sign, ← magnitude, nearest_magnitude]
  · rw [convert, sign, magnitude, nearest_magnitude]

end

end Corpus.Binary
