import Corpus.Proofs.Binary.Nearest

/-!
# The order of numbers as reals

Where numbers are compared as reals, a whole number counts as the real nearest to it.  The order of
the exact values is kept, but whole numbers beyond the precision can fall together with others.
-/

namespace Corpus

/-- The whole numbers that a JSON number holds exactly. -/
abbrev WholeNumber : Type := { value : Int // Number.Whole value }

namespace Number

/-- The value of a number before it is rounded to a real. -/
def exact : Number → Rat
  | .integer value _ => value
  | .real value => value.value

theorem nearest_roundWhole {value : Int} (whole : Whole value) :
    Binary.nearest .double (decide (value < 0)) (value.natAbs : Rat) = some (roundWhole value) := by
  have bound : value.natAbs < 2 ^ 65 := by
    obtain ⟨lower, upper⟩ := whole
    omega
  have small : (value.natAbs : Rat) <
      (2 : Rat) ^ (BinaryFormat.double.maxExponent + BinaryFormat.double.precision - 1) := by
    calc
      (value.natAbs : Rat) < (2 : Rat) ^ (65 : Int) := by exact_mod_cast bound
      _ ≤ (2 : Rat) ^ (BinaryFormat.double.maxExponent + BinaryFormat.double.precision - 1) :=
        (zpow_le_zpow_iff_right₀ (by norm_num)).mpr (by decide)
  obtain ⟨rounded, found⟩ := Binary.exists_nearest_eq (by decide) (by decide)
    (decide (value < 0)) (Nat.cast_nonneg _) small
  rw [roundWhole, Binary.ofInt?, found]
  rfl

theorem signed_natAbs (value : Int) :
    Binary.signed (decide (value < 0)) (value.natAbs : Rat) = value := by
  have cast : ((value.natAbs : Nat) : Rat) = ((|value| : Int) : Rat) := by
    rw [← Int.cast_natCast, Int.natCast_natAbs]
  unfold Binary.signed
  rw [cast]
  split
  · next negative =>
    rw [abs_of_neg (of_decide_eq_true negative), Int.cast_neg, neg_neg]
  · next positive =>
    rw [abs_of_nonneg (not_lt.mp (mt decide_eq_true positive))]

theorem exists_nearest_eq_toDouble (number : Number) :
    ∃ negative magnitude, 0 ≤ magnitude ∧ number.exact = Binary.signed negative magnitude ∧
      Binary.nearest .double negative magnitude = some number.toDouble := by
  cases number with
  | integer value whole =>
      exact ⟨_, _, Nat.cast_nonneg _, (signed_natAbs value).symm, nearest_roundWhole whole⟩
  | real value =>
      exact ⟨_, _, value.magnitude_nonneg, rfl, Binary.nearest_magnitude value⟩

theorem isNearest_toDouble (number : Number) : number.toDouble.IsNearest number.exact := by
  obtain ⟨negative, magnitude, nonnegative, exact, rounded⟩ := number.exists_nearest_eq_toDouble
  rw [exact]
  exact Binary.isNearest_of_nearest (by decide) nonnegative rounded

/-- As reals, numbers keep the order of their exact values. -/
theorem value_toDouble_mono {left right : Number} (le : left.exact ≤ right.exact) :
    left.toDouble.value ≤ right.toDouble.value := by
  obtain ⟨leftSign, leftMagnitude, leftNonneg, leftIs, leftRounded⟩ :=
    left.exists_nearest_eq_toDouble
  obtain ⟨rightSign, rightMagnitude, rightNonneg, rightIs, rightRounded⟩ :=
    right.exists_nearest_eq_toDouble
  rw [leftIs, rightIs] at le
  exact Binary.value_le_of_nearest (by decide) leftNonneg rightNonneg le leftRounded rightRounded

end Number

namespace WholeNumber

def toNumber (number : WholeNumber) : Number :=
  .integer number.val number.property

theorem exact_toNumber (number : WholeNumber) : number.toNumber.exact = number.val := rfl

/-- The value of the real nearest to a whole number. -/
def rounded (number : WholeNumber) : Rat :=
  number.toNumber.toDouble.value

/-- A whole number is rounded to the nearest real, and of two that are equally near to the one with
the even significand. -/
theorem exists_isNearest_rounded (number : WholeNumber) :
    ∃ real : Double, real.value = number.rounded ∧ real.IsNearest number.val :=
  ⟨number.toNumber.toDouble, rfl, number.toNumber.isNearest_toDouble⟩

theorem rounded_mono {left right : WholeNumber} (le : left.val ≤ right.val) :
    left.rounded ≤ right.rounded := by
  apply Number.value_toDouble_mono
  rw [exact_toNumber, exact_toNumber]
  exact_mod_cast le

theorem rounded_le_iff {left right : WholeNumber} :
    left.rounded ≤ right.rounded ↔ left.val ≤ right.val ∨ left.rounded = right.rounded := by
  constructor
  · intro le
    rcases le_or_gt left.val right.val with inOrder | crossed
    · exact .inl inOrder
    · exact .inr (le_antisymm le (rounded_mono crossed.le))
  · rintro (inOrder | together)
    · exact rounded_mono inOrder
    · exact together.le

/-- Whole numbers of at most 53 binary digits, and the power of two beyond them, are reals. -/
theorem rounded_eq {number : WholeNumber} (fits : number.val.natAbs ≤ 2 ^ 53) :
    number.rounded = number.val := by
  have nearest := Number.nearest_roundWhole number.property
  obtain ⟨sign, -⟩ := Binary.nearest_eq_some (by decide) nearest
  have magnitude := Binary.magnitude_of_nearest_natCast (by decide) (by decide) fits nearest
  have real : number.toNumber.toDouble = Number.roundWhole number.val := rfl
  rw [rounded, real, Binary.value_eq_signed, sign, magnitude, Number.signed_natAbs]

/-- The whole numbers next to one inside the precision are exact and keep all others away. -/
theorem rounded_ne_of_ne {left right : WholeNumber} (inside : left.val.natAbs < 2 ^ 53)
    (different : left.val ≠ right.val) : left.rounded ≠ right.rounded := by
  have exactly := rounded_eq inside.le
  have neighbour (value : Int) (next : value.natAbs ≤ 2 ^ 53) :
      ∃ number : WholeNumber, number.val = value ∧ number.rounded = value := by
    have whole : Number.Whole value := by
      unfold Number.Whole
      omega
    exact ⟨⟨value, whole⟩, rfl, rounded_eq next⟩
  rcases lt_or_gt_of_ne different with less | greater
  · obtain ⟨above, value, rounded⟩ := neighbour (left.val + 1) (by omega)
    have le : above.rounded ≤ right.rounded := rounded_mono (by omega)
    rw [rounded, Int.cast_add, Int.cast_one] at le
    exact ne_of_lt (by linarith)
  · obtain ⟨below, value, rounded⟩ := neighbour (left.val - 1) (by omega)
    have le : right.rounded ≤ below.rounded := rounded_mono (by omega)
    rw [rounded, Int.cast_sub, Int.cast_one] at le
    exact ne_of_gt (by linarith)

/-- One of two whole numbers lies inside the precision, or both lie at its ends. -/
def ToldApart (left right : WholeNumber) : Prop :=
  left.val.natAbs < 2 ^ 53 ∨ right.val.natAbs < 2 ^ 53 ∨
    left.val.natAbs = 2 ^ 53 ∧ right.val.natAbs = 2 ^ 53

theorem rounded_eq_iff {left right : WholeNumber} (apart : left.ToldApart right) :
    left.rounded = right.rounded ↔ left.val = right.val := by
  refine ⟨fun same => ?_, fun same => congrArg rounded (Subtype.ext same)⟩
  rcases apart with leftInside | rightInside | ⟨leftEdge, rightEdge⟩
  · exact not_not.mp fun different => rounded_ne_of_ne leftInside different same
  · exact not_not.mp fun different => rounded_ne_of_ne rightInside (Ne.symm different) same.symm
  · rw [rounded_eq leftEdge.le, rounded_eq rightEdge.le] at same
    exact_mod_cast same

end WholeNumber

end Corpus
