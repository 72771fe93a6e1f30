import Corpus.Proofs.Binary.Order
import Corpus.Proofs.Vector.Component

/-!
# The rank of a component

Finite components are ranked by their values.  The two zeros are the only ones of equal value, and
of them the negative one is ranked first.  The infinities are ranked at both ends.
-/

namespace Corpus

namespace Single

/-- The place of a number among those of its sign: the part of its word behind the sign. -/
def place (number : Single) : Nat :=
  if number.significand < 0x800000 then number.significand
  else (number.exponent + 150).toNat * 0x800000 + (number.significand - 0x800000)

theorem canonical_bounds (number : Single) :
    number.significand < 0x1000000 ∧ -149 ≤ number.exponent ∧ number.exponent ≤ 104 ∧
      (0x800000 ≤ number.significand ∨ number.exponent = -149) :=
  number.canonical

theorem place_eq (number : Single) :
    (number.place : Int) = (number.exponent + 149) * 0x800000 + number.significand := by
  have bounds := number.canonical_bounds
  unfold place
  split <;> omega

theorem place_lt (number : Single) : number.place < 0x7F800000 := by
  have bounds := number.canonical_bounds
  have place := number.place_eq
  omega

theorem magnitude_lt_of_place_lt {left right : Single} (less : left.place < right.place) :
    left.magnitude < right.magnitude := by
  have leftBounds := left.canonical_bounds
  have rightBounds := right.canonical_bounds
  have leftPlace := left.place_eq
  have rightPlace := right.place_eq
  rcases lt_trichotomy left.exponent right.exponent with lower | same | higher
  · exact Binary.magnitude_lt_of_exponent_lt (by decide) lower
  · unfold Binary.magnitude
    rw [same]
    gcongr
    omega
  · omega

theorem magnitude_eq_of_place_eq {left right : Single} (same : left.place = right.place) :
    left.magnitude = right.magnitude := by
  have leftBounds := left.canonical_bounds
  have rightBounds := right.canonical_bounds
  have leftPlace := left.place_eq
  have rightPlace := right.place_eq
  have exponents : left.exponent = right.exponent := by omega
  have significands : left.significand = right.significand := by omega
  unfold Binary.magnitude
  rw [exponents, significands]

theorem place_lt_iff {left right : Single} :
    left.place < right.place ↔ left.magnitude < right.magnitude := by
  constructor
  · exact magnitude_lt_of_place_lt
  · intro less
    rcases lt_trichotomy left.place right.place with lower | same | higher
    · exact lower
    · exact absurd (magnitude_eq_of_place_eq same) less.ne
    · exact absurd (magnitude_lt_of_place_lt higher) less.asymm

theorem toNat_toWord (number : Single) :
    number.toWord.toNat = (if number.negative then 0x80000000 else 0) + number.place := by
  have bound := number.place_lt
  have word : number.toWord =
      UInt32.ofNat ((if number.negative then 0x80000000 else 0) + number.place) := by
    unfold toWord place
    by_cases short : number.significand < 0x800000
    · simp only [if_pos short]
    · simp only [if_neg short, Nat.add_assoc]
  rw [word, UInt32.toNat_ofNat']
  apply Nat.mod_eq_of_lt
  split <;> omega

theorem toWord_of_ofWord? {word : UInt32} {number : Single} (found : ofWord? word = some number) :
    number.toWord = word := by
  by_cases inside : word.toNat / 0x800000 % 256 = 255
  · rw [ofWord?_eq_none inside] at found
    cases found
  · obtain ⟨other, same, back⟩ := exists_ofWord?_eq inside
    rw [found] at same
    cases same
    exact back

end Single

namespace Component

variable {component left right : Float32} {number small great : Single}

theorem rank_eq (found : finite? component = some number) :
    rank component = if number.negative then -1 - (number.place : Int) else number.place := by
  have bound := number.place_lt
  have word := number.toNat_toWord
  rw [Single.toWord_of_ofWord? found] at word
  unfold rank
  rw [word]
  cases number.negative <;> simp <;> omega

/-- Finite components are ranked by value; of the two zeros the negative one is ranked first. -/
theorem rank_lt_iff (leftIs : finite? left = some small) (rightIs : finite? right = some great) :
    rank left < rank right ↔ small.value < great.value ∨
      small.value = great.value ∧ small.negative = true ∧ great.negative = false := by
  have smallNonneg := small.magnitude_nonneg
  have greatNonneg := great.magnitude_nonneg
  rw [rank_eq leftIs, rank_eq rightIs, Binary.value_eq_signed, Binary.value_eq_signed]
  cases small.negative <;> cases great.negative <;>
    simp only [Binary.signed, reduceCtorEq, if_false, if_true, and_false, or_false, and_self,
      and_true]
  · rw [Nat.cast_lt]
    exact Single.place_lt_iff
  · refine iff_of_false ?_ ?_
    · omega
    · linarith
  · refine iff_of_true ?_ ?_
    · omega
    · exact lt_or_eq_of_le (by linarith)
  · rw [neg_lt_neg_iff, ← Single.place_lt_iff]
    omega

/-- Every finite component is ranked between the infinities. -/
theorem rank_infinity (found : finite? component = some number) :
    rank (infinity true) < rank component ∧ rank component < rank (infinity false) := by
  have bound := number.place_lt
  have lowest : rank (infinity true) = -1 - 0x7F800000 := by decide +kernel
  have highest : rank (infinity false) = 0x7F800000 := by decide +kernel
  rw [lowest, highest, rank_eq found]
  cases number.negative <;> simp <;> omega

end Component

end Corpus
