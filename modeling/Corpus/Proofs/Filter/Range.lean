import Corpus.Filter.Basic
import Corpus.Proofs.Json.NumberOrder

/-!
# Ranges of whole numbers

A range compares whole numbers as the reals nearest to them.  It never loses a number between its
bounds; beyond the precision it also takes numbers outside a bound that are rounded to the same real
as the bound.
-/

namespace Corpus

def WholeNumber.toValue (number : WholeNumber) : Value :=
  .number number.toNumber

namespace Filter

theorem within_toValue {bound : Option WholeNumber} {test : Double → Bool} :
    within (bound.map WholeNumber.toValue) test = true ↔
      ∀ number ∈ bound, test number.toNumber.toDouble = true := by
  cases bound with
  | none => simp [within]
  | some number => simp [within, WholeNumber.toValue, Value.number, Value.toDouble?]

theorem inRange_toValue {min max : Option WholeNumber} {number : WholeNumber} :
    inRange (min.map WholeNumber.toValue) (max.map WholeNumber.toValue) number.toValue = true ↔
      (∀ low ∈ min, low.rounded ≤ number.rounded) ∧
        ∀ high ∈ max, number.rounded ≤ high.rounded := by
  have real : number.toValue.toDouble? = some number.toNumber.toDouble := rfl
  simp only [inRange, real, Bool.and_eq_true, within_toValue, Binary.le, decide_eq_true_eq,
    WholeNumber.rounded]

/-- A whole number is in a range of whole numbers if each bound is met exactly or falls together
with the number as a real.  Where the bounds and the number are told apart as reals, the range is
exact. -/
theorem matches_range_iff {metadata : Metadata} {key : String} {number : WholeNumber}
    (held : metadata.get? key = some number.toValue) (min max : Option WholeNumber) :
    let filter := Filter.range key (min.map WholeNumber.toValue) (max.map WholeNumber.toValue)
    (filter.matchesMetadata metadata = true ↔
      (∀ low ∈ min, low.val ≤ number.val ∨ low.rounded = number.rounded) ∧
        ∀ high ∈ max, number.val ≤ high.val ∨ number.rounded = high.rounded) ∧
    ((∀ bound, bound ∈ min ∨ bound ∈ max → number.ToldApart bound) →
      (filter.matchesMetadata metadata = true ↔
        (∀ low ∈ min, low.val ≤ number.val) ∧ ∀ high ∈ max, number.val ≤ high.val)) := by
  intro filter
  have rounded : filter.matchesMetadata metadata = true ↔
      (∀ low ∈ min, low.val ≤ number.val ∨ low.rounded = number.rounded) ∧
        ∀ high ∈ max, number.val ≤ high.val ∨ number.rounded = high.rounded := by
    simp only [filter, matchesMetadata, held, Option.any_some, inRange_toValue,
      WholeNumber.rounded_le_iff]
  refine ⟨rounded, fun apart => rounded.trans (and_congr ?_ ?_)⟩
  · refine forall₂_congr fun low member => ?_
    rw [eq_comm, WholeNumber.rounded_eq_iff (apart low (.inl member))]
    omega
  · refine forall₂_congr fun high member => ?_
    rw [WholeNumber.rounded_eq_iff (apart high (.inr member))]
    omega

/-- Of the nanoseconds of a time stamp the last ones do not count. -/
theorem matches_range_iff_stamped :
    let stamp : WholeNumber := ⟨1700000000000000000, by decide⟩
    let later : WholeNumber := ⟨1700000000000000001, by decide⟩
    let early : WholeNumber := ⟨-1, by decide⟩
    let metadata : Metadata := .singleton "at" stamp.toValue
    metadata.get? "at" = some stamp.toValue ∧
      (Filter.range "at" (some later.toValue) none).matchesMetadata metadata = true ∧
      stamp.ToldApart early ∧
      ¬(Filter.range "at" none (some early.toValue)).matchesMetadata metadata = true := by
  intro stamp later early metadata
  have held : metadata.get? "at" = some stamp.toValue := rfl
  have together : later.rounded = stamp.rounded := by decide +kernel
  have apart : stamp.ToldApart early := .inr (.inl (by decide))
  refine ⟨held, ?_, apart, ?_⟩
  · refine (matches_range_iff held (some later) none).1.mpr ⟨?_, by simp⟩
    simp [together]
  · intro matched
    have bounds := ((matches_range_iff held none (some early)).2 (by simp [apart])).mp matched
    exact absurd (bounds.2 early rfl) (by decide)

/-- The first whole number that is no real falls together with the one before it. -/
theorem beyond_bound_matched :
    let number : WholeNumber := ⟨9007199254740993, by decide⟩
    let bound : WholeNumber := ⟨9007199254740992, by decide⟩
    let metadata : Metadata := .singleton "n" number.toValue
    ¬number.val ≤ bound.val ∧
      (Filter.range "n" none (some bound.toValue)).matchesMetadata metadata = true := by
  decide +kernel

end Filter

end Corpus
