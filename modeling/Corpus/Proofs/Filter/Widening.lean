import Corpus.Proofs.Filter.Range

/-!
# Wider filters

A filter is made wider by dropping bounds of its ranges or moving them outwards, at any depth.  The
exact values of numbers decide what is outwards, while a range compares the reals nearest to them;
since rounding keeps the order, a wider filter nevertheless accepts all that the narrower one does.
-/

namespace Corpus

namespace Filter

/-- A bound is loosened: it is kept, dropped, or a number is moved to one that lies further out by
its exact value. -/
inductive Loosened (further : Rat → Rat → Prop) : Option Value → Option Value → Prop where
  | kept (bound : Option Value) : Loosened further bound bound
  | dropped (bound : Option Value) : Loosened further bound none
  | moved {number outer : Number} :
      further outer.exact number.exact →
      Loosened further (some (.number number)) (some (.number outer))

/-- A filter is widened: ranges anywhere in it have bounds that are loosened, and all else is the
same. -/
inductive Widened : Filter → Filter → Prop where
  | same (filter : Filter) : Widened filter filter
  | range (key : String) {min max low high : Option Value} :
      Loosened (· ≤ ·) min low →
      Loosened (· ≥ ·) max high →
      Widened (.range key min max) (.range key low high)
  | all {filters wider : List Filter} :
      filters.length = wider.length →
      (∀ (place : Nat) (narrow : place < filters.length) (wide : place < wider.length),
        Widened filters[place] wider[place]) →
      Widened (.all filters) (.all wider)
  | any {filters wider : List Filter} :
      filters.length = wider.length →
      (∀ (place : Nat) (narrow : place < filters.length) (wide : place < wider.length),
        Widened filters[place] wider[place]) →
      Widened (.any filters) (.any wider)

theorem Widened.all_of_forall₂ {filters wider : List Filter}
    (each : List.Forall₂ Widened filters wider) : Widened (.all filters) (.all wider) :=
  .all each.length_eq fun _ narrow wide => each.get narrow wide

theorem Widened.any_of_forall₂ {filters wider : List Filter}
    (each : List.Forall₂ Widened filters wider) : Widened (.any filters) (.any wider) :=
  .any each.length_eq fun _ narrow wide => each.get narrow wide

theorem allMatch_iff {metadata : Metadata} {filters : List Filter} :
    allMatch metadata filters = true ↔
      ∀ filter ∈ filters, filter.matchesMetadata metadata = true := by
  induction filters with
  | nil => simp [allMatch]
  | cons filter filters induction => simp [allMatch, induction]

theorem anyMatches_iff {metadata : Metadata} {filters : List Filter} :
    anyMatches metadata filters = true ↔
      ∃ filter ∈ filters, filter.matchesMetadata metadata = true := by
  induction filters with
  | nil => simp [anyMatches]
  | cons filter filters induction => simp [anyMatches, induction]

/-- A loosened bound is met wherever the bound is, by a test that all numbers further out pass. -/
theorem within_of_loosened {further : Rat → Rat → Prop} {test : Double → Bool}
    (passed : ∀ number outer : Number, further outer.exact number.exact →
      test number.toDouble = true → test outer.toDouble = true)
    {bound looser : Option Value} (loosened : Loosened further bound looser)
    (met : within bound test = true) : within looser test = true := by
  cases loosened with
  | kept => exact met
  | dropped => rfl
  | @moved number outer outwards => exact passed number outer outwards met

theorem inRange_of_loosened {min max low high : Option Value} {value : Value}
    (lower : Loosened (· ≤ ·) min low) (upper : Loosened (· ≥ ·) max high)
    (contained : inRange min max value = true) : inRange low high value = true := by
  unfold inRange at contained ⊢
  cases real : value.toDouble? with
  | none =>
      rw [real] at contained
      exact contained
  | some number =>
      rw [real] at contained
      simp only [Bool.and_eq_true] at contained ⊢
      constructor
      · refine within_of_loosened (fun bound outer outwards met => ?_) lower contained.1
        have rounded : outer.toDouble.value ≤ bound.toDouble.value :=
          Number.value_toDouble_mono outwards
        exact decide_eq_true (rounded.trans (of_decide_eq_true met))
      · refine within_of_loosened (fun bound outer outwards met => ?_) upper contained.2
        have rounded : bound.toDouble.value ≤ outer.toDouble.value :=
          Number.value_toDouble_mono outwards
        exact decide_eq_true ((of_decide_eq_true met).trans rounded)

/-- What a filter accepts is accepted by every filter that it is widened to. -/
theorem matches_of_widened {filter wider : Filter} (widened : Widened filter wider)
    {metadata : Metadata} (accepted : filter.matchesMetadata metadata = true) :
    wider.matchesMetadata metadata = true := by
  induction widened with
  | same => exact accepted
  | range key lower upper =>
      rw [matchesMetadata, Option.any_eq_true] at accepted ⊢
      obtain ⟨value, held, contained⟩ := accepted
      exact ⟨value, held, inRange_of_loosened lower upper contained⟩
  | @all filters wider lengths _ induction =>
      rw [matchesMetadata, allMatch_iff] at accepted ⊢
      intro other member
      obtain ⟨place, wide, rfl⟩ := List.mem_iff_getElem.mp member
      have narrow : place < filters.length := lengths ▸ wide
      exact induction place narrow wide (accepted filters[place] (List.getElem_mem narrow))
  | @any filters wider lengths _ induction =>
      rw [matchesMetadata, anyMatches_iff] at accepted ⊢
      obtain ⟨filter, member, matched⟩ := accepted
      obtain ⟨place, narrow, rfl⟩ := List.mem_iff_getElem.mp member
      have wide : place < wider.length := lengths ▸ narrow
      exact ⟨wider[place], List.getElem_mem wide, induction place narrow wide matched⟩

/-- A range two levels down, around a whole number beyond the signed ones, is widened to a signed
number and a real. -/
theorem matches_of_widened_nested :
    let held : WholeNumber := ⟨9223372036854775809, by decide⟩
    let low : WholeNumber := ⟨9223372036854775807, by decide⟩
    let high : Double := ⟨false, 4503599627370497, 11, by decide⟩
    let kind : Filter := .eq "kind" (.string "x")
    let narrow : Filter := .range "n" (some held.toValue) (some held.toValue)
    let wide : Filter := .range "n" (some low.toValue) (some (.number (.real high)))
    let metadata : Metadata := KeyMap.ofList [("kind", .string "x"), ("n", held.toValue)]
    Widened (.all [.any [narrow], kind]) (.all [.any [wide], kind]) ∧
      (Filter.all [.any [narrow], kind]).matchesMetadata metadata = true ∧
      (Filter.all [.any [wide], kind]).matchesMetadata metadata = true := by
  intro held low high kind narrow wide metadata
  have range : Widened narrow wide := by
    refine .range "n" (.moved ?_) (.moved ?_)
    · show (low.val : Rat) ≤ held.val
      decide +kernel
    · show high.value ≥ (held.val : Rat)
      decide +kernel
  have widened : Widened (.all [.any [narrow], kind]) (.all [.any [wide], kind]) :=
    .all_of_forall₂ (.cons (.any_of_forall₂ (.cons range .nil)) (.cons (.same kind) .nil))
  have accepted : (Filter.all [.any [narrow], kind]).matchesMetadata metadata = true := by
    decide +kernel
  exact ⟨widened, accepted, matches_of_widened widened accepted⟩

end Filter

end Corpus
