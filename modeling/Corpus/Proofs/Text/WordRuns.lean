import Corpus.Text.Alphanumeric

/-!
# The words of a text

The words of a text are its maximal runs of letters and numbers, in their order: each is as long as
it can be, and nothing but gaps stands between them, in front of the first and behind the last.
They are also what a text that is split at every other character has for non-empty pieces.
-/

namespace Corpus

namespace Text

/-- Some characters none of which is a letter or a number. -/
def IsGap (text : List Char) : Prop :=
  ∀ char ∈ text, isAlphanumeric char = false

/-- The maximal runs of letters and numbers of a text: a gap, a run that ends with the text or in
front of another character, and the runs behind it; or a gap alone. -/
inductive Runs : List Char → List (List Char) → Prop where
  | gap {gap : List Char} : IsGap gap → Runs gap []
  | run {gap run rest : List Char} {runs : List (List Char)} :
      IsGap gap → run ≠ [] → (∀ char ∈ run, isAlphanumeric char = true) →
      (∀ next, rest.head? = some next → isAlphanumeric next = false) → Runs rest runs →
      Runs (gap ++ (run ++ rest)) (run :: runs)

theorem IsGap.cons {char : Char} (separates : isAlphanumeric char = false) {text : List Char}
    (gap : IsGap text) : IsGap (char :: text) := by
  intro other member
  rcases List.mem_cons.mp member with rfl | later
  · exact separates
  · exact gap other later

theorem Runs.cons {char : Char} (separates : isAlphanumeric char = false) {text : List Char}
    {runs : List (List Char)} (isRuns : Runs text runs) : Runs (char :: text) runs := by
  cases isRuns with
  | gap isGap => exact .gap (isGap.cons separates)
  | run isGap nonempty letters ends rest =>
      rw [← List.cons_append]
      exact .run (isGap.cons separates) nonempty letters ends rest

/-- The scan of a text with a run that stands open in front of it. -/
theorem runs_wordsAfter {before text : List Char}
    (letters : ∀ char ∈ before, isAlphanumeric char = true) :
    Runs (before.reverse ++ text) (wordsAfter before text) := by
  have noGap : IsGap [] := by
    intro char member
    cases member
  induction text generalizing before with
  | nil =>
      cases before with
      | nil => exact .gap noGap
      | cons last before =>
          exact .run noGap (by simp)
            (fun char member => letters char (List.mem_reverse.mp member)) (by simp) (.gap noGap)
  | cons char text induction =>
      rw [wordsAfter]
      by_cases letter : isAlphanumeric char = true
      · rw [if_pos letter]
        have grown : ∀ other ∈ char :: before, isAlphanumeric other = true :=
          List.forall_mem_cons.mpr ⟨letter, letters⟩
        have runs := induction grown
        rw [List.reverse_cons, List.append_assoc] at runs
        exact runs
      · have separates : isAlphanumeric char = false := Bool.eq_false_iff.mpr letter
        have rest : Runs text (wordsAfter [] text) := @induction [] (by simp)
        rw [if_neg letter]
        cases before with
        | nil => exact rest.cons separates
        | cons last before =>
            have ends : ∀ next, (char :: text).head? = some next →
                isAlphanumeric next = false := by
              intro next first
              cases first
              exact separates
            exact .run noGap (by simp)
              (fun char member => letters char (List.mem_reverse.mp member)) ends
              (rest.cons separates)

theorem wordsAfter_gap {gap : List Char} (isGap : IsGap gap) (text : List Char) :
    wordsAfter [] (gap ++ text) = wordsAfter [] text := by
  induction gap with
  | nil => rfl
  | cons char gap induction =>
      have separates := isGap char List.mem_cons_self
      have rest := induction fun other member => isGap other (List.mem_cons_of_mem _ member)
      rw [List.cons_append, wordsAfter, separates, rest]
      rfl

theorem wordsAfter_letters {run : List Char} (letters : ∀ char ∈ run, isAlphanumeric char = true)
    (before text : List Char) :
    wordsAfter before (run ++ text) = wordsAfter (run.reverse ++ before) text := by
  induction run generalizing before with
  | nil => rfl
  | cons char run induction =>
      have letter := letters char List.mem_cons_self
      rw [List.cons_append, wordsAfter, if_pos letter,
        induction fun other member => letters other (List.mem_cons_of_mem _ member),
        List.reverse_cons, List.append_assoc]
      rfl

theorem wordsAfter_of_ends {before text : List Char} (nonempty : before ≠ [])
    (ends : ∀ next, text.head? = some next → isAlphanumeric next = false) :
    wordsAfter before text = before.reverse :: wordsAfter [] text := by
  have isOpen : before.isEmpty = false := by simpa using nonempty
  cases text with
  | nil => simp [wordsAfter, isOpen]
  | cons char text => simp [wordsAfter, isOpen, ends char rfl]

/-- The words of a text are its maximal runs, and it has no others. -/
theorem runs_iff {text : String} {runs : List (List Char)} :
    Runs text.toList runs ↔ runs = words text := by
  rw [words]
  generalize text.toList = text
  constructor
  · intro isRuns
    induction isRuns with
    | gap isGap =>
        have scanned := wordsAfter_gap isGap []
        rw [List.append_nil] at scanned
        exact scanned.symm
    | run isGap nonempty letters ends rest induction =>
        have isOpen : List.reverse _ ≠ [] := mt List.reverse_eq_nil_iff.mp nonempty
        rw [wordsAfter_gap isGap, wordsAfter_letters letters, List.append_nil,
          wordsAfter_of_ends isOpen ends, List.reverse_reverse, induction]
  · rintro rfl
    exact @runs_wordsAfter [] text (by simp)

theorem tokens_eq_words (text : String) : tokens text = words text := by
  suffices scanned : ∀ before rest : List Char,
      ((rest.splitOnPPrepend (fun char => !isAlphanumeric char) before).filter fun token =>
        !token.isEmpty) = wordsAfter before rest from scanned [] text.toList
  intro before rest
  induction rest generalizing before with
  | nil => cases before <;> simp [List.splitOnPPrepend, wordsAfter]
  | cons char rest induction =>
      unfold List.splitOnPPrepend wordsAfter
      by_cases letter : isAlphanumeric char = true
      · simp [letter, induction]
      · cases before <;> simp [letter, ← induction]

end Text

end Corpus
