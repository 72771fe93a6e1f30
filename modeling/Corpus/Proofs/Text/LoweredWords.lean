import Corpus.Proofs.Text.Capitals

/-!
# Words in lower case

A text in lower case stays as it is in lower case.  To take the words of a text and to take lower
case commute exactly for the texts that have no capital I with a dot, whose second small character
belongs to no word, and in which every capital sigma ends its word of the text exactly if it ends
a word in the sense of lower case, which passes over some characters that are not letters.
-/

namespace Corpus

namespace Text

/-- The lower case of a character other than the capital I with a dot; `final` is for a capital
sigma at the end of a word. -/
def loweredAs (final : Bool) (char : Char) : Char :=
  if char = 'Σ' then if final then 'ς' else 'σ'
  else Char.ofNat (lowerCode char.toNat capitalRuns)

/-- Whether a word ends between two texts, the first in reverse. -/
def endsWord (before after : List Char) : Bool :=
  startsCased before && !startsCased after

theorem lowerChar_eq_loweredAs {char : Char} (undotted : char ≠ 'İ')
    (before after : List Char) :
    lowerChar before char after = [loweredAs (endsWord before after) char] := by
  unfold lowerChar loweredAs endsWord
  by_cases sigma : char = 'Σ'
  · simp only [if_pos sigma]
    split <;> rfl
  · simp only [if_neg sigma, if_neg undotted]

/-- A character that is in lower case. -/
structure Small (char : Char) : Prop where
  undotted : char ≠ 'İ'
  kept : ∀ final, loweredAs final char = char

theorem small_loweredAs {char : Char} (undotted : char ≠ 'İ') (final : Bool) :
    Small (loweredAs final char) := by
  by_cases sigma : char = 'Σ'
  · rw [loweredAs, if_pos sigma]
    cases final
    · exact ⟨by decide, by decide⟩
    · exact ⟨by decide, by decide⟩
  · rw [loweredAs, if_neg sigma]
    rcases keeps_or_pairs char.toNat with kept | pairs
    · rw [kept, Char.ofNat_toNat]
      refine ⟨undotted, fun final => ?_⟩
      rw [loweredAs, if_neg sigma, kept, Char.ofNat_toNat]
    · have code := pairs.toNat_ofNat
      have noSigma : Char.ofNat (lowerCode char.toNat capitalRuns) ≠ 'Σ' := by
        intro same
        have small := pairs.small
        rw [← code, same] at small
        exact absurd small (by decide)
      refine ⟨fun same => pairs.undotted ?_, fun final => ?_⟩
      · rw [← code, same]
        rfl
      · rw [loweredAs, if_neg noSigma, code, pairs.small]

theorem isAlphanumeric_loweredAs {char : Char} (final : Bool) :
    isAlphanumeric (loweredAs final char) = isAlphanumeric char := by
  by_cases sigma : char = 'Σ'
  · rw [loweredAs, if_pos sigma, sigma]
    cases final <;> decide
  · rw [loweredAs, if_neg sigma]
    rcases keeps_or_pairs char.toNat with kept | pairs
    · rw [kept, Char.ofNat_toNat]
    · unfold isAlphanumeric
      rw [pairs.toNat_ofNat, pairs.letter, pairs.capital]

theorem small_of_mem_lowerAfter {char : Char} {text : List Char} {before : List Char}
    (member : char ∈ lowerAfter before text) : Small char := by
  induction text generalizing before with
  | nil => cases member
  | cons head text ih =>
    rcases List.mem_append.mp member with first | later
    · by_cases dotted : head = 'İ'
      · have either : char = 'i' ∨ char = '\u0307' := by
          simpa [lowerChar, dotted] using first
        rcases either with rfl | rfl
        · exact ⟨by decide, by decide⟩
        · exact ⟨by decide, by decide⟩
      · rw [lowerChar_eq_loweredAs dotted, List.mem_singleton] at first
        rw [first]
        exact small_loweredAs dotted _
    · exact ih later

theorem lowerAfter_eq_self {text : List Char} (small : ∀ char ∈ text, Small char)
    (before : List Char) : lowerAfter before text = text := by
  induction text generalizing before with
  | nil => rfl
  | cons char text ih =>
    obtain ⟨undotted, kept⟩ := small char List.mem_cons_self
    rw [lowerAfter, lowerChar_eq_loweredAs undotted, kept,
      ih fun later member => small later (List.mem_cons_of_mem _ member)]
    rfl

theorem mem_wordsAfter_iff {char : Char} (run text : List Char) :
    (∃ word ∈ wordsAfter run text, char ∈ word) ↔
      char ∈ run ∨ char ∈ text ∧ isAlphanumeric char = true := by
  induction text generalizing run with
  | nil => cases run <;> simp [wordsAfter, or_comm]
  | cons head text ih =>
    unfold wordsAfter
    by_cases letter : isAlphanumeric head = true
    · rw [if_pos letter, ih (head :: run)]
      simp only [List.mem_cons]
      constructor
      · rintro ((rfl | before) | after)
        · exact .inr ⟨.inl rfl, letter⟩
        · exact .inl before
        · exact .inr ⟨.inr after.1, after.2⟩
      · rintro (before | ⟨rfl | after, alphanumeric⟩)
        · exact .inl (.inr before)
        · exact .inl (.inl rfl)
        · exact .inr ⟨after, alphanumeric⟩
    · have passed : (char ∈ head :: text ∧ isAlphanumeric char = true) ↔
          char ∈ text ∧ isAlphanumeric char = true := by
        rw [List.mem_cons]
        constructor
        · rintro ⟨rfl | later, alphanumeric⟩
          · exact absurd alphanumeric letter
          · exact ⟨later, alphanumeric⟩
        · rintro ⟨later, alphanumeric⟩
          exact ⟨.inr later, alphanumeric⟩
      rw [if_neg letter, passed]
      have rest := ih []
      rw [List.mem_nil_iff, false_or] at rest
      cases run with
      | nil => simpa using rest
      | cons last run => simp [rest, or_comm]

/-- The lower case of a text without a capital I with a dot, where a rule chooses the sigmas. -/
def lowerBy (rule : List Char → List Char → Bool) (before : List Char) : List Char → List Char
  | [] => []
  | char :: after =>
    loweredAs (rule before after) char :: lowerBy rule (char :: before) after

/-- The rule of a word that stands alone. -/
def endsAlone (before after : List Char) : Bool :=
  endsWord (before.takeWhile isAlphanumeric) (after.takeWhile isAlphanumeric)

theorem lowerAfter_eq_lowerBy {text : List Char} (undotted : 'İ' ∉ text) (before : List Char) :
    lowerAfter before text = lowerBy endsWord before text := by
  induction text generalizing before with
  | nil => rfl
  | cons char text ih =>
    have head : char ≠ 'İ' := fun dotted => undotted (dotted ▸ List.mem_cons_self)
    rw [lowerAfter, lowerChar_eq_loweredAs head, ih (mt (List.mem_cons_of_mem char) undotted)]
    rfl

theorem lowerBy_eq_iff (rule other : List Char → List Char → Bool) (before text : List Char) :
    lowerBy rule before text = lowerBy other before text ↔
      ∀ front back, text = front ++ 'Σ' :: back →
        rule (front.reverse ++ before) back = other (front.reverse ++ before) back := by
  induction text generalizing before with
  | nil => simp [lowerBy]
  | cons char text ih =>
    have head : loweredAs (rule before text) char = loweredAs (other before text) char ↔
        (char = 'Σ' → rule before text = other before text) := by
      by_cases sigma : char = 'Σ'
      · simp only [loweredAs, sigma, forall_const]
        cases rule before text <;> cases other before text <;> decide
      · simp [loweredAs, sigma]
    rw [lowerBy, lowerBy, List.cons.injEq, head, ih]
    constructor
    · rintro ⟨here, later⟩ front back split
      cases front with
      | nil =>
        obtain ⟨rfl, rfl⟩ := List.cons.inj split
        exact here rfl
      | cons first front =>
        obtain ⟨rfl, rfl⟩ := List.cons.inj split
        simpa using later front back rfl
    · intro everywhere
      refine ⟨fun sigma => everywhere [] text (by rw [sigma, List.nil_append]), ?_⟩
      intro front back split
      simpa using everywhere (char :: front) back (by rw [split, List.cons_append])

/-- Two lower cases of one text have the same words only if they are the same. -/
theorem wordsAfter_lowerBy_iff (rule other : List Char → List Char → Bool)
    {run otherRun : List Char} (alike : run.isEmpty = otherRun.isEmpty)
    (before text : List Char) :
    wordsAfter run (lowerBy rule before text) = wordsAfter otherRun (lowerBy other before text) ↔
      run = otherRun ∧ lowerBy rule before text = lowerBy other before text := by
  induction text generalizing run otherRun before with
  | nil =>
    cases run <;> cases otherRun <;> simp_all [wordsAfter, lowerBy, and_comm]
  | cons char text ih =>
    by_cases letter : isAlphanumeric char = true
    · simp only [lowerBy, wordsAfter, isAlphanumeric_loweredAs, if_pos letter]
      rw [ih (by rfl)]
      simp only [List.cons.injEq]
      tauto
    · have same : loweredAs (rule before text) char = loweredAs (other before text) char := by
        have noSigma : char ≠ 'Σ' := by
          rintro rfl
          exact letter (by decide)
        simp [loweredAs, noSigma]
      simp only [lowerBy, wordsAfter, isAlphanumeric_loweredAs, if_neg letter, alike, same,
        List.cons.injEq, true_and]
      cases run <;> cases otherRun <;> simp_all [and_comm]

theorem takeWhile_lowerBy_endsAlone {text : List Char} (undotted : 'İ' ∉ text)
    (before : List Char) :
    (lowerBy endsAlone before text).takeWhile isAlphanumeric =
      lowerAfter (before.takeWhile isAlphanumeric) (text.takeWhile isAlphanumeric) := by
  induction text generalizing before with
  | nil => rfl
  | cons char text ih =>
    have head : char ≠ 'İ' := fun dotted => undotted (dotted ▸ List.mem_cons_self)
    have tail := ih (mt (List.mem_cons_of_mem char) undotted) (char :: before)
    rw [lowerBy, List.takeWhile_cons, List.takeWhile_cons, isAlphanumeric_loweredAs]
    by_cases letter : isAlphanumeric char = true
    · rw [List.takeWhile_cons, if_pos letter] at tail
      rw [if_pos letter, if_pos letter, lowerAfter, lowerChar_eq_loweredAs head, tail]
      rfl
    · rw [if_neg letter, if_neg letter, lowerAfter]

/-- The rule of words that stand alone gives the words in lower case; `lowered` is the part of the
open word that is lowered already. -/
theorem wordsAfter_lowerBy_endsAlone {text : List Char} (undotted : 'İ' ∉ text)
    {run lowered before : List Char} (alike : lowered.isEmpty = run.isEmpty)
    (joined : lowered.reverse ++ (lowerBy endsAlone before text).takeWhile isAlphanumeric =
      lowercase (run.reverse ++ text.takeWhile isAlphanumeric)) :
    wordsAfter lowered (lowerBy endsAlone before text) = (wordsAfter run text).map lowercase := by
  induction text generalizing run lowered before with
  | nil =>
    simp only [lowerBy, List.takeWhile_nil, List.append_nil] at joined
    rw [lowerBy, wordsAfter, wordsAfter, alike, joined]
    split <;> rfl
  | cons char text ih =>
    have rest : 'İ' ∉ text := mt (List.mem_cons_of_mem char) undotted
    rw [lowerBy, List.takeWhile_cons, List.takeWhile_cons, isAlphanumeric_loweredAs] at joined
    rw [lowerBy, wordsAfter, wordsAfter, isAlphanumeric_loweredAs, alike]
    by_cases letter : isAlphanumeric char = true
    · rw [if_pos letter, if_pos letter] at joined
      rw [if_pos letter, if_pos letter]
      refine ih rest (by rfl) ?_
      rw [List.reverse_cons, List.reverse_cons, List.append_assoc, List.append_assoc]
      exact joined
    · rw [if_neg letter, if_neg letter, List.append_nil, List.append_nil] at joined
      have next : wordsAfter [] (lowerBy endsAlone (char :: before) text) =
          (wordsAfter [] text).map lowercase := by
        refine ih rest (by rfl) ?_
        rw [takeWhile_lowerBy_endsAlone rest, List.takeWhile_cons, if_neg letter]
        rfl
      rw [if_neg letter, if_neg letter, next, joined]
      split <;> rfl

/-- What a text needs so that its words are the same in lower case: no capital I with a dot, and
sigmas that end a word of the text where they end a word by themselves. -/
structure CaseStable (text : List Char) : Prop where
  undotted : 'İ' ∉ text
  sigmas : ∀ front back, text = front ++ 'Σ' :: back →
    endsWord front.reverse back = endsAlone front.reverse back

theorem caseStable_iff (text : List Char) :
    CaseStable text ↔
      'İ' ∉ text ∧ lowerBy endsWord [] text = lowerBy endsAlone [] text := by
  have everywhere := lowerBy_eq_iff endsWord endsAlone [] text
  simp only [List.append_nil] at everywhere
  rw [everywhere]
  exact ⟨fun stable => ⟨stable.undotted, stable.sigmas⟩, fun stable => ⟨stable.1, stable.2⟩⟩

instance (text : List Char) : Decidable (CaseStable text) :=
  decidable_of_iff' _ (caseStable_iff text)

theorem map_lowercase_words (text : List Char) :
    (wordsAfter [] (lowercase text)).map lowercase = wordsAfter [] (lowercase text) := by
  have kept : ∀ word ∈ wordsAfter [] (lowercase text), lowercase word = word := by
    intro word member
    refine lowerAfter_eq_self (fun char within => ?_) []
    rcases (mem_wordsAfter_iff [] (lowercase text)).mp ⟨word, member, within⟩ with
      outside | inside
    · cases outside
    · exact small_of_mem_lowerAfter inside.1
  exact (List.map_congr_left kept).trans (List.map_id _)

theorem mem_lowerAfter_of_dotted {text before : List Char} (dotted : 'İ' ∈ text) :
    '\u0307' ∈ lowerAfter before text := by
  induction text generalizing before with
  | nil => cases dotted
  | cons char text ih =>
    rw [lowerAfter, List.mem_append]
    rcases List.mem_cons.mp dotted with rfl | later
    · exact .inl (List.mem_cons_of_mem _ List.mem_cons_self)
    · exact .inr (ih later)

/-- The second small character of a capital I with a dot stands in no word of the text in lower
case. -/
theorem undotted_of_words {text : List Char}
    (same : wordsAfter [] (lowercase text) = (wordsAfter [] text).map lowercase) :
    'İ' ∉ text := by
  intro dotted
  obtain ⟨word, member, within⟩ := (mem_wordsAfter_iff [] text).mpr (.inr ⟨dotted, by decide⟩)
  have lowered : lowercase word ∈ wordsAfter [] (lowercase text) :=
    same ▸ List.mem_map_of_mem member
  rcases (mem_wordsAfter_iff [] _).mp ⟨_, lowered, mem_lowerAfter_of_dotted within⟩ with
    outside | inside
  · cases outside
  · exact absurd inside.2 (by decide)

theorem words_lowercase_iff (text : String) :
    (words (String.ofList (lowercase text.toList))).map lowercase = (words text).map lowercase ↔
      CaseStable text.toList := by
  unfold words
  rw [String.toList_ofList, map_lowercase_words, caseStable_iff]
  have commute (undotted : 'İ' ∉ text.toList) :
      wordsAfter [] (lowercase text.toList) = (wordsAfter [] text.toList).map lowercase ↔
        lowerBy endsWord [] text.toList = lowerBy endsAlone [] text.toList := by
    have apart : wordsAfter [] (lowerBy endsAlone [] text.toList) =
        (wordsAfter [] text.toList).map lowercase :=
      wordsAfter_lowerBy_endsAlone undotted (by rfl) (takeWhile_lowerBy_endsAlone undotted [])
    rw [lowercase, lowerAfter_eq_lowerBy undotted, ← apart, wordsAfter_lowerBy_iff _ _ (by rfl)]
    exact ⟨fun same => same.2, fun same => ⟨rfl, same⟩⟩
  constructor
  · intro same
    have undotted := undotted_of_words same
    exact ⟨undotted, (commute undotted).mp same⟩
  · rintro ⟨undotted, same⟩
    exact (commute undotted).mpr same

end Text

end Corpus
