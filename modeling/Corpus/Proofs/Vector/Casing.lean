import Corpus.Proofs.Text.LoweredWords
import Corpus.Vector.Words

/-!
# The case of words

A text is cut into words first, and each word is put in lower case by itself.  A text and its lower
case get the same votes and the same vector where the two steps commute; a capital I with a dot,
or a capital sigma before a sign that belongs to no word, can make them differ.
-/

namespace Corpus

namespace WordVector

theorem votes_eq (dimension : Nat) (text : String) :
    votes dimension text = ((Text.words text).map Text.lowercase).map fun word =>
      voteOf dimension (Digest.fnv1a (Digest.utf8 (String.ofList word))) := by
  rw [List.map_map]
  rfl

theorem ofText_lowercase (dimension : Nat) (text : String) :
    let lowered := String.ofList (Text.lowercase text.toList)
    ((Text.words lowered).map Text.lowercase = (Text.words text).map Text.lowercase ↔
      Text.CaseStable text.toList) ∧
    (Text.CaseStable text.toList →
      votes dimension lowered = votes dimension text ∧
      ofText dimension lowered = ofText dimension text) := by
  intro lowered
  refine ⟨Text.words_lowercase_iff text, fun stable => ?_⟩
  have sameVotes : votes dimension lowered = votes dimension text := by
    rw [votes_eq, votes_eq, (Text.words_lowercase_iff text).mpr stable]
  refine ⟨sameVotes, ?_⟩
  rw [ofText, totals, sameVotes]
  rfl

theorem ofText_lowercase_finalSigma :
    let text := "Rust, BORROW ΟΔΌΣ!"
    let lowered := String.ofList (Text.lowercase text.toList)
    Text.CaseStable text.toList ∧ lowered = "rust, borrow οδός!" ∧
      votes 16 lowered = votes 16 text ∧ ofText 16 lowered = ofText 16 text := by
  intro text lowered
  have stable : Text.CaseStable text.toList := by decide
  exact ⟨stable, by decide, (ofText_lowercase 16 text).2 stable⟩

/-- The word `İstanbul` becomes two words when the text is put in lower case, and the sigma of
`AΣ'B` ends its word but no word of the text. -/
theorem vectors_apart_from_lowercase :
    let lowered := fun text : String => String.ofList (Text.lowercase text.toList)
    (lowered "İstanbul" = "i\u0307stanbul" ∧
      votes 2 (lowered "İstanbul") ≠ votes 2 "İstanbul" ∧
      ofText 2 (lowered "İstanbul") ≠ ofText 2 "İstanbul") ∧
    lowered "AΣ'B" = "aσ'b" ∧
      votes 2 (lowered "AΣ'B") ≠ votes 2 "AΣ'B" ∧
      ofText 2 (lowered "AΣ'B") ≠ ofText 2 "AΣ'B" := by
  decide +kernel

end WordVector

end Corpus
