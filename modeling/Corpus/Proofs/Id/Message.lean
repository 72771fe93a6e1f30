import Corpus.Id
import Corpus.Proofs.Digest.Utf8
import Corpus.Proofs.Metadata.Canonical

/-!
# The message of a content identifier

Nothing separates a content from the canonical metadata behind it, and still the two can be told
from the bytes of both.
-/

namespace Corpus.ContentId

theorem message_eq (content : String) (metadata : Metadata) :
    message content metadata = Digest.utf8 (content ++ metadata.canonical) :=
  (Digest.utf8_append content metadata.canonical).symm

/-- A message stands for one content and one metadata. -/
theorem message_eq_iff {content other : String} {metadata otherMetadata : Metadata} :
    message content metadata = message other otherMetadata ↔
      content = other ∧ metadata = otherMetadata := by
  constructor
  · intro same
    rw [message_eq, message_eq] at same
    have texts := congrArg String.toList (Digest.utf8_injective same)
    rw [String.toList_append, String.toList_append] at texts
    obtain ⟨contents, canonicals⟩ := Metadata.eq_of_append_canonical texts
    exact ⟨String.toList_inj.mp contents,
      Metadata.canonical_injective (String.toList_inj.mp canonicals)⟩
  · rintro ⟨rfl, rfl⟩
    rfl

end Corpus.ContentId
