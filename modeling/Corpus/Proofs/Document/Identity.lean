import Corpus.Document.Basic
import Corpus.Proofs.Id.Message
import Corpus.Proofs.Json.ZeroSigns

/-!
# Alike documents and their digests

Digests are taken of the canonical text, which keeps the signs of zeros, while documents with
zeros of different signs can be alike.  These signs are all that can separate the digests of alike
documents.
-/

namespace Corpus

theorem Metadata.eq_iff_of_alike {left right : Metadata} (alike : left.alike right = true) :
    left = right ↔ left.zeroSigns = right.zeroSigns := by
  constructor
  · rintro rfl
    rfl
  · intro signs
    have fields := (Json.sameUpToZeros_of_alikeFields (alikeFields_of_alike alike)).eq signs
    exact Value.object_injective (Value.ext_json (congrArg Json.object fields))

theorem ContentId.message_eq_iff_of_alike (content : String) {left right : Metadata}
    (alike : left.alike right = true) :
    message content left = message content right ↔ left.zeroSigns = right.zeroSigns := by
  rw [← Metadata.eq_iff_of_alike alike]
  constructor
  · intro same
    exact Metadata.canonical_injective
      (Digest.utf8_injective (List.append_cancel_left same))
  · rintro rfl
    rfl

namespace Document

theorem identity_eq (document : Document) :
    document.identity = Digest.utf8 document.id ++ ([endByte] ++ (Digest.utf8 document.content ++
      ([endByte] ++ (Digest.utf8 document.metadata.canonical ++ [endByte])))) := by
  simp [identity]

theorem identity_eq_iff_of_alike {left right : Document} (alike : left.alike right = true) :
    left.identity = right.identity ↔ left.metadata.zeroSigns = right.metadata.zeroSigns := by
  simp only [Document.alike, Bool.and_eq_true, beq_iff_eq] at alike
  obtain ⟨⟨ids, contents⟩, metadata⟩ := alike
  rw [← Metadata.eq_iff_of_alike metadata, identity_eq, identity_eq, ids, contents]
  constructor
  · intro same
    simp only [List.append_cancel_left_eq, List.append_cancel_right_eq] at same
    exact Metadata.canonical_injective (Digest.utf8_injective same)
  · intro same
    rw [same]

/-- Alike documents are hashed by the same bytes, and a content with alike metadata has the same
message and identifier, exactly as far as the zeros in the metadata have the same signs. -/
theorem digests_of_alike (left right : Document) (content : String) (first second : Metadata) :
    (left.alike right = true →
      (left.identity = right.identity ↔
        left.metadata.zeroSigns = right.metadata.zeroSigns)) ∧
    (first.alike second = true →
      (ContentId.message content first = ContentId.message content second ↔
        first.zeroSigns = second.zeroSigns) ∧
      (first.zeroSigns = second.zeroSigns →
        ContentId.derive content first = ContentId.derive content second)) := by
  refine ⟨identity_eq_iff_of_alike, fun alike => ?_⟩
  refine ⟨ContentId.message_eq_iff_of_alike content alike, fun signs => ?_⟩
  rw [(Metadata.eq_iff_of_alike alike).mpr signs]

theorem digests_of_alike_array :
    let left := assemble "d" "text" [] (.singleton "a"
      (.array [.number (.real .zero), .number (.real .negativeZero)]))
    let right := assemble "d" "text" [] (.singleton "a"
      (.array [.number (.real .negativeZero), .number (.real .zero)]))
    left.alike right = true ∧ left.identity ≠ right.identity ∧
      ContentId.message "text" left.metadata ≠ ContentId.message "text" right.metadata := by
  intro left right
  have alike : left.alike right = true := by decide
  have signs : ¬left.metadata.zeroSigns = right.metadata.zeroSigns := by decide
  have metadataAlike : left.metadata.alike right.metadata = true := by decide
  have digests := digests_of_alike left right "text" left.metadata right.metadata
  exact ⟨alike, fun same => signs ((digests.1 alike).mp same),
    fun same => signs ((digests.2 metadataAlike).1.mp same)⟩

/-- Documents whose metadata differs in the sign of a zero are alike, and neither the bytes they
are hashed by nor their content identifiers are the same. -/
theorem alike_with_distinct_digests :
    let left := assemble "d" "" [] (.singleton "a" (.number (.real .zero)))
    let right := assemble "d" "" [] (.singleton "a" (.number (.real .negativeZero)))
    left.alike right = true ∧ left.identity ≠ right.identity ∧
      ContentId.derive "" left.metadata ≠ ContentId.derive "" right.metadata := by
  intro left right
  have alike : left.alike right = true := by decide
  have signs : ¬left.metadata.zeroSigns = right.metadata.zeroSigns := by decide
  refine ⟨alike, fun same => signs ((identity_eq_iff_of_alike alike).mp same), ?_⟩
  have positive : ContentId.message "" left.metadata =
      [0x7B, 0x22, 0x61, 0x22, 0x3A, 0x30, 0x2E, 0x30, 0x7D] := by
    rw [ContentId.message_eq, Digest.utf8, Digest.toList_eq]
    rfl
  have negative : ContentId.message "" right.metadata =
      [0x7B, 0x22, 0x61, 0x22, 0x3A, 0x2D, 0x30, 0x2E, 0x30, 0x7D] := by
    rw [ContentId.message_eq, Digest.utf8, Digest.toList_eq]
    rfl
  rw [ContentId.derive, ContentId.derive, positive, negative]
  decide +kernel

end Document

end Corpus
