import Corpus.Media.Decode
import Corpus.Proofs.Json.Depth

/-!
# Reading media back

A medium that is written and read again is the same medium, whether it holds an address or bytes
and with or without identifier and name.
-/

namespace Corpus

namespace Decode

theorem byte_ofJson (source : Source) (byte : UInt8) :
    Decode.byte (.ofJson (Value.ofNat byte.toNat).json) =
      within source (Value.ofNat byte.toNat).json.depth byte := by
  have bound := byte.toNat_lt
  have whole : Number.Whole byte.toNat := by
    constructor <;> omega
  have written : (Value.ofNat byte.toNat).json = .number (.integer byte.toNat whole) := by
    rw [Value.ofNat, Number.ofInt, dif_pos whole, Value.number]
  have fits : (0 : Int) ≤ byte.toNat ∧ (byte.toNat : Int) < 256 := by omega
  rw [written, Outline.ofJson, Decode.byte, if_pos fits, Int.toNat_natCast, UInt8.ofNat_toNat]
  exact (within_zero source byte).symm

end Decode

namespace MediaData

theorem decode_value (data : MediaData) (source : Source) :
    decode source (.ofJson data.value.json) = Decode.within source data.value.json.depth data := by
  cases data with
  | url address =>
      apply Decode.choice_ofJson rfl
      intro inner
      exact (Decode.within_zero inner (url address)).symm
  | bytes data =>
      apply Decode.choice_ofJson rfl
      intro inner
      have read := Decode.sequence_array inner data fun inner byte _ =>
        Decode.byte_ofJson inner byte
      exact (congrArg (Except.map bytes) read).trans (Decode.within_map inner _ data bytes)

end MediaData

namespace Media

/-- The fields of a medium by ascending key. -/
def sortedFields (media : Media) : List (String × Json) :=
  ("data", media.data.value.json) ::
    ((media.id.map fun id => ("id", Json.string id)).toList ++
      ("mime_type", .string media.mimeType) ::
        (media.name.map fun name => ("name", Json.string name)).toList)

theorem json_value (media : Media) : media.value.json = .object media.sortedFields := by
  obtain ⟨mimeType, data, id, name⟩ := media
  have dataFirst : "data" < "mime_type" ∧ ¬"id" < "data" ∧ ¬"name" < "data" := by decide
  have idNext : "id" < "mime_type" ∧ ¬"name" < "id" := by decide
  have nameLast : ¬"name" < "mime_type" := by decide
  cases id <;> cases name <;>
    simp [value, fields, sortedFields, Value.object, KeyMap.ofList, KeyMap.insert,
      KeyMap.insertEntry, KeyMap.empty, dataFirst, idNext, nameLast, Value.string]

theorem named_sortedFields (media : Media) (source : Source) :
    Decode.named shape source ⟨none, none, none, none⟩ (Outline.ofFields media.sortedFields) =
      Decode.within source (Json.depthFields media.sortedFields)
        ⟨some media.mimeType, some media.data, media.id.map some, media.name.map some⟩ := by
  apply Decode.named_cons shape.fields[1] rfl rfl
  · change MediaData.decode source _ >>= _ = _
    rw [MediaData.decode_value]
    exact Decode.within_bind_ok _ rfl
  apply Decode.named_option shape.fields[2]
    (fun id => ⟨none, some media.data, id.map some, none⟩) rfl rfl rfl
  · intro id _
    exact (Decode.within_zero ..).symm
  apply Decode.named_cons shape.fields[0] rfl rfl
  · exact (Decode.within_zero ..).symm
  rw [← List.append_nil (media.name.map _).toList]
  apply Decode.named_option shape.fields[3]
    (fun name => ⟨some media.mimeType, some media.data, media.id.map some, name.map some⟩)
    rfl rfl rfl
  · intro name _
    exact (Decode.within_zero ..).symm
  · exact (Decode.within_zero ..).symm

/-- A medium is read from its value as it was written. -/
theorem decode_value (media : Media) (source : Source) :
    decode source (.ofJson media.value.json) =
      Decode.within source media.value.json.depth media := by
  have record : Decode.record shape ⟨none, none, none, none⟩ source (.ofJson media.value.json) =
      Decode.within source media.value.json.depth
        ⟨some media.mimeType, some media.data, media.id.map some, media.name.map some⟩ := by
    rw [json_value]
    exact Decode.recordOfFields_eq_within source (named_sortedFields media)
  obtain ⟨mimeType, data, id, name⟩ := media
  rw [decode, record]
  apply Decode.within_bind_ok
  cases id <;> cases name <;> rfl

end Media

end Corpus
