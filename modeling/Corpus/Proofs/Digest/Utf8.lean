import Corpus.Digest.Block

/-!
# Bytes of texts

Texts with the same bytes are equal, and the bytes of joined texts are joined.
-/

namespace Corpus.Digest

private theorem get!_eq_getElem {bytes : ByteArray} {place : Nat}
    (inside : place < bytes.data.size) : bytes.get! place = bytes.data[place] :=
  getElem!_pos bytes.data place inside

private theorem loop_eq (bytes : ByteArray) (start : Nat) (seen : List UInt8) :
    ByteArray.toList.loop bytes start seen = seen.reverse ++ bytes.data.toList.drop start := by
  rw [ByteArray.toList.loop]
  split
  · next inside =>
    have rest := loop_eq bytes (start + 1) (bytes.get! start :: seen)
    rw [rest, get!_eq_getElem inside, ← Array.getElem_toList, List.reverse_cons,
      List.append_assoc, List.singleton_append, List.getElem_cons_drop]
  · next outside =>
    rw [List.drop_eq_nil_of_le (Nat.le_of_not_gt outside), List.append_nil]
termination_by bytes.size - start

theorem toList_eq (bytes : ByteArray) : bytes.toList = bytes.data.toList := by
  rw [ByteArray.toList, loop_eq, List.reverse_nil, List.nil_append, List.drop_zero]

theorem utf8_append (left right : String) : utf8 (left ++ right) = utf8 left ++ utf8 right := by
  simp only [utf8, toList_eq, String.toUTF8_eq_toByteArray, String.toByteArray_append]
  exact ByteArray.toList_data_append'

theorem utf8_injective {left right : String} (same : utf8 left = utf8 right) : left = right := by
  simp only [utf8, toList_eq, String.toUTF8_eq_toByteArray] at same
  exact String.toByteArray_inj.mp (ByteArray.ext (Array.toList_inj.mp same))

end Corpus.Digest
