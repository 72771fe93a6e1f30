import Corpus.Proofs.Binary.Rounding
import Corpus.Vector.Component

/-!
# Components as reals

A component is finite unless its exponent is the one that is kept for the infinities.  A finite
component is a real, and that real is rounded to the component again; any other component is none.
-/

namespace Corpus

namespace Single

theorem exists_ofWord?_eq {word : UInt32} (inside : word.toNat / 0x800000 % 256 ≠ 255) :
    ∃ number, ofWord? word = some number ∧ number.toWord = word := by
  have bound := word.toNat_lt
  have parts : (if 0x80000000 ≤ word.toNat then 0x80000000 else 0) +
      word.toNat / 0x800000 % 256 * 0x800000 + word.toNat % 0x800000 = word.toNat := by
    split <;> omega
  have restBound : word.toNat % 0x800000 < 0x800000 := Nat.mod_lt _ (by decide)
  have fieldBound : word.toNat / 0x800000 % 256 < 256 := Nat.mod_lt _ (by decide)
  have precision : Nat.pow 2 BinaryFormat.single.precision = 0x1000000 := rfl
  have full : Nat.pow 2 (BinaryFormat.single.precision - 1) = 0x800000 := rfl
  simp only [ofWord?, if_neg inside]
  generalize word.toNat / 0x800000 % 256 = field at *
  generalize word.toNat % 0x800000 = rest at *
  split
  · next subnormal =>
    subst subnormal
    have canonical : BinaryFormat.single.Canonical rest (-149) :=
      ⟨by omega, by decide, by decide, .inr rfl⟩
    refine ⟨_, dif_pos canonical, ?_⟩
    calc
      toWord ⟨decide (0x80000000 ≤ word.toNat), rest, -149, canonical⟩ =
          UInt32.ofNat ((if 0x80000000 ≤ word.toNat then 0x80000000 else 0) + rest) := by
        simp only [toWord, decide_eq_true_eq, if_pos restBound]
      _ = word := by
        rw [← Nat.add_zero (ite ..), ← Nat.zero_mul 0x800000, parts, UInt32.ofNat_toNat]
  · next normal =>
    have canonical : BinaryFormat.single.Canonical (0x800000 + rest) ((field : Int) - 150) := by
      refine ⟨by omega, ?_, ?_, .inl (by omega)⟩
      · change -149 ≤ _
        omega
      · change _ ≤ 104
        omega
    refine ⟨_, dif_pos canonical, ?_⟩
    have notSmall : ¬0x800000 + rest < 0x800000 := by omega
    have exponent : ((field : Int) - 150 + 150).toNat = field := by omega
    calc
      toWord ⟨decide (0x80000000 ≤ word.toNat), 0x800000 + rest, field - 150, canonical⟩ =
          UInt32.ofNat ((if 0x80000000 ≤ word.toNat then 0x80000000 else 0) +
            field * 0x800000 + rest) := by
        simp only [toWord, decide_eq_true_eq, if_neg notSmall, exponent, Nat.add_sub_cancel_left]
      _ = word := by rw [parts, UInt32.ofNat_toNat]

theorem ofWord?_eq_none {word : UInt32} (outside : word.toNat / 0x800000 % 256 = 255) :
    ofWord? word = none :=
  if_pos outside

end Single

namespace Component

theorem toNat_unpackExponent (word : UInt32) :
    (Float.Model.UnpackedFloat.unpackExponent
      (show BitVec Float.Model.Format.binary32.numBits from word.toBitVec)).toNat =
        word.toNat / 0x800000 % 256 := by
  simp [Float.Model.UnpackedFloat.unpackExponent, Nat.shiftRight_eq_div_pow]

theorem unpackExponent_eq_iff (word : UInt32) :
    Float.Model.UnpackedFloat.unpackExponent
      (show BitVec Float.Model.Format.binary32.numBits from word.toBitVec) = -1#_ ↔
        word.toNat / 0x800000 % 256 = 255 := by
  rw [← toNat_unpackExponent, BitVec.toNat_eq]
  rfl

/-- Only the exponent that is kept for the infinities is not finite. -/
theorem isFinite_iff (component : Float32) :
    component.isFinite = true ↔ component.toBits.toNat / 0x800000 % 256 ≠ 255 := by
  have unpacked : component.isFinite =
      (Float.Model.UnpackedFloat.unpack .binary32 component.toBits.toBitVec).isFinite := rfl
  rw [ne_eq, ← unpackExponent_eq_iff, unpacked, Float.Model.UnpackedFloat.unpack]
  dsimp only
  split
  · next special =>
    refine iff_of_false ?_ (not_not_intro special)
    split <;> nofun
  · next ordinary =>
    refine iff_of_true ?_ ordinary
    split
    · split <;> rfl
    · rfl

theorem ofWord_toBits {component : Float32} (finite : component.isFinite = true) :
    ofWord component.toBits = component := by
  apply toBits_injective
  rw [isFinite_iff, ne_eq, ← unpackExponent_eq_iff] at finite
  rw [ofWord, dif_neg finite]
  rfl

theorem exists_finite?_eq {component : Float32} (finite : component.isFinite = true) :
    ∃ number, finite? component = some number ∧ ofWord number.toWord = component := by
  obtain ⟨number, found, word⟩ := Single.exists_ofWord?_eq ((isFinite_iff component).mp finite)
  exact ⟨number, found, by rw [word, ofWord_toBits finite]⟩

theorem exists_toDouble?_eq {component : Float32} (finite : component.isFinite = true) :
    ∃ real, toDouble? component = some real ∧ ofDouble real = component := by
  obtain ⟨number, found, word⟩ := exists_finite?_eq finite
  obtain ⟨real, widened, narrowed⟩ : ∃ real : Double,
      Binary.convert .double number = some real ∧ Binary.convert .single real = some number :=
    Binary.exists_convert_eq (by decide) (by decide) (by decide) number
  refine ⟨real, ?_, ?_⟩
  · rw [toDouble?, found]
    exact widened
  · rw [ofDouble, narrowed]
    exact word

theorem toDouble?_eq_none {component : Float32} (infinite : ¬component.isFinite = true) :
    toDouble? component = none := by
  rw [isFinite_iff, not_not] at infinite
  rw [toDouble?, finite?, Single.ofWord?_eq_none infinite]
  rfl

theorem ofDouble_eq_infinity {real : Double} (large : (2 : Rat) ^ (128 : Int) ≤ real.magnitude) :
    ofDouble real = infinity real.negative := by
  rw [ofDouble, Binary.convert, Binary.nearest_eq_none real.negative large]
  rfl

end Component

end Corpus
