import Corpus.Metadata

/-!
# Alike values and the signs of their zeros

Values that are alike can differ in the signs of real zeros and in nothing else: with the same
signs, taken from left to right, they are equal.
-/

namespace Corpus

/-- The sign of a real zero; every other number has none. -/
def Number.zeroSigns : Number → List Bool
  | .integer _ _ => []
  | .real value => if value.isZero then [value.negative] else []

namespace Json

mutual

/-- The signs of the real zeros in a value, from left to right. -/
def zeroSigns : Json → List Bool
  | .null | .bool _ | .string _ => []
  | .number value => value.zeroSigns
  | .array items => zeroSignsItems items
  | .object fields => zeroSignsFields fields

/-- The signs of the real zeros in some items. -/
def zeroSignsItems : List Json → List Bool
  | [] => []
  | item :: items => item.zeroSigns ++ zeroSignsItems items

/-- The signs of the real zeros in the values of some fields. -/
def zeroSignsFields : List (String × Json) → List Bool
  | [] => []
  | (_, value) :: fields => value.zeroSigns ++ zeroSignsFields fields

end

/-- Alike things have their zeros in the same places, and with the same signs they are equal. -/
structure SameUpToZeros {α : Type} (signs : α → List Bool) (left right : α) : Prop where
  length : (signs left).length = (signs right).length
  eq : signs left = signs right → left = right

theorem sameUpToZeros_refl {α : Type} (signs : α → List Bool) (value : α) :
    SameUpToZeros signs value value :=
  ⟨rfl, fun _ => rfl⟩

end Json

theorem Binary.eq_of_zero {format : BinaryFormat} {left right : Binary format}
    (leftZero : left.isZero = true) (rightZero : right.isZero = true)
    (sign : left.negative = right.negative) : left = right := by
  have least (number : Binary format) (zero : number.isZero = true) :
      number.significand = 0 ∧ number.exponent = format.minExponent := by
    have significand : number.significand = 0 := by
      simpa [Binary.isZero] using zero
    refine ⟨significand, number.canonical.2.2.2.resolve_left ?_⟩
    rw [significand]
    exact Nat.not_le.mpr (Nat.two_pow_pos _)
  obtain ⟨leftSignificand, leftExponent⟩ := least left leftZero
  obtain ⟨rightSignificand, rightExponent⟩ := least right rightZero
  cases left
  cases right
  simp_all

theorem Number.sameUpToZeros_of_alike {left right : Number} (alike : left.alike right = true) :
    Json.SameUpToZeros Number.zeroSigns left right := by
  cases left with
  | integer left leftWhole =>
      cases right with
      | integer right rightWhole =>
          obtain rfl : left = right := by
            simpa [Number.alike] using alike
          exact Json.sameUpToZeros_refl _ _
      | real right => cases alike
  | real left =>
      cases right with
      | integer right rightWhole => cases alike
      | real right =>
          simp only [Number.alike, Binary.alike] at alike
          by_cases zeros : (left.isZero && right.isZero) = true
          · rw [Bool.and_eq_true] at zeros
            constructor
            · simp [Number.zeroSigns, zeros]
            · intro signs
              simp only [Number.zeroSigns, zeros, if_true, List.cons.injEq, and_true] at signs
              rw [Binary.eq_of_zero zeros.1 zeros.2 signs]
          · rw [if_neg zeros] at alike
            simp only [Bool.and_eq_true, beq_iff_eq] at alike
            obtain ⟨⟨sign, significand⟩, exponent⟩ := alike
            have same : left = right := by
              cases left
              cases right
              simp_all
            rw [same]
            exact Json.sameUpToZeros_refl _ _

namespace Json

mutual

theorem sameUpToZeros_of_alike {left right : Json} (alike : left.alike right = true) :
    SameUpToZeros zeroSigns left right := by
  cases left with
  | null =>
      cases right with
      | null => exact sameUpToZeros_refl _ _
      | _ => cases alike
  | bool left =>
      cases right with
      | bool right =>
          obtain rfl : left = right := by
            simpa [Json.alike] using alike
          exact sameUpToZeros_refl _ _
      | _ => cases alike
  | number left =>
      cases right with
      | number right =>
          have numbers := Number.sameUpToZeros_of_alike alike
          exact ⟨numbers.length, fun signs => by rw [numbers.eq signs]⟩
      | _ => cases alike
  | string left =>
      cases right with
      | string right =>
          obtain rfl : left = right := by
            simpa [Json.alike] using alike
          exact sameUpToZeros_refl _ _
      | _ => cases alike
  | array left =>
      cases right with
      | array right =>
          have items := sameUpToZeros_of_alikeItems alike
          exact ⟨items.length, fun signs => by rw [items.eq signs]⟩
      | _ => cases alike
  | object left =>
      cases right with
      | object right =>
          have fields := sameUpToZeros_of_alikeFields alike
          exact ⟨fields.length, fun signs => by rw [fields.eq signs]⟩
      | _ => cases alike

theorem sameUpToZeros_of_alikeItems {left right : List Json}
    (alike : alikeItems left right = true) : SameUpToZeros zeroSignsItems left right := by
  cases left with
  | nil =>
      cases right with
      | nil => exact sameUpToZeros_refl _ _
      | cons right rights => cases alike
  | cons left lefts =>
      cases right with
      | nil => cases alike
      | cons right rights =>
          simp only [alikeItems, Bool.and_eq_true] at alike
          have head := sameUpToZeros_of_alike alike.1
          have tail := sameUpToZeros_of_alikeItems alike.2
          constructor
          · simp only [zeroSignsItems, List.length_append, head.length, tail.length]
          · intro signs
            obtain ⟨headSigns, tailSigns⟩ := List.append_inj signs head.length
            rw [head.eq headSigns, tail.eq tailSigns]

theorem sameUpToZeros_of_alikeFields {left right : List (String × Json)}
    (alike : alikeFields left right = true) : SameUpToZeros zeroSignsFields left right := by
  cases left with
  | nil =>
      cases right with
      | nil => exact sameUpToZeros_refl _ _
      | cons right rights => cases alike
  | cons left lefts =>
      cases right with
      | nil => cases alike
      | cons right rights =>
          obtain ⟨leftKey, left⟩ := left
          obtain ⟨rightKey, right⟩ := right
          simp only [alikeFields, Bool.and_eq_true, beq_iff_eq] at alike
          obtain ⟨⟨rfl, values⟩, others⟩ := alike
          have head := sameUpToZeros_of_alike values
          have tail := sameUpToZeros_of_alikeFields others
          constructor
          · simp only [zeroSignsFields, List.length_append, head.length, tail.length]
          · intro signs
            obtain ⟨headSigns, tailSigns⟩ := List.append_inj signs head.length
            rw [head.eq headSigns, tail.eq tailSigns]

end

end Json

namespace Metadata

/-- The signs of the real zeros in metadata, by ascending key. -/
def zeroSigns (metadata : Metadata) : List Bool :=
  Json.zeroSignsFields (metadata.entries.map fun entry => (entry.1, entry.2.json))

private theorem alikeFields_of_zip {left right : List (String × Value)}
    (sizes : left.length = right.length)
    (alike : ((left.zip right).all fun pair =>
      pair.1.1 == pair.2.1 && pair.1.2.alike pair.2.2) = true) :
    Json.alikeFields (left.map fun entry => (entry.1, entry.2.json))
      (right.map fun entry => (entry.1, entry.2.json)) = true := by
  induction left generalizing right with
  | nil =>
      cases right with
      | nil => rfl
      | cons right rights => cases sizes
  | cons left lefts induction =>
      cases right with
      | nil => cases sizes
      | cons right rights =>
          simp only [List.zip_cons_cons, List.all_cons, Bool.and_eq_true] at alike
          have others := induction (Nat.succ.inj sizes) alike.2
          simp only [List.map_cons, Json.alikeFields, Bool.and_eq_true]
          exact ⟨alike.1, others⟩

theorem alikeFields_of_alike {left right : Metadata} (alike : left.alike right = true) :
    Json.alikeFields (left.entries.map fun entry => (entry.1, entry.2.json))
      (right.entries.map fun entry => (entry.1, entry.2.json)) = true := by
  simp only [Metadata.alike, KeyMap.alike, Bool.and_eq_true, beq_iff_eq] at alike
  exact alikeFields_of_zip alike.1 alike.2

end Metadata

end Corpus
