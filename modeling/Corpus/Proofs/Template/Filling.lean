import Corpus.Template
import Mathlib.Data.List.Find
import Mathlib.Data.List.Infix

/-!
# How templates are filled

Placeholders that start with a brace, hold no other one and do not start each other are separate:
no two of them overlap in a template.  Filling a template with separate slots therefore puts a
value in the place of every occurrence of a placeholder, and a slot whose placeholder does not
occur makes no difference.
-/

namespace Corpus

namespace Template

/-- Slots whose placeholders cannot overlap. -/
structure Separate (slots : List Slot) : Prop where
  braced : ∀ slot ∈ slots, ∃ name, slot.placeholder = '{' :: name ∧ '{' ∉ name
  distinct : ∀ slot ∈ slots, ∀ other ∈ slots,
    slot.placeholder <+: other.placeholder → slot = other

theorem occurs_iff {part text : List Char} : occurs part text = true ↔ part <:+: text := by
  induction text with
  | nil => simp [occurs]
  | cons char text induction =>
      rw [occurs, Bool.or_eq_true, induction, List.isPrefixOf_iff_prefix, List.infix_cons_iff]

theorem fillFrom_drop (slots : List Slot) (skip : Nat) (text : List Char) :
    fillFrom slots skip text = fill slots (text.drop skip) := by
  induction text generalizing skip with
  | nil => cases skip <;> simp [fill, fillFrom]
  | cons char text induction =>
      cases skip with
      | zero => rfl
      | succ skip => exact induction skip

theorem fill_cons {slots : List Slot} {char : Char} {text : List Char}
    (plain : ∀ slot ∈ slots, ¬slot.placeholder <+: char :: text) :
    fill slots (char :: text) = char :: fill slots text := by
  have absent : slotAt slots (char :: text) = none := by
    simpa [slotAt] using plain
  rw [fill, fillFrom, absent]
  rfl

namespace Separate

variable {slots : List Slot} {slot : Slot}

theorem unique (separate : Separate slots) {other : Slot} {text : List Char}
    (member : slot ∈ slots) (otherMember : other ∈ slots) (starts : slot.placeholder <+: text)
    (otherStarts : other.placeholder <+: text) : slot = other := by
  rcases List.prefix_or_prefix_of_prefix starts otherStarts with shorter | longer
  · exact separate.distinct slot member other otherMember shorter
  · exact (separate.distinct other otherMember slot member longer).symm

theorem slotAt_eq (separate : Separate slots) {text : List Char} (member : slot ∈ slots)
    (starts : slot.placeholder <+: text) : slotAt slots text = some slot := by
  have found : (slotAt slots text).isSome = true := by
    simp only [slotAt, List.find?_isSome, List.isPrefixOf_iff_prefix]
    exact ⟨slot, member, starts⟩
  obtain ⟨other, sameText⟩ := Option.isSome_iff_exists.mp found
  have otherStarts : other.placeholder <+: text := by
    simpa using List.find?_some sameText
  have otherMember : other ∈ slots := List.mem_of_find?_eq_some sameText
  rw [sameText, separate.unique member otherMember starts otherStarts]

theorem fill_placeholder_append (separate : Separate slots) (member : slot ∈ slots)
    (text : List Char) :
    fill slots (slot.placeholder ++ text) = slot.value ++ fill slots text := by
  obtain ⟨name, braced, -⟩ := separate.braced slot member
  have found : slotAt slots ('{' :: (name ++ text)) = some slot := by
    apply separate.slotAt_eq member
    rw [braced, ← List.cons_append]
    exact List.prefix_append ..
  rw [braced, List.cons_append, fill, fillFrom, found]
  simp only [fillFrom_drop, braced, List.length_cons, Nat.add_sub_cancel, List.drop_left]

/-- A placeholder that starts before another one ends before it. -/
theorem prefix_of_before (separate : Separate slots) {other : Slot} {char : Char}
    {before text : List Char} (member : slot ∈ slots) (otherMember : other ∈ slots)
    (starts : other.placeholder <+: char :: before ++ (slot.placeholder ++ text)) :
    other.placeholder <+: char :: before := by
  obtain ⟨name, braced, -⟩ := separate.braced slot member
  obtain ⟨otherName, otherBraced, single⟩ := separate.braced other otherMember
  rcases List.prefix_or_prefix_of_prefix starts (List.prefix_append ..) with ends | ⟨rest, parts⟩
  · exact ends
  · cases rest with
    | nil => rw [← parts, List.append_nil]
    | cons head rest =>
        rw [← parts, List.prefix_append_right_inj, braced] at starts
        have brace : head = '{' := (List.cons_prefix_cons.mp starts).1
        have inside : '{' ∈ otherName := by
          rw [otherBraced, List.cons_append, List.cons.injEq] at parts
          rw [← parts.2, brace]
          simp
        exact absurd inside single

theorem placeholder_ne_nil (separate : Separate slots) (member : slot ∈ slots) :
    slot.placeholder ≠ [] := by
  obtain ⟨name, braced, -⟩ := separate.braced slot member
  simp [braced]

/-- An occurrence of a placeholder gives its value, whatever stands around it. -/
theorem fill_append (separate : Separate slots) (member : slot ∈ slots)
    (before after : List Char) :
    fill slots (before ++ (slot.placeholder ++ after)) =
      fill slots before ++ (slot.value ++ fill slots after) := by
  induction counted : before.length using Nat.strong_induction_on generalizing before with
  | _ size shorter =>
      cases before with
      | nil => exact separate.fill_placeholder_append member after
      | cons char before =>
          by_cases starting : ∃ other ∈ slots, other.placeholder <+: char :: before
          · obtain ⟨other, otherMember, rest, parts⟩ := starting
            have smaller : rest.length < size := by
              have longer := List.length_pos_iff.mpr (separate.placeholder_ne_nil otherMember)
              rw [← counted, ← parts, List.length_append]
              omega
            rw [← parts, List.append_assoc, separate.fill_placeholder_append otherMember,
              separate.fill_placeholder_append otherMember, shorter _ smaller rest rfl,
              List.append_assoc]
          · have plain : ∀ other ∈ slots, ¬other.placeholder <+: char :: before :=
              fun other otherMember starts => starting ⟨other, otherMember, starts⟩
            have plainBefore : ∀ other ∈ slots,
                ¬other.placeholder <+: char :: (before ++ (slot.placeholder ++ after)) :=
              fun other otherMember starts =>
                plain other otherMember (separate.prefix_of_before member otherMember starts)
            have smaller : before.length < size := by
              rw [← counted]
              exact Nat.lt_succ_self _
            rw [List.cons_append, fill_cons plainBefore, fill_cons plain,
              shorter _ smaller before rfl, List.cons_append]

end Separate

/-- Slots whose placeholders do not occur in a template make no difference. -/
theorem fill_filter {slots : List Slot} (keep : Slot → Bool) {template : List Char}
    (absent : ∀ slot ∈ slots, keep slot = false → ¬slot.placeholder <:+: template) :
    fill (slots.filter keep) template = fill slots template := by
  suffices same : ∀ skip, fillFrom (slots.filter keep) skip template =
      fillFrom slots skip template from same 0
  induction template with
  | nil => intro skip; cases skip <;> rfl
  | cons char text induction =>
      have rest := induction fun slot member dropped inside =>
        absent slot member dropped (List.infix_cons inside)
      have found : slotAt (slots.filter keep) (char :: text) = slotAt slots (char :: text) := by
        simp only [slotAt, List.find?_filter]
        apply List.find?_congr
        intro slot member
        rw [Bool.eq_iff_iff, decide_eq_true_eq, and_iff_right_iff_imp]
        intro starts
        by_contra dropped
        exact absent slot member (Bool.eq_false_iff.mpr dropped)
          (List.isPrefixOf_iff_prefix.mp starts).isInfix
      intro skip
      cases skip with
      | zero => simp only [fillFrom, found, rest]
      | succ skip => exact rest skip

end Template

end Corpus
