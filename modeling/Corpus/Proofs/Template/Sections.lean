import Corpus.Proofs.Template.Filling

/-!
# Templates in sections

A template is cut into sections at its placeholders, so that none is left in the text between them.
If the placeholders are separate, every template has one such cut.  Filling the template comes to
putting values in the places of its placeholders, all at once: where these places are does not
depend on the values, and nothing else changes.
-/

namespace Corpus

namespace Template

/-- Slots for some placeholders, each with the value that it stands for. -/
def slots (placeholders : List (List Char)) (value : List Char → List Char) : List Slot :=
  placeholders.map fun placeholder => ⟨placeholder, value placeholder⟩

/-- Texts with placeholders between them. -/
inductive Sections where
  | last (text : List Char)
  | before (text placeholder : List Char) (rest : Sections)

/-- The sections joined, with values in the places of the placeholders. -/
def Sections.joined (value : List Char → List Char) : Sections → List Char
  | .last text => text
  | .before text placeholder rest => text ++ (value placeholder ++ rest.joined value)

def Absent (placeholders : List (List Char)) (text : List Char) : Prop :=
  ∀ placeholder ∈ placeholders, ¬placeholder <:+: text

/-- A template is cut at its placeholders: none is left in a text between two of them. -/
inductive Cut (placeholders : List (List Char)) : List Char → Sections → Prop where
  | last {text : List Char} :
      Absent placeholders text →
      Cut placeholders text (.last text)
  | before {text placeholder template : List Char} {rest : Sections} :
      Absent placeholders text →
      placeholder ∈ placeholders →
      Cut placeholders template rest →
      Cut placeholders (text ++ (placeholder ++ template)) (.before text placeholder rest)

/-- Filling is simultaneous substitution of some placeholders: a text without them stays, each
occurrence gives its value whatever stands around it, and a template is filled in the places where
it is cut, which are the same for all values. -/
structure Simultaneous (placeholders : List (List Char)) : Prop where
  absent : ∀ value template, Absent placeholders template →
    fill (slots placeholders value) template = template
  occurrence : ∀ value, ∀ placeholder ∈ placeholders, ∀ before after,
    fill (slots placeholders value) (before ++ placeholder ++ after) =
      fill (slots placeholders value) before ++ value placeholder ++
        fill (slots placeholders value) after
  sections : ∀ template, ∃ sections, Cut placeholders template sections ∧
    (∀ other, Cut placeholders template other → other = sections) ∧
    sections.joined id = template ∧
    ∀ value, fill (slots placeholders value) template = sections.joined value

variable {placeholders : List (List Char)} {value : List Char → List Char}
  {template : List Char} {sections : Sections}

theorem mem_slots {slot : Slot} (member : slot ∈ slots placeholders value) :
    slot.placeholder ∈ placeholders := by
  obtain ⟨placeholder, known, rfl⟩ := List.mem_map.mp member
  exact known

theorem slot_mem {placeholder : List Char} (known : placeholder ∈ placeholders) :
    ⟨placeholder, value placeholder⟩ ∈ slots placeholders value :=
  List.mem_map_of_mem known

theorem fill_of_absent (absent : Absent placeholders template) :
    fill (slots placeholders value) template = template := by
  induction template with
  | nil => rfl
  | cons char text induction =>
      have plain : ∀ slot ∈ slots placeholders value, ¬slot.placeholder <+: char :: text :=
        fun slot member starts => absent _ (mem_slots member) starts.isInfix
      rw [fill_cons plain, induction fun placeholder known inside =>
        absent placeholder known (List.infix_cons inside)]

theorem Absent.cons {char : Char} {text : List Char} (absent : Absent placeholders text)
    (plain : ∀ placeholder ∈ placeholders, ¬placeholder <+: char :: text) :
    Absent placeholders (char :: text) := by
  intro placeholder known inside
  rcases List.infix_cons_iff.mp inside with starts | later
  · exact plain placeholder known starts
  · exact absent placeholder known later

theorem Cut.joined_id (cut : Cut placeholders template sections) :
    sections.joined id = template := by
  induction cut with
  | last => rfl
  | before _ _ _ induction => rw [Sections.joined, induction, id]

namespace Separate

theorem fill_eq_joined (separate : Separate (slots placeholders value))
    (cut : Cut placeholders template sections) :
    fill (slots placeholders value) template = sections.joined value := by
  induction cut with
  | last absent => exact fill_of_absent absent
  | before absent known _ induction =>
      rw [separate.fill_append (slot_mem known), fill_of_absent absent, induction, Sections.joined]

theorem absent_nil (separate : Separate (slots placeholders value)) : Absent placeholders [] := by
  intro placeholder known inside
  exact separate.placeholder_ne_nil (slot_mem known) (List.infix_nil.mp inside)

theorem exists_cut (separate : Separate (slots placeholders value)) (template : List Char) :
    ∃ sections, Cut placeholders template sections := by
  induction counted : template.length using Nat.strong_induction_on generalizing template with
  | _ size shorter =>
      cases template with
      | nil => exact ⟨.last [], .last separate.absent_nil⟩
      | cons char text =>
          by_cases starting : ∃ placeholder ∈ placeholders, placeholder <+: char :: text
          · obtain ⟨placeholder, known, rest, parts⟩ := starting
            have smaller : rest.length < size := by
              have longer : 0 < placeholder.length :=
                List.length_pos_iff.mpr (separate.placeholder_ne_nil (slot_mem known))
              rw [← counted, ← parts, List.length_append]
              omega
            obtain ⟨sections, cut⟩ := shorter _ smaller rest rfl
            rw [← parts]
            exact ⟨_, .before separate.absent_nil known cut⟩
          · have plain : ∀ placeholder ∈ placeholders, ¬placeholder <+: char :: text :=
              fun placeholder known starts => starting ⟨placeholder, known, starts⟩
            have smaller : text.length < size := by
              rw [← counted]
              exact Nat.lt_succ_self _
            obtain ⟨sections, cut⟩ := shorter _ smaller text rfl
            cases cut with
            | last absent => exact ⟨_, .last (absent.cons plain)⟩
            | @before front _ _ _ absent known cut =>
                have frontPlain : ∀ placeholder ∈ placeholders, ¬placeholder <+: char :: front :=
                  fun placeholder known starts =>
                    plain placeholder known (starts.trans (List.prefix_append (char :: front) _))
                exact ⟨_, .before (absent.cons frontPlain) known cut⟩

/-- Two texts without placeholders end together if each has a placeholder right behind it. -/
theorem eq_nil_of_absent (separate : Separate (slots placeholders value))
    {placeholder other front more rest otherRest : List Char} (known : placeholder ∈ placeholders)
    (otherKnown : other ∈ placeholders) (absent : Absent placeholders (front ++ more))
    (same : placeholder ++ rest = more ++ (other ++ otherRest)) : more = [] := by
  cases more with
  | nil => rfl
  | cons char before =>
      have starts : placeholder <+: char :: before ++ (other ++ otherRest) :=
        same ▸ List.prefix_append ..
      have ends : placeholder <+: char :: before :=
        separate.prefix_of_before (slot_mem otherKnown) (slot_mem known) starts
      have inside : placeholder <:+: front ++ char :: before :=
        ends.isInfix.trans (List.suffix_append ..).isInfix
      exact absurd inside (absent placeholder known)

theorem front_eq (separate : Separate (slots placeholders value))
    {front placeholder rest otherFront other otherRest : List Char}
    (known : placeholder ∈ placeholders) (otherKnown : other ∈ placeholders)
    (absent : Absent placeholders front) (otherAbsent : Absent placeholders otherFront)
    (same : front ++ (placeholder ++ rest) = otherFront ++ (other ++ otherRest)) :
    front = otherFront := by
  rcases List.append_eq_append_iff.mp same with ⟨more, longer, behind⟩ | ⟨more, longer, behind⟩
  · have nothing := separate.eq_nil_of_absent known otherKnown (longer ▸ otherAbsent) behind
    rw [longer, nothing, List.append_nil]
  · have nothing := separate.eq_nil_of_absent otherKnown known (longer ▸ absent) behind
    rw [longer, nothing, List.append_nil]

theorem exists_rest_of_cut (separate : Separate (slots placeholders value))
    {front placeholder : List Char} (absent : Absent placeholders front)
    (known : placeholder ∈ placeholders)
    (cut : Cut placeholders (front ++ (placeholder ++ template)) sections) :
    ∃ rest, sections = .before front placeholder rest ∧ Cut placeholders template rest := by
  generalize whole : front ++ (placeholder ++ template) = joined at cut
  cases cut with
  | last otherAbsent =>
      subst whole
      exact absurd (List.infix_append' ..) (otherAbsent placeholder known)
  | @before _ other otherTemplate rest otherAbsent otherKnown cut =>
      obtain rfl := separate.front_eq known otherKnown absent otherAbsent whole
      have behind : placeholder ++ template = other ++ otherTemplate :=
        List.append_cancel_left whole
      obtain rfl : placeholder = other := congrArg Slot.placeholder <|
        separate.unique (slot_mem known) (slot_mem otherKnown)
          (List.prefix_append placeholder template)
          (behind ▸ List.prefix_append other otherTemplate)
      obtain rfl := List.append_cancel_left behind
      exact ⟨rest, rfl, cut⟩

theorem cut_unique (separate : Separate (slots placeholders value)) {other : Sections}
    (cut : Cut placeholders template sections) (otherCut : Cut placeholders template other) :
    other = sections := by
  induction cut generalizing other with
  | last absent =>
      cases otherCut with
      | last => rfl
      | before _ known _ => exact absurd (List.infix_append' ..) (absent _ known)
  | before absent known _ induction =>
      obtain ⟨rest, rfl, restCut⟩ := separate.exists_rest_of_cut absent known otherCut
      rw [induction restCut]

end Separate

theorem simultaneous_of_separate (separate : ∀ value, Separate (slots placeholders value)) :
    Simultaneous placeholders := by
  constructor
  · intro value template absent
    exact fill_of_absent absent
  · intro value placeholder known before after
    rw [List.append_assoc, (separate value).fill_append (slot_mem known), List.append_assoc]
  · intro template
    obtain ⟨sections, cut⟩ := (separate id).exists_cut template
    exact ⟨sections, cut, fun other otherCut => (separate id).cut_unique cut otherCut,
      cut.joined_id, fun value => (separate value).fill_eq_joined cut⟩

end Template

end Corpus
