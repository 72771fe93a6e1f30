import Corpus.Proofs.Json.NumberText
import Corpus.Proofs.Json.StringText

/-!
# Quotes and brackets in compact text

A cursor reads a text from left to right and keeps in mind whether it is inside a string and how
many brackets are open.  The text of a value leaves the cursor where it was.  Two cursors of which
exactly one is inside a string stay so, whatever both can read; this is why the text of no object
is the end of the text of another.
-/

namespace Corpus.Json

/-- Where a cursor stands: outside of strings, in a string, or behind a backslash in a string. -/
inductive Place where
  | outside
  | quoted
  | escaped

/-- A place in a text, and the count of the brackets that are open there. -/
structure Cursor where
  place : Place
  depth : Nat

namespace Cursor

/-- The cursor behind one more character.  Outside of strings there is no backslash, and no
bracket is closed that was not opened. -/
def step (cursor : Cursor) (char : Char) : Option Cursor :=
  match cursor.place with
  | .outside =>
      if char = '"' then some ⟨.quoted, cursor.depth⟩
      else if char = '\\' then none
      else if char = '\x7b' ∨ char = '[' then some ⟨.outside, cursor.depth + 1⟩
      else if char = '\x7d' ∨ char = ']' then
        if cursor.depth = 0 then none else some ⟨.outside, cursor.depth - 1⟩
      else some cursor
  | .quoted =>
      if char = '"' then some ⟨.outside, cursor.depth⟩
      else if char = '\\' then some ⟨.escaped, cursor.depth⟩
      else some cursor
  | .escaped => some ⟨.quoted, cursor.depth⟩

def read (cursor : Cursor) : List Char → Option Cursor
  | [] => some cursor
  | char :: text => (cursor.step char).bind fun next => next.read text

theorem read_append (cursor : Cursor) (left right : List Char) :
    cursor.read (left ++ right) = (cursor.read left).bind fun next => next.read right := by
  induction left generalizing cursor with
  | nil => rfl
  | cons char left induction =>
      simp only [List.cons_append, read, Option.bind_assoc, induction]

/-- Exactly one of two cursors is inside a string, and none is behind a backslash. -/
def Opposite (left right : Cursor) : Prop :=
  (left.place = .outside ∧ right.place = .quoted) ∨
    (left.place = .quoted ∧ right.place = .outside)

theorem Opposite.symm {left right : Cursor} (opposite : Opposite left right) :
    Opposite right left :=
  (Or.symm opposite).imp And.symm And.symm

private theorem opposite_step_of_outside {outer inner outerNext innerNext : Cursor} {char : Char}
    (outside : outer.place = .outside) (quoted : inner.place = .quoted)
    (outerStep : outer.step char = some outerNext)
    (innerStep : inner.step char = some innerNext) : Opposite outerNext innerNext := by
  unfold step at outerStep innerStep
  simp only [outside] at outerStep
  simp only [quoted] at innerStep
  by_cases quote : char = '"'
  · rw [if_pos quote] at outerStep innerStep
    cases outerStep
    cases innerStep
    exact .inr ⟨rfl, rfl⟩
  rw [if_neg quote] at outerStep innerStep
  by_cases backslash : char = '\\'
  · rw [if_pos backslash] at outerStep
    cases outerStep
  rw [if_neg backslash] at outerStep innerStep
  cases innerStep
  refine .inl ⟨?_, quoted⟩
  split at outerStep
  · cases outerStep
    rfl
  · split at outerStep
    · split at outerStep
      · cases outerStep
      · cases outerStep
        rfl
    · cases outerStep
      exact outside

theorem Opposite.step {left right leftNext rightNext : Cursor} {char : Char}
    (opposite : Opposite left right) (leftStep : left.step char = some leftNext)
    (rightStep : right.step char = some rightNext) : Opposite leftNext rightNext := by
  rcases opposite with ⟨outside, quoted⟩ | ⟨quoted, outside⟩
  · exact opposite_step_of_outside outside quoted leftStep rightStep
  · exact (opposite_step_of_outside outside quoted rightStep leftStep).symm

/-- Cursors of which exactly one is inside a string stay so along every text both can read. -/
theorem Opposite.read {left right leftEnd rightEnd : Cursor} {text : List Char}
    (opposite : Opposite left right) (leftRead : left.read text = some leftEnd)
    (rightRead : right.read text = some rightEnd) : Opposite leftEnd rightEnd := by
  induction text generalizing left right with
  | nil =>
      cases leftRead
      cases rightRead
      exact opposite
  | cons char text induction =>
      obtain ⟨leftNext, leftStep, leftRest⟩ := Option.bind_eq_some_iff.mp leftRead
      obtain ⟨rightNext, rightStep, rightRest⟩ := Option.bind_eq_some_iff.mp rightRead
      exact induction (opposite.step leftStep rightStep) leftRest rightRest

end Cursor

/-- A text that leaves a cursor outside of strings where it was. -/
def Level (text : List Char) : Prop :=
  ∀ depth, Cursor.read ⟨.outside, depth⟩ text = some ⟨.outside, depth⟩

/-- A text that closes one bracket more than it opens. -/
def Closes (text : List Char) : Prop :=
  ∀ depth, Cursor.read ⟨.outside, depth + 1⟩ text = some ⟨.outside, depth⟩

theorem level_nil : Level [] :=
  fun _ => rfl

theorem Level.append {left right : List Char} (leftLevel : Level left)
    (rightLevel : Level right) : Level (left ++ right) := by
  intro depth
  rw [Cursor.read_append, leftLevel depth, Option.bind_some, rightLevel depth]

theorem Level.append_closes {left right : List Char} (level : Level left)
    (closes : Closes right) : Closes (left ++ right) := by
  intro depth
  rw [Cursor.read_append, level (depth + 1), Option.bind_some, closes depth]

/-- A character that is neither a quote, a backslash nor a bracket. -/
def Plain (char : Char) : Prop :=
  char ∉ ['"', '\\', '\x7b', '[', '\x7d', ']']

theorem Plain.step {char : Char} (plain : Plain char) (depth : Nat) :
    Cursor.step ⟨.outside, depth⟩ char = some ⟨.outside, depth⟩ := by
  simp only [Plain, List.mem_cons, List.not_mem_nil, or_false, not_or] at plain
  simp [Cursor.step, plain]

theorem level_of_plain {text : List Char} (plain : ∀ char ∈ text, Plain char) : Level text := by
  induction text with
  | nil => exact level_nil
  | cons char text induction =>
      intro depth
      have rest := induction fun other member => plain other (List.mem_cons_of_mem _ member)
      rw [Cursor.read, (plain char (List.mem_cons_self ..)).step, Option.bind_some, rest depth]

theorem Level.cons_plain {char : Char} {text : List Char} (plain : Plain char)
    (level : Level text) : Level (char :: text) := by
  intro depth
  rw [Cursor.read, plain.step, Option.bind_some, level depth]

theorem Closes.cons_plain {char : Char} {text : List Char} (plain : Plain char)
    (closes : Closes text) : Closes (char :: text) := by
  intro depth
  rw [Cursor.read, plain.step, Option.bind_some, closes depth]

theorem level_brace {text : List Char} (closes : Closes text) : Level ('\x7b' :: text) :=
  closes

theorem level_bracket {text : List Char} (closes : Closes text) : Level ('[' :: text) :=
  closes

theorem closes_brace : Closes ['\x7d'] :=
  fun _ => rfl

theorem closes_bracket : Closes [']'] :=
  fun _ => rfl

private theorem read_quoted_of_shown {chars : List Char} (depth : Nat)
    (shown : ∀ char ∈ chars, char ≠ '"' ∧ char ≠ '\\') :
    Cursor.read ⟨.quoted, depth⟩ chars = some ⟨.quoted, depth⟩ := by
  induction chars with
  | nil => rfl
  | cons char chars induction =>
      have rest := induction fun other member => shown other (List.mem_cons_of_mem _ member)
      obtain ⟨noQuote, noBackslash⟩ := shown char (List.mem_cons_self ..)
      simpa [Cursor.read, Cursor.step, noQuote, noBackslash] using rest

private theorem shown_padded : ∀ value < 0x20,
    (Hex.padded 4 value).all (fun char => char ≠ '"' ∧ char ≠ '\\') = true := by decide

private theorem read_escape (depth : Nat) (char : Char) :
    Cursor.read ⟨.quoted, depth⟩ (escape char) = some ⟨.quoted, depth⟩ := by
  have written := Outline.written_escape char
  generalize Outline.piece char = part, escape char = escaped at written ⊢
  cases written with
  | named _ _ => rfl
  | unit control =>
      have shown := List.all_eq_true.mp (shown_padded char.toNat control)
      have digits : Cursor.read ⟨.quoted, depth⟩ (Hex.padded 4 char.toNat) =
          some ⟨.quoted, depth⟩ :=
        read_quoted_of_shown depth fun digit member => of_decide_eq_true (shown digit member)
      exact digits
  | plain noQuote noBackslash _ =>
      exact read_quoted_of_shown depth (by simp [noQuote, noBackslash])

private theorem read_flatMap_escape (depth : Nat) (chars : List Char) :
    Cursor.read ⟨.quoted, depth⟩ (chars.flatMap escape) = some ⟨.quoted, depth⟩ := by
  induction chars with
  | nil => rfl
  | cons char chars induction =>
      rw [List.flatMap_cons, Cursor.read_append, read_escape, Option.bind_some, induction]

theorem level_writeString (text : String) : Level (writeString text) := by
  intro depth
  have inside := read_flatMap_escape depth text.toList
  have opened : Cursor.read ⟨.outside, depth⟩ (writeString text) =
      Cursor.read ⟨.quoted, depth⟩ (text.toList.flatMap escape ++ ['"']) := rfl
  rw [opened, Cursor.read_append, inside]
  rfl

theorem level_writeNumber (number : Number) : Level number.write := by
  obtain ⟨literal, sound, text, -⟩ := number.exists_literal
  rw [text]
  refine level_of_plain fun char member => ?_
  have numeric := Number.Literal.mem_write sound member
  intro special
  simp only [List.mem_cons, List.not_mem_nil, or_false] at special
  rcases special with rfl | rfl | rfl | rfl | rfl | rfl <;> exact absurd numeric (by decide)

mutual

theorem level_write (json : Json) : Level json.write := by
  cases json with
  | null => exact level_of_plain (by simp [write, Plain])
  | bool value => cases value <;> exact level_of_plain (by simp [write, Plain])
  | number value => exact level_writeNumber value
  | string text => exact level_writeString text
  | array items =>
      cases items with
      | nil => exact level_bracket closes_bracket
      | cons item items =>
          exact level_bracket ((level_write item).append_closes (closes_writeItems items))
  | object fields =>
      cases fields with
      | nil => exact level_brace closes_brace
      | cons field fields =>
          exact level_brace ((level_writeString field.1).append_closes
            (((level_write field.2).append_closes (closes_writeFields fields)).cons_plain
              (by simp [Plain])))

theorem closes_writeItems (items : List Json) : Closes (writeItems items) := by
  cases items with
  | nil => exact closes_bracket
  | cons item items =>
      exact ((level_write item).append_closes (closes_writeItems items)).cons_plain
        (by simp [Plain])

theorem closes_writeFields (fields : List (String × Json)) : Closes (writeFields fields) := by
  cases fields with
  | nil => exact closes_brace
  | cons field fields =>
      exact ((level_writeString field.1).append_closes
        (((level_write field.2).append_closes (closes_writeFields fields)).cons_plain
          (by simp [Plain]))).cons_plain (by simp [Plain])

end

/-- A cursor in a string cannot take the inside of braces for a text that ends outside, when a
cursor outside of strings finds the braces level. -/
private theorem read_ne_of_quoted {middle : List Char} (level : Level (middle ++ ['\x7d']))
    (depth : Nat) : Cursor.read ⟨.quoted, depth⟩ middle ≠ some ⟨.outside, 0⟩ := by
  intro quotedRead
  have outsideRead := level 0
  rw [Cursor.read_append] at outsideRead
  obtain ⟨⟨place, inner⟩, innerRead, closed⟩ := Option.bind_eq_some_iff.mp outsideRead
  have start : Cursor.Opposite ⟨.outside, 0⟩ ⟨.quoted, depth⟩ := .inl ⟨rfl, rfl⟩
  rcases start.read innerRead quotedRead with ⟨-, quoted⟩ | ⟨quoted, -⟩
  · cases quoted
  · cases quoted
    cases closed

/-- No level text that starts with a brace is a proper end of a level text in braces. -/
theorem eq_nil_of_level_suffix {front body text : List Char} (bodyLevel : Level body)
    (textLevel : Level text) (opens : text.head? = some '\x7b')
    (same : '\x7b' :: (body ++ ['\x7d']) = front ++ text) : front = [] := by
  cases front with
  | nil => rfl
  | cons first front =>
      exfalso
      obtain ⟨others, rfl⟩ := List.head?_eq_some_iff.mp opens
      rw [List.cons_append, List.cons.injEq] at same
      rcases List.append_eq_append_iff.mp same.2 with ⟨extra, -, short⟩ | ⟨middle, bodyIs, textIs⟩
      · have member : '\x7b' ∈ ['\x7d'] := by
          rw [short]
          simp
        exact absurd member (by decide)
      cases middle with
      | nil => cases textIs
      | cons brace middle =>
          obtain rfl : '\x7b' = brace := (List.cons.inj textIs).1
          rw [textIs] at textLevel
          have whole := bodyLevel 0
          rw [bodyIs, Cursor.read_append] at whole
          obtain ⟨⟨place, depth⟩, -, restRead⟩ := Option.bind_eq_some_iff.mp whole
          cases place with
          | outside =>
              have level := textLevel depth
              rw [Cursor.read_append, restRead] at level
              cases level
          | quoted => exact read_ne_of_quoted textLevel depth restRead
          | escaped =>
              have quotedRead : Cursor.read ⟨.quoted, depth⟩ ('\x7b' :: middle) =
                  some ⟨.outside, 0⟩ := restRead
              exact read_ne_of_quoted textLevel depth quotedRead

end Corpus.Json
