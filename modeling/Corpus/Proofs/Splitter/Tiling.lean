import Corpus.Splitter
import Mathlib.Algebra.Order.Floor.Div

/-!
# How chunks tile a text

The windows of a text are taken one after the other: each starts a step behind the one before it,
and the first that reaches the end of the text is the last.  As a step and an overlap make up a
window, nothing of the text is lost and only overlaps are repeated.
-/

namespace Corpus

namespace Splitter

/-- The windows of a text, taken one after the other. -/
inductive Windows (size step : Nat) : List Char → List (List Char) → Prop
  | none : Windows size step [] []
  | last {text : List Char} (nonempty : text ≠ []) (fits : text.length ≤ size) :
      Windows size step text [text]
  | next {text : List Char} {chunks : List (List Char)} (longer : size < text.length)
      (rest : Windows size step (text.drop step) chunks) :
      Windows size step text (text.take size :: chunks)

theorem windows_windows {size step bound : Nat} (positive : 0 < step) {text : List Char}
    (bounded : text.length ≤ bound) : Windows size step text (windows size step bound text) := by
  induction bound generalizing text with
  | zero =>
    have isEmpty : text = [] := List.eq_nil_of_length_eq_zero (Nat.le_zero.mp bounded)
    subst isEmpty
    exact .none
  | succ bound induction =>
    cases text with
    | nil => exact .none
    | cons head rest =>
      simp only [windows]
      split
      · next reached =>
        refine .last (by simp) ?_
        simpa using reached
      · next further =>
        refine .next (by simpa using further) (induction ?_)
        simp only [List.length_drop, List.length_cons] at bounded ⊢
        omega

theorem ceilDiv_eq_succ {step rest : Nat} (positive : 0 < step) (left : 0 < rest) :
    rest ⌈/⌉ step = (rest - step) ⌈/⌉ step + 1 := by
  have ahead : rest + step - 1 = rest - 1 + step := by omega
  rw [Nat.ceilDiv_eq_add_pred_div, Nat.ceilDiv_eq_add_pred_div, ahead,
    Nat.add_div_right _ positive]
  by_cases within : rest ≤ step
  · have first : (rest - 1) / step = 0 := Nat.div_eq_of_lt (by omega)
    have done : (rest - step + step - 1) / step = 0 := Nat.div_eq_of_lt (by omega)
    rw [first, done]
  · have same : rest - 1 = rest - step + step - 1 := by omega
    rw [same]

/-- The text of chunks of which all but the first repeat the end of the one before. -/
def rejoin (overlap : Nat) : List (List Char) → List Char
  | [] => []
  | chunk :: chunks => chunk ++ (chunks.map (·.drop overlap)).flatten

theorem flatten_map_drop {overlap : Nat} {chunks : List (List Char)}
    (longer : ∀ chunk, chunks.head? = some chunk → overlap ≤ chunk.length) :
    (chunks.map (·.drop overlap)).flatten = (rejoin overlap chunks).drop overlap := by
  cases chunks with
  | nil => simp [rejoin]
  | cons chunk chunks =>
    simp [rejoin, List.drop_append_of_le_length (longer chunk rfl)]

namespace Windows

variable {size step overlap : Nat} {text : List Char} {chunks : List (List Char)}

theorem getElem?_eq (windows : Windows size step text chunks) {index : Nat} {chunk : List Char}
    (found : chunks[index]? = some chunk) : chunk = (text.drop (index * step)).take size := by
  induction windows generalizing index with
  | none => simp at found
  | last _ fits =>
    cases index with
    | zero => simpa [List.take_of_length_le fits] using found.symm
    | succ index => simp at found
  | next _ _ induction =>
    cases index with
    | zero => simpa using found.symm
    | succ index =>
      rw [induction (by simpa using found), List.drop_drop, Nat.succ_mul, Nat.add_comm]

theorem length_of_mem_dropLast (windows : Windows size step text chunks) {chunk : List Char}
    (member : chunk ∈ chunks.dropLast) : chunk.length = size := by
  induction windows with
  | none => simp at member
  | last _ _ => simp at member
  | @next text chunks longer _ induction =>
    cases chunks with
    | nil => simp at member
    | cons head others =>
      rw [List.dropLast_cons_cons] at member
      rcases List.mem_cons.mp member with same | later
      · rw [same, List.length_take_of_le (Nat.le_of_lt longer)]
      · exact induction later

theorem length_of_mem (windows : Windows size step text chunks) (positive : 0 < size)
    {chunk : List Char} (member : chunk ∈ chunks) : 1 ≤ chunk.length ∧ chunk.length ≤ size := by
  induction windows with
  | none => simp at member
  | last nonempty fits =>
    rw [List.mem_singleton.mp member]
    exact ⟨List.length_pos_iff.mpr nonempty, fits⟩
  | next longer _ induction =>
    rcases List.mem_cons.mp member with same | later
    · rw [same, List.length_take_of_le (Nat.le_of_lt longer)]
      omega
    · exact induction later

theorem overlap_lt_length_drop (parts : step + overlap = size) (longer : size < text.length) :
    overlap < (text.drop step).length := by
  rw [List.length_drop]
  omega

theorem overlap_lt_length (windows : Windows size step text chunks)
    (parts : step + overlap = size) (positive : 0 < step) (longer : overlap < text.length) :
    ∀ chunk ∈ chunks, overlap < chunk.length := by
  induction windows with
  | none => simp
  | last _ _ => simpa using longer
  | @next text chunks longest _ induction =>
    intro chunk member
    rcases List.mem_cons.mp member with same | later
    · rw [same, List.length_take]
      omega
    · exact induction (overlap_lt_length_drop parts longest) chunk later

theorem rejoin_eq (windows : Windows size step text chunks) (parts : step + overlap = size)
    (positive : 0 < step) : rejoin overlap chunks = text := by
  induction windows with
  | none => rfl
  | last _ _ => simp [rejoin]
  | @next text chunks longer rest induction =>
    have longerRest : overlap < (text.drop step).length := overlap_lt_length_drop parts longer
    have long (chunk : List Char) (head : chunks.head? = some chunk) : overlap ≤ chunk.length :=
      Nat.le_of_lt (rest.overlap_lt_length parts positive longerRest chunk
        (List.mem_of_mem_head? head))
    calc
      rejoin overlap (text.take size :: chunks)
        = text.take size ++ (rejoin overlap chunks).drop overlap := by
          rw [rejoin, flatten_map_drop long]
      _ = text.take size ++ text.drop size := by rw [induction, List.drop_drop, parts]
      _ = text := List.take_append_drop size text

theorem length_eq (windows : Windows size step text chunks) (parts : step + overlap = size)
    (positive : 0 < step) :
    chunks.length =
      if text.length = 0 then 0 else 1 + (text.length - size) ⌈/⌉ step := by
  induction windows with
  | none => rfl
  | @last text nonempty fits =>
    simp [nonempty, Nat.sub_eq_zero_of_le fits]
  | @next text chunks longer rest induction =>
    have nonempty : text.length ≠ 0 := by omega
    have restNonempty : text.length - step ≠ 0 := by omega
    have stepped : (text.length - size) ⌈/⌉ step = (text.length - step - size) ⌈/⌉ step + 1 := by
      rw [ceilDiv_eq_succ positive (by omega), Nat.sub_right_comm]
    rw [List.length_drop, if_neg restNonempty] at induction
    rw [if_neg nonempty, List.length_cons, induction, stepped, Nat.add_assoc]

end Windows

/-- The chunk of an index covers a position of the text. -/
def Covers (step : Nat) (chunks : List (List Char)) (index position : Nat) : Prop :=
  ∃ chunk, chunks[index]? = some chunk ∧
    index * step ≤ position ∧ position < index * step + chunk.length

/-- How chunks tile a text: rejoined they are the text, they have the size of a window, each
repeats the overlap and reaches farther than those before it, and there are no more of them than
that takes. -/
structure Tiling (size overlap : Nat) (text : List Char) (chunks : List (List Char)) : Prop where
  rejoined : rejoin overlap chunks = text
  whole : ∀ chunk ∈ chunks.dropLast, chunk.length = size
  last : ∀ chunk, chunks.getLast? = some chunk → 1 ≤ chunk.length ∧ chunk.length ≤ size
  shared : ∀ index left right, chunks[index]? = some left → chunks[index + 1]? = some right →
    left.drop (left.length - overlap) = right.take overlap
  placed : ∀ index chunk, chunks[index]? = some chunk →
    chunk = (text.drop (index * (size - overlap))).take size
  reaching : ∀ index < chunks.length, ∃ position,
    Covers (size - overlap) chunks index position ∧
      ∀ earlier < index, ¬Covers (size - overlap) chunks earlier position
  count : chunks.length =
    if text.length = 0 then 0
    else if text.length ≤ size then 1
    else 1 + (text.length - size) ⌈/⌉ (size - overlap)

namespace Windows

variable {size step overlap : Nat} {text : List Char} {chunks : List (List Char)}

theorem length_of_getElem?_succ (windows : Windows size step text chunks) {index later : Nat}
    {left right : List Char} (leftFound : chunks[index]? = some left)
    (rightFound : chunks[later]? = some right) (before : index < later) : left.length = size := by
  have bound : later < chunks.length := (List.getElem?_eq_some_iff.mp rightFound).1
  have inFront : chunks.dropLast[index]? = some left := by
    rw [List.getElem?_dropLast, if_pos (by omega)]
    exact leftFound
  exact windows.length_of_mem_dropLast (List.mem_of_getElem? inFront)

theorem overlap_lt_length_succ (windows : Windows size step text chunks)
    (parts : step + overlap = size) (positive : 0 < step) {index : Nat} {chunk : List Char}
    (found : chunks[index + 1]? = some chunk) : overlap < chunk.length := by
  cases windows with
  | none => simp at found
  | last _ _ => simp at found
  | next longer rest =>
    have longerRest : overlap < (text.drop step).length := overlap_lt_length_drop parts longer
    exact rest.overlap_lt_length parts positive longerRest chunk
      (List.mem_of_getElem? (by simpa using found))

theorem shared (windows : Windows size step text chunks) (parts : step + overlap = size)
    {index : Nat} {left right : List Char} (leftFound : chunks[index]? = some left)
    (rightFound : chunks[index + 1]? = some right) :
    left.drop (left.length - overlap) = right.take overlap := by
  have whole := windows.length_of_getElem?_succ leftFound rightFound (Nat.lt_succ_self index)
  have behind : left.length - overlap = step := by omega
  have kept : size - step = overlap := by omega
  have within : min overlap size = overlap := by omega
  rw [behind, windows.getElem?_eq leftFound, windows.getElem?_eq rightFound, List.drop_take,
    List.drop_drop, List.take_take, kept, within, Nat.succ_mul]

/-- The last position of a chunk is behind every chunk before it. -/
theorem reaching (windows : Windows size step text chunks) (parts : step + overlap = size)
    (positive : 0 < step) {index : Nat} (bound : index < chunks.length) :
    ∃ position, Covers step chunks index position ∧
      ∀ earlier < index, ¬Covers step chunks earlier position := by
  have found : chunks[index]? = some chunks[index] := List.getElem?_eq_getElem bound
  have nonempty := windows.length_of_mem (by omega) (List.getElem_mem bound)
  refine ⟨index * step + (chunks[index].length - 1), ⟨_, found, by omega, by omega⟩, ?_⟩
  rintro earlier before ⟨other, otherFound, _, within⟩
  have whole := windows.length_of_getElem?_succ otherFound found before
  cases index with
  | zero => omega
  | succ index =>
    have longer := windows.overlap_lt_length_succ parts positive found
    have behind : earlier * step ≤ index * step :=
      Nat.mul_le_mul_right step (Nat.le_of_lt_succ before)
    rw [Nat.succ_mul] at within
    omega

theorem tiling (windows : Windows size step text chunks) (parts : step + overlap = size)
    (positive : 0 < step) : Tiling size overlap text chunks := by
  have behind : size - overlap = step := by omega
  refine ⟨windows.rejoin_eq parts positive, ?_, ?_, ?_, ?_, ?_, ?_⟩
  · intro chunk member
    exact windows.length_of_mem_dropLast member
  · intro chunk last
    exact windows.length_of_mem (by omega) (List.mem_of_getLast? last)
  · intro index left right leftFound rightFound
    exact windows.shared parts leftFound rightFound
  · intro index chunk found
    rw [behind]
    exact windows.getElem?_eq found
  · intro index bound
    rw [behind]
    exact windows.reaching parts positive bound
  · rw [behind, windows.length_eq parts positive]
    split
    · rfl
    · split
      · next fits => rw [Nat.sub_eq_zero_of_le fits, zero_ceilDiv, Nat.add_zero]
      · rfl

end Windows

theorem overlap_lt_chunkSize {splitter : Splitter} (positive : 1 ≤ splitter.chunkSize) :
    splitter.overlap < splitter.chunkSize := by
  simp only [overlap]
  omega

theorem step_add_overlap {splitter : Splitter} (positive : 1 ≤ splitter.chunkSize) :
    splitter.step + splitter.overlap = splitter.chunkSize := by
  have shorter := overlap_lt_chunkSize positive
  simp only [step]
  omega

theorem map_toList_splitText (splitter : Splitter) (text : String) :
    (splitter.splitText text).map String.toList = splitter.chunks text.toList := by
  simp [splitText, List.map_map, Function.comp_def]

theorem tiling_splitText (splitter : Splitter) (text : String)
    (positive : 1 ≤ splitter.chunkSize) :
    Tiling splitter.chunkSize (min splitter.chunkOverlap (splitter.chunkSize - 1)) text.toList
      ((splitter.splitText text).map String.toList) := by
  have splits : splitter.chunkSize ≠ 0 := by omega
  have step : 0 < splitter.step := Nat.le_max_left ..
  rw [map_toList_splitText, chunks, if_neg splits]
  exact (windows_windows step (Nat.le_refl _)).tiling (step_add_overlap positive) step

theorem tiling_splitText_letters :
    1 ≤ 4 ∧ Tiling 4 1 "abcdefgh".toList ["abcd".toList, "defg".toList, "gh".toList] := by
  have chunks : splitText ⟨4, 1, true⟩ "abcdefgh" = ["abcd", "defg", "gh"] := by decide +kernel
  have tiled := tiling_splitText ⟨4, 1, true⟩ "abcdefgh" (by decide)
  rw [chunks] at tiled
  exact ⟨by decide, tiled⟩

end Splitter

end Corpus
