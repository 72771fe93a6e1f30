import Corpus.Proofs.Splitter.Tiling
import Corpus.Splitter.Words

/-!
# No position is too large

Sizes that are words of 64 bits can be as large as the greatest word, but only the first chunk can
be longer than the text: behind a pass that is not the last one a whole chunk still lies within the
text, and twice a text is far less than the words can hold.  So no position is ever too large, and
the chunks are those of a splitter that counts without bound.
-/

namespace Corpus

namespace Splitter

namespace Word

theorem toNat_add {left right : UInt64} (fits : left.toNat + right.toNat < UInt64.size) :
    (left + right).toNat = left.toNat + right.toNat := by
  rw [UInt64.toNat_add]
  exact Nat.mod_eq_of_lt fits

theorem toNat_subtractSaturating (left right : UInt64) :
    (subtractSaturating left right).toNat = left.toNat - right.toNat := by
  rw [subtractSaturating]
  split
  · next below => exact UInt64.toNat_sub_of_le _ _ below
  · next above =>
    rw [UInt64.le_iff_toNat_le] at above
    change 0 = _
    omega

end Word

/-- The first count of characters that no memory of words can hold, with four bytes for each. -/
def memoryBound : Nat := 0x2000000000000000

/-- What makes a pass safe: its sums are words, and its slice lies within the text. -/
structure Pass.Safe (size step : UInt64) (length : Nat) (pass : Pass) : Prop where
  sum : pass.start.toNat + size.toNat < UInt64.size
  next : pass.start.toNat + step.toNat < UInt64.size
  ordered : pass.start.toNat ≤ pass.stop.toNat
  inside : pass.stop.toNat ≤ length

/-- What passes from a position on come to: each is safe, they go forward, there are no more of them
than characters, and their chunks are the windows of the text from there. -/
structure Advances (size step : UInt64) (text : List Char) (start : UInt64)
    (passes : List Pass) : Prop where
  safe : ∀ pass ∈ passes, pass.Safe size step text.length
  ahead : ∀ pass ∈ passes, start ≤ pass.start
  ascending : passes.Pairwise fun earlier later => earlier.start < later.start
  count : passes.length ≤ text.length - start.toNat
  windows : Windows size.toNat step.toNat (text.drop start.toNat) (passes.map (·.chunk))

theorem Windows.unique {size step : Nat} {text : List Char} {chunks others : List (List Char)}
    (windows : Windows size step text chunks) (otherWindows : Windows size step text others) :
    chunks = others := by
  induction windows generalizing others with
  | none =>
      cases otherWindows with
      | none => rfl
      | last nonempty _ => exact absurd rfl nonempty
      | next longer _ => exact absurd longer (Nat.not_lt_zero size)
  | last nonempty fits =>
      cases otherWindows with
      | none => exact absurd rfl nonempty
      | last _ _ => rfl
      | next longer _ => exact absurd longer (Nat.not_lt.mpr fits)
  | next longer _ induction =>
      cases otherWindows with
      | none => exact absurd longer (Nat.not_lt_zero size)
      | last _ fits => exact absurd longer (Nat.not_lt.mpr fits)
      | next _ rest => rw [induction rest]

section

variable {size step start : UInt64} {text : List Char}

theorem toNat_lengthWord (short : text.length < memoryBound) :
    (lengthWord text).toNat = text.length := by
  have bound : text.length < UInt64.size := Nat.lt_trans short (by decide)
  exact Nat.mod_eq_of_lt bound

theorem slice_eq_ok (short : text.length < memoryBound) {stop : UInt64} (ordered : start ≤ stop)
    (inside : stop.toNat ≤ text.length) :
    slice text start stop =
      .ok ((text.drop start.toNat).take (stop.toNat - start.toNat)) := by
  have within : stop ≤ lengthWord text := by
    rw [UInt64.le_iff_toNat_le, toNat_lengthWord short]
    exact inside
  exact if_pos ⟨ordered, within⟩

theorem makePass_of_reached (short : text.length < memoryBound)
    (fits : start.toNat + size.toNat < UInt64.size) (inside : start.toNat ≤ text.length)
    (reached : text.length ≤ start.toNat + size.toNat) :
    makePass size step text start =
      .ok (⟨start, lengthWord text, text.drop start.toNat⟩, none) := by
  have length := toNat_lengthWord short
  have summed : Word.add start size = .ok (start + size) := if_pos fits
  have stop : (if start + size ≤ lengthWord text then start + size else lengthWord text) =
      lengthWord text := by
    split
    · next below =>
      rw [UInt64.le_iff_toNat_le, Word.toNat_add fits, length] at below
      apply UInt64.toNat_inj.mp
      rw [Word.toNat_add fits, length]
      omega
    · rfl
  have ordered : start ≤ lengthWord text := by
    rw [UInt64.le_iff_toNat_le, length]
    exact inside
  have cut : slice text start (lengthWord text) = .ok (text.drop start.toNat) := by
    rw [slice_eq_ok short ordered (Nat.le_of_eq length), length, ← List.length_drop,
      List.take_length]
  rw [makePass, summed]
  change (slice text start _ >>= _) = _
  rw [stop, cut]
  exact congrArg (fun next => Except.ok (_, next)) (if_pos rfl)

/-- A pass that does not reach the end cuts out a whole chunk, and the next one is a step ahead. -/
theorem makePass_of_further (short : text.length < memoryBound)
    (fits : start.toNat + size.toNat < UInt64.size)
    (stepFits : start.toNat + step.toNat < UInt64.size)
    (further : start.toNat + size.toNat < text.length) :
    makePass size step text start =
      .ok (⟨start, start + size, (text.drop start.toNat).take size.toNat⟩,
        some (start + step)) := by
  have length := toNat_lengthWord short
  have sum := Word.toNat_add fits
  have summed : Word.add start size = .ok (start + size) := if_pos fits
  have stop : (if start + size ≤ lengthWord text then start + size else lengthWord text) =
      start + size := by
    apply if_pos
    rw [UInt64.le_iff_toNat_le]
    omega
  have ordered : start ≤ start + size := by
    rw [UInt64.le_iff_toNat_le]
    omega
  have cut : slice text start (start + size) =
      .ok ((text.drop start.toNat).take size.toNat) := by
    rw [slice_eq_ok short ordered (by omega), sum, Nat.add_sub_cancel_left]
  have notLast : start + size ≠ lengthWord text := by
    intro same
    rw [same, length] at sum
    omega
  have next : Word.addSaturating start step = start + step := if_pos stepFits
  rw [makePass, summed]
  change (slice text start _ >>= _) = _
  rw [stop, cut, next]
  exact congrArg (fun next => Except.ok (_, next)) (if_neg notLast)

theorem advances_nil (behind : text.length ≤ start.toNat) : Advances size step text start [] where
  safe := by simp
  ahead := by simp
  ascending := .nil
  count := Nat.zero_le _
  windows := by
    rw [List.drop_eq_nil_of_le behind]
    exact .none

theorem advances_last (short : text.length < memoryBound)
    (fits : start.toNat + size.toNat < UInt64.size)
    (stepFits : start.toNat + step.toNat < UInt64.size) (inside : start.toNat < text.length)
    (reached : text.length ≤ start.toNat + size.toNat) :
    Advances size step text start [⟨start, lengthWord text, text.drop start.toNat⟩] := by
  have length := toNat_lengthWord short
  refine ⟨?_, by simp, by simp, ?_, ?_⟩
  · rw [List.forall_mem_singleton]
    refine ⟨fits, stepFits, ?_, Nat.le_of_eq length⟩
    rw [length]
    exact Nat.le_of_lt inside
  · rw [List.length_singleton]
    omega
  · apply Windows.last
    · rw [ne_eq, List.drop_eq_nil_iff]
      exact Nat.not_le.mpr inside
    · rw [List.length_drop]
      omega

theorem Advances.further (fits : start.toNat + size.toNat < UInt64.size)
    (stepFits : start.toNat + step.toNat < UInt64.size) (positive : 1 ≤ step.toNat)
    (further : start.toNat + size.toNat < text.length) {passes : List Pass}
    (others : Advances size step text (start + step) passes) :
    Advances size step text start
      (⟨start, start + size, (text.drop start.toNat).take size.toNat⟩ :: passes) := by
  have position := Word.toNat_add stepFits
  have ahead : ∀ pass ∈ passes, start < pass.start := by
    intro pass member
    have later := others.ahead pass member
    rw [UInt64.le_iff_toNat_le] at later
    rw [UInt64.lt_iff_toNat_lt]
    omega
  refine ⟨?_, ?_, ?_, ?_, ?_⟩
  · rw [List.forall_mem_cons]
    refine ⟨⟨fits, stepFits, ?_, ?_⟩, others.safe⟩
    · rw [Word.toNat_add fits]
      exact Nat.le_add_right ..
    · rw [Word.toNat_add fits]
      exact Nat.le_of_lt further
  · rw [List.forall_mem_cons]
    exact ⟨UInt64.le_refl start, fun pass member => UInt64.le_of_lt (ahead pass member)⟩
  · exact List.pairwise_cons.mpr ⟨ahead, others.ascending⟩
  · have fewer := others.count
    rw [List.length_cons]
    omega
  · apply Windows.next
    · rw [List.length_drop]
      omega
    · rw [List.drop_drop, ← position]
      exact others.windows

/-- Passes from a position that a whole chunk can be added to.  Behind each of them but the last a
chunk still lies within the text, so the next position is such a position again. -/
theorem makePasses_run (short : text.length < memoryBound) (positive : 1 ≤ step.toNat)
    (notLonger : step.toNat ≤ size.toNat) {bound : Nat} (enough : text.length ≤ start.toNat + bound)
    (fits : start.toNat + size.toNat < UInt64.size) :
    ∃ passes, makePasses size step text bound start = .ok passes ∧
      Advances size step text start passes := by
  have length := toNat_lengthWord short
  have stepFits : start.toNat + step.toNat < UInt64.size := by omega
  induction bound generalizing start with
  | zero =>
      have behind : ¬start < lengthWord text := by
        rw [UInt64.lt_iff_toNat_lt]
        omega
      exact ⟨[], if_neg behind, advances_nil (by omega)⟩
  | succ bound induction =>
      by_cases within : start < lengthWord text
      · have inside : start.toNat < text.length := length ▸ UInt64.lt_iff_toNat_lt.mp within
        rw [makePasses, if_pos within]
        by_cases reached : text.length ≤ start.toNat + size.toNat
        · rw [makePass_of_reached short fits (Nat.le_of_lt inside) reached]
          exact ⟨_, rfl, advances_last short fits stepFits inside reached⟩
        · have further : start.toNat + size.toNat < text.length := Nat.not_le.mp reached
          have position := Word.toNat_add stepFits
          have nextFits : (start + step).toNat + size.toNat < UInt64.size := by
            rw [memoryBound] at short
            rw [UInt64.size]
            omega
          obtain ⟨passes, made, others⟩ : ∃ passes,
              makePasses size step text bound (start + step) = .ok passes ∧
                Advances size step text (start + step) passes :=
            induction (by omega) nextFits (by omega)
          refine ⟨_, ?_, others.further fits stepFits positive further⟩
          rw [makePass_of_further short fits stepFits further]
          change (makePasses size step text bound (start + step) >>= _) = _
          rw [made]
          rfl
      · have behind : text.length ≤ start.toNat := by
          rw [UInt64.lt_iff_toNat_lt] at within
          omega
        exact ⟨[], if_neg within, advances_nil behind⟩

end

namespace WordSizes

theorem toNat_overlap (sizes : WordSizes) (copyFormatter : Bool) :
    sizes.overlap.toNat = (sizes.unbounded copyFormatter).overlap := by
  have longest : (Word.subtractSaturating sizes.chunkSize 1).toNat = sizes.chunkSize.toNat - 1 :=
    Word.toNat_subtractSaturating ..
  simp only [overlap, Splitter.overlap, unbounded, UInt64.le_iff_toNat_le]
  split <;> omega

/-- The overlap is never greater than the size, so the step is a word: that of the splitter which
counts without bound. -/
theorem step_eq_ok (sizes : WordSizes) (copyFormatter : Bool) :
    ∃ step, sizes.step = .ok step ∧ step.toNat = (sizes.unbounded copyFormatter).step := by
  have overlap := sizes.toNat_overlap copyFormatter
  have smaller : sizes.overlap ≤ sizes.chunkSize := by
    rw [UInt64.le_iff_toNat_le, overlap, Splitter.overlap, unbounded]
    dsimp only
    omega
  have difference : (sizes.chunkSize - sizes.overlap).toNat =
      sizes.chunkSize.toNat - (sizes.unbounded copyFormatter).overlap := by
    rw [UInt64.toNat_sub_of_le _ _ smaller, overlap]
  have subtracted : Word.subtract sizes.chunkSize sizes.overlap =
      .ok (sizes.chunkSize - sizes.overlap) := if_pos smaller
  refine ⟨_, by rw [step, subtracted]; rfl, ?_⟩
  have one : (1 : UInt64).toNat = 1 := rfl
  have size : (sizes.unbounded copyFormatter).chunkSize = sizes.chunkSize.toNat := rfl
  rw [Splitter.step, size]
  split
  · next atLeast =>
    rw [UInt64.le_iff_toNat_le] at atLeast
    omega
  · next none =>
    rw [UInt64.le_iff_toNat_le] at none
    omega

theorem passes_eq_ok_of_ne_zero {sizes : WordSizes} (nonzero : sizes.chunkSize ≠ 0)
    (copyFormatter : Bool) {text : List Char} (short : text.length < memoryBound) {bound : Nat}
    (enough : text.length ≤ bound) :
    ∃ step passes, sizes.step = .ok step ∧ sizes.passes bound text = .ok passes ∧
      (1 ≤ step ∧ step ≤ sizes.chunkSize) ∧ Advances sizes.chunkSize step text 0 passes ∧
      passes.map (·.chunk) = (sizes.unbounded copyFormatter).chunks text := by
  obtain ⟨step, stepped, stepIs⟩ := sizes.step_eq_ok copyFormatter
  have splits : sizes.chunkSize.toNat ≠ 0 := by
    rw [ne_eq, ← UInt64.toNat_zero, UInt64.toNat_inj]
    exact nonzero
  have parts : (sizes.unbounded copyFormatter).step + (sizes.unbounded copyFormatter).overlap =
      sizes.chunkSize.toNat :=
    step_add_overlap (Nat.one_le_iff_ne_zero.mpr splits)
  have positive : 0 < (sizes.unbounded copyFormatter).step := Nat.le_max_left ..
  have first : (0 : UInt64).toNat = 0 := rfl
  have sizeBound : sizes.chunkSize.toNat < UInt64.size := sizes.chunkSize.toNat_lt_size
  obtain ⟨passes, made, advances⟩ : ∃ passes,
      makePasses sizes.chunkSize step text bound 0 = .ok passes ∧
        Advances sizes.chunkSize step text 0 passes :=
    makePasses_run short (by omega) (by omega) (by omega) (by omega)
  refine ⟨step, passes, stepped, ?_, ⟨?_, ?_⟩, advances, ?_⟩
  · rw [WordSizes.passes, if_neg nonzero, stepped]
    exact made
  · rw [UInt64.le_iff_toNat_le, UInt64.toNat_one]
    omega
  · rw [UInt64.le_iff_toNat_le]
    omega
  · have windows := advances.windows
    rw [first, List.drop_zero, stepIs] at windows
    rw [chunks, if_neg (show (sizes.unbounded copyFormatter).chunkSize ≠ 0 from splits)]
    exact windows.unique (windows_windows positive (Nat.le_refl _))

end WordSizes

/-- Whatever the sizes are, a text that fits into memory is gone through without a fault, also if no
more passes are allowed than it has characters.  Each pass starts behind the one before it, its sums
are words and its slice lies within the text; unless the size of chunks is zero, the step is between
one and that size; and the chunks are those of the splitter that counts without bound. -/
theorem passes_eq_ok (sizes : WordSizes) (copyFormatter : Bool) (text : String)
    (short : text.length < memoryBound) {bound : Nat} (enough : text.length ≤ bound) :
    ∃ step passes,
      sizes.step = .ok step ∧ sizes.passes bound text.toList = .ok passes ∧
      passes.length ≤ text.length ∧
      passes.Pairwise (fun earlier later => earlier.start < later.start) ∧
      (∀ pass ∈ passes, pass.Safe sizes.chunkSize step text.length) ∧
      (sizes.chunkSize ≠ 0 → 1 ≤ step ∧ step ≤ sizes.chunkSize) ∧
      passes.map (fun pass => String.ofList pass.chunk) =
        (sizes.unbounded copyFormatter).splitText text := by
  by_cases nothing : sizes.chunkSize = 0
  · obtain ⟨step, stepped, -⟩ := sizes.step_eq_ok copyFormatter
    have noChunks : (sizes.unbounded copyFormatter).splitText text = [] := by
      rw [splitText, chunks, if_pos (show (sizes.unbounded copyFormatter).chunkSize = 0 from
        congrArg UInt64.toNat nothing)]
      rfl
    exact ⟨step, [], stepped, if_pos nothing, Nat.zero_le _, .nil, by simp,
      fun something => absurd nothing something, noChunks.symm⟩
  · obtain ⟨step, passes, stepped, made, stepBounds, advances, sameChunks⟩ :=
      WordSizes.passes_eq_ok_of_ne_zero nothing copyFormatter short enough
    refine ⟨step, passes, stepped, made, advances.count, advances.ascending, advances.safe,
      fun _ => stepBounds, ?_⟩
    rw [splitText, ← sameChunks, List.map_map]
    rfl

theorem passes_eq_ok_greatest :
    "abcde".length < memoryBound ∧
      (∃ step passes, WordSizes.step ⟨3, 0xFFFFFFFFFFFFFFFF⟩ = .ok step ∧
        WordSizes.passes ⟨3, 0xFFFFFFFFFFFFFFFF⟩ 5 "abcde".toList = .ok passes ∧
        passes.map (fun pass => String.ofList pass.chunk) = ["abc", "bcd", "cde"]) ∧
      ∃ step passes, WordSizes.step ⟨0xFFFFFFFFFFFFFFFF, 0xFFFFFFFFFFFFFFFF⟩ = .ok step ∧
        WordSizes.passes ⟨0xFFFFFFFFFFFFFFFF, 0xFFFFFFFFFFFFFFFF⟩ 5 "abcde".toList = .ok passes ∧
        passes.map (fun pass => String.ofList pass.chunk) = ["abcde"] := by
  have short : "abcde".length < memoryBound := by decide
  have enough : "abcde".length ≤ 5 := by decide
  refine ⟨short, ?_, ?_⟩
  · have expected : (WordSizes.unbounded ⟨3, 0xFFFFFFFFFFFFFFFF⟩ true).splitText "abcde" =
        ["abc", "bcd", "cde"] := by decide +kernel
    obtain ⟨step, passes, stepped, made, -, -, -, -, same⟩ :=
      passes_eq_ok ⟨3, 0xFFFFFFFFFFFFFFFF⟩ true "abcde" short enough
    exact ⟨step, passes, stepped, made, same.trans expected⟩
  · have expected : (WordSizes.unbounded ⟨0xFFFFFFFFFFFFFFFF, 0xFFFFFFFFFFFFFFFF⟩
        true).splitText "abcde" = ["abcde"] := by decide +kernel
    obtain ⟨step, passes, stepped, made, -, -, -, -, same⟩ :=
      passes_eq_ok ⟨0xFFFFFFFFFFFFFFFF, 0xFFFFFFFFFFFFFFFF⟩ true "abcde" short enough
    exact ⟨step, passes, stepped, made, same.trans expected⟩

end Splitter

end Corpus
