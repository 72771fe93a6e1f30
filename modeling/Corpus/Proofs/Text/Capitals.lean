import Corpus.Text.Alphanumeric
import Corpus.Text.Lowercase
import Mathlib.Data.List.Chain

/-!
# The table of capitals

Every capital of the table and its small letter are letters, and no small letter is a capital
again.  To check this for the whole table at once, a set of code points is written as the bits of
one number: to look a code point up is then to read one bit.
-/

namespace Corpus

namespace CharRanges

/-- The number whose bits are the code points in some ranges. -/
def mask : CharRanges → Nat
  | [] => 0
  | (first, last) :: ranges => (1 <<< (last + 1 - first) - 1) <<< first ||| mask ranges

theorem testBit_mask (ranges : CharRanges) (code : Nat) :
    (mask ranges).testBit code = true ↔
      ∃ range ∈ ranges, range.1 ≤ code ∧ code ≤ range.2 := by
  induction ranges with
  | nil => simp [mask]
  | cons range ranges ih =>
    obtain ⟨first, last⟩ := range
    have ofRange :
        ((1 <<< (last + 1 - first) - 1) <<< first).testBit code = true ↔
          first ≤ code ∧ code ≤ last := by
      rw [Nat.testBit_shiftLeft, Nat.one_shiftLeft, Nat.testBit_two_pow_sub_one]
      simp only [Bool.and_eq_true, decide_eq_true_eq]
      omega
    simp only [mask, Nat.testBit_or, Bool.or_eq_true, ofRange, ih, List.mem_cons, exists_eq_or_imp]

/-- A range that ends before the next one starts. -/
def Before (range next : Nat × Nat) : Prop :=
  range.1 ≤ range.2 ∧ range.2 < next.1

instance (range next : Nat × Nat) : Decidable (Before range next) :=
  inferInstanceAs (Decidable (_ ∧ _))

instance : Trans Before Before Before where
  trans first second := ⟨first.1, first.2.trans (second.1.trans_lt second.2)⟩

/-- The look-up stops at the first range above the code point: it needs the ranges in order. -/
theorem covers_of_mem {ranges : CharRanges} {range : Nat × Nat} {code : Nat}
    (ascending : ranges.IsChain Before) (member : range ∈ ranges)
    (atLeast : range.1 ≤ code) (atMost : code ≤ range.2) : ranges.covers code = true := by
  induction ranges with
  | nil => cases member
  | cons head ranges ih =>
    obtain ⟨first, last⟩ := head
    rcases List.mem_cons.mp member with rfl | later
    · simp [covers, Nat.not_lt.mpr atLeast, atMost]
    · have before : Before (first, last) range := List.rel_of_pairwise_cons ascending.pairwise later
      have above : ¬code < first := by
        have := before.1
        have := before.2
        omega
      simp only [covers, above, if_false, ih ascending.tail later, ite_self]

end CharRanges

namespace Text

namespace CapitalRun

def Holds (run : CapitalRun) (code : Nat) : Prop :=
  run.first ≤ code ∧ code ≤ run.last ∧ (code - run.first) % run.step = 0

def codes (run : CapitalRun) : List Nat :=
  (List.range ((run.last - run.first) / run.step + 1)).map fun place =>
    run.first + place * run.step

/-- The small letter of a capital in the run. -/
def lowered (run : CapitalRun) (code : Nat) : Nat :=
  (code + run.shift).toNat

theorem Holds.mem_codes {run : CapitalRun} {code : Nat} (held : run.Holds code) :
    code ∈ run.codes := by
  obtain ⟨atLeast, atMost, inStep⟩ := held
  refine List.mem_map.mpr ⟨(code - run.first) / run.step, List.mem_range.mpr ?_, ?_⟩
  · exact Nat.lt_succ_of_le (Nat.div_le_div_right (Nat.sub_le_sub_right atMost _))
  · rw [Nat.div_mul_cancel (Nat.dvd_of_mod_eq_zero inStep), Nat.add_sub_cancel' atLeast]

end CapitalRun

theorem lowerCode_eq_or (code : Nat) (runs : List CapitalRun) :
    lowerCode code runs = code ∨
      ∃ run ∈ runs, run.Holds code ∧ lowerCode code runs = run.lowered code := by
  induction runs with
  | nil => exact .inl rfl
  | cons run runs ih =>
    rw [lowerCode]
    split
    · exact .inl rfl
    · split
      · split
        · exact .inr ⟨run, List.mem_cons_self, ⟨by omega, ‹_›, ‹_›⟩, rfl⟩
        · exact .inl rfl
      · rcases ih with kept | ⟨found, member, held, lower⟩
        · exact .inl kept
        · exact .inr ⟨found, List.mem_cons_of_mem _ member, held, lower⟩

/-- The capitals of the table as ranges of one code point each. -/
def capitals : CharRanges :=
  capitalRuns.flatMap fun run => run.codes.map fun code => (code, code)

theorem lowerCode_eq_self {code : Nat} (small : capitals.mask.testBit code = false) :
    lowerCode code capitalRuns = code := by
  rcases lowerCode_eq_or code capitalRuns with kept | ⟨run, member, held, -⟩
  · exact kept
  · have capital : capitals.mask.testBit code = true :=
      (capitals.testBit_mask code).mpr ⟨(code, code),
        List.mem_flatMap.mpr ⟨run, member, List.mem_map.mpr ⟨code, held.mem_codes, rfl⟩⟩,
        le_rfl, le_rfl⟩
    rw [small] at capital
    cases capital

set_option maxRecDepth 100000 in
theorem alphanumericRanges_ascending : alphanumericRanges.IsChain CharRanges.Before := by
  decide +kernel

theorem covers_alphanumericRanges {code : Nat}
    (inMask : alphanumericRanges.mask.testBit code = true) :
    alphanumericRanges.covers code = true := by
  obtain ⟨range, member, atLeast, atMost⟩ := (alphanumericRanges.testBit_mask code).mp inMask
  exact CharRanges.covers_of_mem alphanumericRanges_ascending member atLeast atMost

set_option maxRecDepth 100000 in
theorem capitals_checked : ∀ run ∈ capitalRuns, ∀ code ∈ run.codes,
    (alphanumericRanges.mask.testBit code = true ∧
      alphanumericRanges.mask.testBit (run.lowered code) = true) ∧
    capitals.mask.testBit (run.lowered code) = false ∧
    (run.lowered code).isValidChar ∧ run.lowered code ≠ 0x130 := by
  decide +kernel

/-- What the table says of a capital and its small letter. -/
structure Pairs (code lowered : Nat) : Prop where
  capital : alphanumericRanges.covers code = true
  letter : alphanumericRanges.covers lowered = true
  small : lowerCode lowered capitalRuns = lowered
  valid : lowered.isValidChar
  undotted : lowered ≠ 0x130

theorem Pairs.toNat_ofNat {code lowered : Nat} (pairs : Pairs code lowered) :
    (Char.ofNat lowered).toNat = lowered := by
  rw [Char.ofNat, dif_pos pairs.valid]
  rfl

theorem keeps_or_pairs (code : Nat) :
    lowerCode code capitalRuns = code ∨ Pairs code (lowerCode code capitalRuns) := by
  rcases lowerCode_eq_or code capitalRuns with kept | ⟨run, member, held, lower⟩
  · exact .inl kept
  · right
    obtain ⟨⟨capital, letter⟩, small, valid, undotted⟩ :=
      capitals_checked run member code held.mem_codes
    rw [lower]
    exact ⟨covers_alphanumericRanges capital, covers_alphanumericRanges letter,
      lowerCode_eq_self small, valid, undotted⟩

end Text

end Corpus
