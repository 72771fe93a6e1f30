import Corpus.Proofs.Text.WordRuns
import Corpus.Vector.Words

/-!
# A vector counts words

The totals of a text are gathered word by word, each of which changes one bucket.  What a bucket
holds at the end is a difference of two counts of words, so neither the order of the words nor what
stands between them makes a difference.  Sums that stay at a bound are exact as long as a text has
no more words than the bound.
-/

namespace Corpus

namespace Digest

/-- The hash of some bytes as a number: every product is cut down to 64 bits. -/
def fnvNumber (bytes : Bytes) : Nat :=
  bytes.foldl (fun hash byte => (hash ^^^ byte.toNat) * 1099511628211 % UInt64.size)
    14695981039346656037

theorem toNat_fnv1a (bytes : Bytes) : (fnv1a bytes).toNat = fnvNumber bytes := by
  have step (hash : UInt64) (byte : UInt8) :
      (hash.toNat ^^^ byte.toNat) * 1099511628211 % UInt64.size =
        ((hash ^^^ byte.toUInt64) * fnvPrime).toNat := by
    rw [UInt64.toNat_mul, UInt64.toNat_xor, UInt8.toNat_toUInt64]
    rfl
  exact (List.foldl_hom UInt64.toNat step).symm

end Digest

namespace WordVector

/-- The hash of a word as it is written. -/
def hashOf (word : List Char) : Nat :=
  Digest.fnvNumber (Digest.utf8 (String.ofList word))

/-- Whether the hash of a word chooses a bucket and has the given top bit. -/
def lands (dimension bucket : Nat) (top : Bool) (word : List Char) : Bool :=
  hashOf word % dimension == bucket && (hashOf word).testBit 63 == top

theorem lands_of_chosen {dimension bucket : Nat} {word : List Char}
    (chosen : hashOf word % dimension = bucket) (top : Bool) :
    lands dimension bucket top word = ((hashOf word).testBit 63 == top) := by
  simp [lands, chosen]

theorem lands_of_not_chosen {dimension bucket : Nat} {word : List Char}
    (notChosen : hashOf word % dimension ≠ bucket) (top : Bool) :
    lands dimension bucket top word = false := by
  simp [lands, notChosen]

/-- The signs of the votes for a bucket. -/
def signs (votes : List Vote) (bucket : Nat) : List Int :=
  (votes.filter fun vote => vote.bucket == bucket).map Vote.sign

theorem signs_cons (vote : Vote) (votes : List Vote) (bucket : Nat) :
    signs (vote :: votes) bucket =
      if vote.bucket = bucket then vote.sign :: signs votes bucket else signs votes bucket := by
  by_cases same : vote.bucket = bucket <;> simp [signs, same]

theorem getElem?_foldl_castVote (add : Int → Int → Int) (votes : List Vote) (totals : List Int)
    (bucket : Nat) :
    (votes.foldl (castVote add) totals)[bucket]? =
      totals[bucket]?.map fun total => (signs votes bucket).foldl add total := by
  induction votes generalizing totals with
  | nil => simp [signs]
  | cons vote votes induction =>
      rw [List.foldl_cons, induction, castVote, List.getElem?_modify, signs_cons]
      by_cases same : vote.bucket = bucket
      · simp [same, Function.comp_def]
      · simp [same]

theorem accumulate_eq (add : Int → Int → Int) (dimension : Nat) (text : String) :
    accumulate add dimension text =
      (List.range dimension).map fun bucket =>
        (signs (votes dimension text) bucket).foldl add 0 := by
  have gathered : accumulate add dimension text =
      (votes dimension text).foldl (castVote add) (List.replicate dimension 0) := by
    rw [accumulate, Text.tokens_eq_words, votes, List.foldl_map]
  apply List.ext_getElem?
  intro bucket
  rw [gathered, getElem?_foldl_castVote, List.getElem?_map, List.getElem?_replicate]
  by_cases within : bucket < dimension
  · rw [if_pos within, List.getElem?_range within]
    rfl
  · have outside : (List.range dimension)[bucket]? = none := by simpa using within
    rw [if_neg within, outside]
    rfl

theorem totals_eq_accumulate (dimension : Nat) (text : String) :
    totals dimension text = accumulate tally dimension text :=
  (accumulate_eq tally dimension text).symm

theorem testBit_top {hash : Nat} (bound : hash < UInt64.size) :
    hash.testBit 63 = decide (¬hash < 0x8000000000000000) := by
  rw [UInt64.size] at bound
  rw [Nat.testBit_eq_decide_div_mod_eq]
  apply decide_eq_decide.mpr
  omega

theorem voteOf_wordHash (dimension : Nat) (word : List Char) :
    voteOf dimension (wordHash word) =
      ⟨hashOf (Text.lowercase word) % dimension,
        if (hashOf (Text.lowercase word)).testBit 63 then -1 else 1⟩ := by
  have number : (wordHash word).toNat = hashOf (Text.lowercase word) := Digest.toNat_fnv1a _
  have bound : hashOf (Text.lowercase word) < UInt64.size := number ▸ UInt64.toNat_lt_size _
  rw [voteOf, number, testBit_top bound]
  by_cases small : hashOf (Text.lowercase word) < 0x8000000000000000 <;> simp [small]

/-- What the votes of some words add up to in a bucket: the words that add to it less those that
take away from it. -/
theorem foldl_add_signs (dimension bucket : Nat) (words : List (List Char)) (start : Int) :
    (signs (words.map fun word => voteOf dimension (wordHash word)) bucket).foldl (· + ·) start =
      start + (((words.map Text.lowercase).countP (lands dimension bucket false) : Int) -
        (words.map Text.lowercase).countP (lands dimension bucket true)) := by
  induction words generalizing start with
  | nil => simp [signs]
  | cons word words induction =>
      rw [List.map_cons, List.map_cons, signs_cons, voteOf_wordHash, List.countP_cons,
        List.countP_cons]
      by_cases chosen : hashOf (Text.lowercase word) % dimension = bucket
      · rw [if_pos chosen, List.foldl_cons, induction, lands_of_chosen chosen,
          lands_of_chosen chosen]
        cases (hashOf (Text.lowercase word)).testBit 63 with
        | false =>
            simp only [BEq.rfl, beq_true, Bool.false_eq_true, ↓reduceIte]
            omega
        | true =>
            simp only [BEq.rfl, beq_false, Bool.not_true, Bool.false_eq_true, ↓reduceIte]
            omega
      · rw [if_neg chosen, induction, lands_of_not_chosen chosen, lands_of_not_chosen chosen]
        rfl

/-- Sums that stay at a bound are exact as long as there are no more signs than the bound. -/
theorem foldl_tally_eq {signs : List Int} (small : ∀ sign ∈ signs, sign.natAbs ≤ 1) {start : Int}
    (bounded : start.natAbs + signs.length ≤ totalBound) :
    signs.foldl tally start = signs.foldl (· + ·) start := by
  induction signs generalizing start with
  | nil => rfl
  | cons sign signs induction =>
      have signSmall := small sign List.mem_cons_self
      rw [List.length_cons] at bounded
      have summed : tally start sign = start + sign := by
        rw [tally]
        omega
      rw [List.foldl_cons, List.foldl_cons, summed]
      apply induction (fun other member => small other (List.mem_cons_of_mem _ member))
      omega

theorem getElem?_accumulate_add {dimension bucket : Nat} (within : bucket < dimension)
    (text : String) :
    (accumulate (· + ·) dimension text)[bucket]? =
      some ((((Text.words text).map Text.lowercase).countP (lands dimension bucket false) : Int) -
        ((Text.words text).map Text.lowercase).countP (lands dimension bucket true)) := by
  rw [accumulate_eq, List.getElem?_map, List.getElem?_range within, votes]
  exact congrArg some ((foldl_add_signs dimension bucket _ 0).trans (Int.zero_add _))

theorem length_accumulate (add : Int → Int → Int) (dimension : Nat) (text : String) :
    (accumulate add dimension text).length = dimension := by
  rw [accumulate_eq, List.length_map, List.length_range]

/-- Only how often each word occurs, in lower case, counts. -/
theorem accumulate_add_of_perm {left right : String}
    (permuted : ((Text.words left).map Text.lowercase).Perm
      ((Text.words right).map Text.lowercase)) (dimension : Nat) :
    accumulate (· + ·) dimension left = accumulate (· + ·) dimension right := by
  apply List.ext_getElem?
  intro bucket
  by_cases within : bucket < dimension
  · rw [getElem?_accumulate_add within, getElem?_accumulate_add within,
      permuted.countP_eq, permuted.countP_eq]
  · have outside (text : String) : (accumulate (· + ·) dimension text)[bucket]? = none := by
      rw [List.getElem?_eq_none_iff, length_accumulate]
      exact Nat.not_lt.mp within
    rw [outside, outside]

theorem natAbs_sign_of_mem_signs {dimension bucket : Nat} {text : String} {sign : Int}
    (member : sign ∈ signs (votes dimension text) bucket) : sign.natAbs ≤ 1 := by
  obtain ⟨vote, isVote, rfl⟩ := List.mem_map.mp member
  obtain ⟨word, -, rfl⟩ := List.mem_map.mp (List.mem_filter.mp isVote).1
  rw [voteOf_wordHash]
  dsimp only
  split <;> decide

theorem accumulate_tally_eq {text : String}
    (few : ((Text.words text).length : Int) ≤ totalBound) (dimension : Nat) :
    accumulate tally dimension text = accumulate (· + ·) dimension text := by
  rw [accumulate_eq, accumulate_eq]
  apply List.map_congr_left
  intro bucket _
  apply foldl_tally_eq
  · intro sign member
    exact natAbs_sign_of_mem_signs member
  · have fewer : (signs (votes dimension text) bucket).length ≤ (Text.words text).length := by
      rw [signs, List.length_map]
      apply Nat.le_trans (List.length_filter_le ..)
      exact Nat.le_of_eq (by rw [votes, List.length_map])
    omega

/-- Texts whose maximal runs of letters and numbers are the same in lower case, up to their order,
get the same exact totals: in each bucket the count of runs whose hash chooses it and has no top
bit, less the count of those whose hash has one.  The vector of a text is made from its totals
alone; these are the exact ones if the text has at most as many runs as a total can count, and such
texts get the same vector. -/
theorem ofText_eq_of_perm (dimension : Nat) {left right : String}
    {leftRuns rightRuns : List (List Char)} (leftAre : Text.Runs left.toList leftRuns)
    (rightAre : Text.Runs right.toList rightRuns)
    (permuted : (leftRuns.map Text.lowercase).Perm (rightRuns.map Text.lowercase)) :
    let counted := accumulate (· + ·) dimension
    counted left = counted right ∧ (counted left).length = dimension ∧
    (∀ bucket < dimension, (counted left)[bucket]? =
      some (((leftRuns.map Text.lowercase).countP (lands dimension bucket false) : Int) -
        (leftRuns.map Text.lowercase).countP (lands dimension bucket true))) ∧
    (∀ text, ofText dimension text =
      Vector.normalise ((totals dimension text).map Component.ofInt)) ∧
    ((leftRuns.length : Int) ≤ totalBound →
      totals dimension left = counted left ∧ totals dimension right = counted right ∧
        ofText dimension left = Vector.normalise ((counted left).map Component.ofInt) ∧
        ofText dimension left = ofText dimension right) := by
  intro counted
  rw [Text.runs_iff] at leftAre rightAre
  subst leftAre rightAre
  have same : counted left = counted right := accumulate_add_of_perm permuted dimension
  refine ⟨same, length_accumulate .., ?_, fun _ => rfl, ?_⟩
  · intro bucket within
    exact getElem?_accumulate_add within left
  · intro few
    have lengths := permuted.length_eq
    rw [List.length_map, List.length_map] at lengths
    have leftTotals : totals dimension left = counted left :=
      (totals_eq_accumulate dimension left).trans (accumulate_tally_eq few dimension)
    have rightTotals : totals dimension right = counted right :=
      (totals_eq_accumulate dimension right).trans
        (accumulate_tally_eq (lengths ▸ few) dimension)
    refine ⟨leftTotals, rightTotals, ?_, ?_⟩
    · rw [ofText, leftTotals]
    · rw [ofText, ofText, leftTotals, rightTotals, same]

theorem ofText_eq_of_perm_reordered :
    let left := "...the Rust, THE borrow!"
    let right := "BORROW (rust) the\nThe"
    Text.Runs left.toList ["the".toList, "Rust".toList, "THE".toList, "borrow".toList] ∧
      Text.Runs right.toList ["BORROW".toList, "rust".toList, "the".toList, "The".toList] ∧
      (["the".toList, "Rust".toList, "THE".toList, "borrow".toList].map Text.lowercase).Perm
        (["BORROW".toList, "rust".toList, "the".toList, "The".toList].map Text.lowercase) ∧
      totals 4 left = totals 4 right ∧ ofText 4 left = ofText 4 right := by
  intro left right
  have leftAre : Text.Runs left.toList
      ["the".toList, "Rust".toList, "THE".toList, "borrow".toList] :=
    Text.runs_iff.mpr (by decide +kernel)
  have rightAre : Text.Runs right.toList
      ["BORROW".toList, "rust".toList, "the".toList, "The".toList] :=
    Text.runs_iff.mpr (by decide +kernel)
  have permuted : (["the".toList, "Rust".toList, "THE".toList, "borrow".toList].map
      Text.lowercase).Perm
        (["BORROW".toList, "rust".toList, "the".toList, "The".toList].map Text.lowercase) := by
    decide +kernel
  obtain ⟨same, -, -, -, within⟩ := ofText_eq_of_perm 4 leftAre rightAre permuted
  obtain ⟨leftTotals, rightTotals, -, vectors⟩ := within (by decide)
  exact ⟨leftAre, rightAre, permuted, leftTotals.trans (same.trans rightTotals.symm), vectors⟩

end WordVector

end Corpus
