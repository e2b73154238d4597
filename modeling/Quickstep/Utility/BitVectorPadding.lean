import Quickstep.Utility.BitVectorBits

/-!
# Padding bits

Counting and searching rely on zero padding behind the last bit. Every member function restores
it except the backward shift of the short version, which shifts set bits into the padding.
-/

namespace Quickstep.Utility
open Quickstep.Lib

/-! ## The forward shift of the regular version -/

/-- No bit of the memory behind the first `n` is set, up to the end of word `last`. -/
def PadsLast (n : Nat) (data : WordMemory 64) : Prop :=
  ∀ i, n ≤ i → i / 64 = dataArraySize n - 1 → data.bit i = false

/-- A shifted copy of the last word still ends in zeros. -/
theorem PadsLast.shifted {n : Nat} {data : WordMemory 64} (clean : PadsLast n data) {i k : Nat}
    (pad : n ≤ i) (last : i / 64 = dataArraySize n - 1) :
    (data (dataArraySize n - 1)).getMsbD (i % 64 + k) = false := by
  by_cases inside : i % 64 + k < 64
  · have moved := clean (i + k) (by omega) (by omega)
    rwa [WordMemory.bit, show (i + k) / 64 = dataArraySize n - 1 by omega,
      show (i + k) % 64 = i % 64 + k by omega] at moved
  · exact BitVec.getMsbD_of_ge _ _ (by omega)

theorem PadsLast.of_last_eq {n : Nat} {data data' : WordMemory 64} (clean : PadsLast n data)
    (same : data' (dataArraySize n - 1) = data (dataArraySize n - 1)) : PadsLast n data' := by
  intro i pad last
  rw [WordMemory.bit, last, same, ← last]
  exact clean i pad last

theorem PadsLast.memset_zero {n start count : Nat} {data : WordMemory 64} (clean : PadsLast n data) :
    PadsLast n (data.memset start 0#64 count) := by
  intro i pad last
  simp only [WordMemory.bit, WordMemory.memset]
  split
  · exact BitVec.getMsbD_zero
  · exact clean i pad last

/-- Moving the whole words: only the last move and the final `memset` reach the last word. -/
theorem shiftWholeWords_padsLast {n : Nat} {c : ShiftCursor} (clean : PadsLast n c.data)
    (order : c.destElement ≤ c.srcElement)
    (inside : c.srcLowerBits ≠ 0 → c.srcElement < dataArraySize n) :
    PadsLast n (shiftWholeWords (dataArraySize n) c) := by
  simp only [shiftWholeWords]
  refine PadsLast.memset_zero ?_
  split
  · next unaligned =>
    have bound := inside unaligned
    have final : c.srcElement + (dataArraySize n - c.srcElement - 1) = dataArraySize n - 1 := by omega
    -- The rounds of the loop stay in front of the last word.
    have loop := forUpTo_invariant (n := dataArraySize n - c.srcElement - 1) (a := c.data)
      (fun k data => WordMemory.write data (c.destElement + k)
        ((data (c.srcElement + k) <<< c.srcLowerBits)
          ||| (data (c.srcElement + k + 1) >>> (64 - c.srcLowerBits))))
      (fun _ s => s (dataArraySize n - 1) = c.data (dataArraySize n - 1)) rfl
      fun k s hk inv => (WordMemory.write_other (by omega)).trans inv
    intro i pad last
    rw [WordMemory.bit_write]
    split
    · rw [BitVec.getMsbD_shiftLeft, final, loop]
      exact clean.shifted pad last
    · rw [WordMemory.bit, last, loop, ← last]
      exact clean i pad last
  · refine clean.of_last_eq ?_
    by_cases moves : c.destElement = c.srcElement ∧ c.srcElement < dataArraySize n
    · rw [WordMemory.memmove_inside (by omega) (by omega)]
      congr 1
      omega
    · exact WordMemory.memmove_outside (by omega)

/-- The partial first word of a tail that starts inside a word, when the source is behind it. -/
theorem fillFirstWord_padsLast {n : Nat} {data : WordMemory 64} (dest destLower src srcLower : Nat)
    (clean : PadsLast n data) (destBound : destLower < 64)
    (srcBound : srcLower < 64) (behind : 64 * dest + destLower < 64 * src + srcLower)
    (inside : src < dataArraySize n) :
    match fillFirstWord (dataArraySize n) data dest destLower src srcLower with
    | .inl data => PadsLast n data
    | .inr c => PadsLast n c.data ∧ c.destElement ≤ c.srcElement ∧
        (c.srcLowerBits ≠ 0 → c.srcElement < dataArraySize n) := by
  have first : PadsLast n (data.write dest ((data dest &&& maskBitRange 64 0 destLower)
      ||| ((data src <<< srcLower) >>> destLower))) := by
    intro i pad last
    rw [WordMemory.bit_write]
    split
    · next here =>
      have kept := clean i pad last
      rw [WordMemory.bit, here] at kept
      have source : src = dataArraySize n - 1 := by omega
      rw [BitVec.getMsbD_or, BitVec.getMsbD_and, kept, Bool.false_and, Bool.false_or,
        BitVec.getMsbD_ushiftRight, source, BitVec.getMsbD_shiftLeft]
      have moved := clean.shifted (k := srcLower - destLower) pad last
      by_cases before : i % 64 < destLower
      · simp [before]
      · rw [show i % 64 - destLower + srcLower = i % 64 + (srcLower - destLower) by omega, moved,
          Bool.and_false, Bool.and_false]
    · exact clean i pad last
  simp only [fillFirstWord]
  split
  · next h =>
    split at h
    · split at h
      · rw [← Sum.inl.inj h]
        exact first.memset_zero
      · cases h
    · cases h
  · next c h =>
    split at h
    · split at h
      · cases h
      · next unfinished =>
        rw [← Sum.inr.inj h]
        refine ⟨?_, by simp only; omega, fun _ => by simp only; omega⟩
        refine first.of_last_eq (WordMemory.write_other ?_)
        omega
    · rw [← Sum.inr.inj h]
      exact ⟨first, by simp only; omega, fun _ => by simp only at *; omega⟩

theorem shiftTailForward_padsLast {n tailStart shiftDistance : Nat} {data : WordMemory 64}
    (clean : PadsLast n data) (sum : tailStart + shiftDistance < 2 ^ 64) :
    PadsLast n (shiftTailForwardRegularVersion n data tailStart shiftDistance) := by
  simp only [shiftTailForwardRegularVersion, Nat.mod_eq_of_lt sum]
  split
  · exact clean
  split
  · split
    · refine PadsLast.memset_zero ?_
      intro i pad last
      rw [WordMemory.bit_write]
      split
      · next here =>
        have kept := clean i pad last
        rw [WordMemory.bit, here] at kept
        rw [BitVec.getMsbD_and, kept, Bool.false_and]
      · exact clean i pad last
    · exact clean.memset_zero
  · split
    · have filled := fillFirstWord_padsLast (tailStart / 64) (tailStart % 64)
        ((tailStart + shiftDistance) / 64) ((tailStart + shiftDistance) % 64) clean
        (Nat.mod_lt _ (by omega)) (Nat.mod_lt _ (by omega)) (by omega) (by omega)
      split
      · next h => simpa only [h] using filled
      · next h =>
        rw [h] at filled
        exact shiftWholeWords_padsLast filled.1 filled.2.1 filled.2.2
    · exact shiftWholeWords_padsLast clean (Nat.div_le_div_right (by omega)) fun _ => by
        simp only
        omega

/-! ## The backward shift of the regular version -/

theorem maskLastWord_padsLast {n : Nat} (nonempty : n ≠ 0) (data : WordMemory 64) :
    PadsLast n (maskLastWord n data) := by
  intro i pad last
  have size := dataArraySize_bounds n
  rw [bit_maskLastWord]
  by_cases hn : n % 64 = 0
  · omega
  · rw [if_pos ⟨last, hn⟩, decide_eq_false (by omega), Bool.and_false]

theorem shiftTailBackward_padsLast {n tailStart shiftDistance : Nat} {data : WordMemory 64}
    (clean : PadsLast n data) (nonempty : n ≠ 0) :
    PadsLast n (shiftTailBackwardRegularVersion n data tailStart shiftDistance) := by
  simp only [shiftTailBackwardRegularVersion]
  split
  · exact clean
  split
  · have zeroed : ∀ c : Prop, [Decidable c] → ∀ start count,
        PadsLast n (if c then data.memset start 0#64 count else data) := by
      intro c _ start count
      split
      · exact clean.memset_zero
      · exact clean
    split
    · intro i pad last
      rw [bit_setMasked]
      split
      · rfl
      · exact zeroed _ _ _ i pad last
    · exact zeroed _ _ _
  · exact maskLastWord_padsLast nonempty _

/-! ## The short version -/

section Short

variable {w : Nat} (word : BitVec w) (tailStart shiftDistance i : Nat)

theorem getMsbD_shiftTailForwardShortVersion (hi : i < w) :
    (shiftTailForwardShortVersion word tailStart shiftDistance).getMsbD i =
      if i < tailStart then word.getMsbD i else word.getMsbD (i + shiftDistance) := by
  simp only [shiftTailForwardShortVersion, BitVec.getMsbD_or, BitVec.getMsbD_and,
    BitVec.getMsbD_shiftLeft, getMsbD_maskBitRange]
  by_cases inWord : i + shiftDistance < w
  · by_cases head : i < tailStart
    · have notTail : ¬tailStart ≤ i := by omega
      simp [hi, head, notTail]
    · simp [head, inWord]
      omega
  · simp [inWord, hi]
    grind

theorem getMsbD_shiftTailBackwardShortVersion (hi : i < w) :
    (shiftTailBackwardShortVersion word tailStart shiftDistance).getMsbD i =
      ((decide (i < tailStart) && word.getMsbD i)
        || (decide (tailStart + shiftDistance ≤ i) && word.getMsbD (i - shiftDistance))) := by
  simp only [shiftTailBackwardShortVersion, BitVec.getMsbD_or, BitVec.getMsbD_and,
    BitVec.getMsbD_ushiftRight, getMsbD_maskBitRange]
  grind

end Short

/-! ## The member functions -/

/-- What a call needs to leave zero padding behind. The shift counts of the short version have to
be smaller than the width of `int`, and the sum of the arguments of a regular shift has to fit in a
`size_t`. A backward shift of the short version must not push a set bit of the tail past `n`
without pushing it out of the word. -/
def KeepsPadding {e : Bool} (n : Nat) (b : BitVector e n) : Call e n → Prop
  | .shiftTailForward tailStart distance =>
    if ShortVersion e n then tailStart + distance < 32 else tailStart + distance < 2 ^ 64
  | .shiftTailBackward tailStart distance =>
    if ShortVersion e n then
      distance < 32 ∧ ∀ i, tailStart ≤ i → i < n → b.getBit i = true →
        i + distance < n ∨ shortWidth n ≤ i + distance
    else tailStart + distance < 2 ^ 64
  | .clear | .setBit _ _ | .setBitRange _ _ _ | .setBitWord _ _ | .flipBits
  | .assignFromLonger _ _ | .intersectWith _ | .unsetFrom _ _ | .unionWith _ => True

namespace BitVector

variable {e : Bool} {n : Nat}

/-- The padding of a regular vector lies in its last word. -/
theorem paddingZero_regular {h : ¬ ShortVersion e n} {data : WordMemory 64} :
    (regular h data).PaddingZero ↔ PadsLast n data ∨ n = 0 := by
  have size := dataArraySize_bounds n
  constructor
  · intro clean
    by_cases empty : n = 0
    · exact .inr empty
    · refine .inl fun i pad last => clean i pad ?_
      rw [storage_regular h]
      omega
  · rintro (clean | empty) i pad stored
    · rw [storage_regular h] at stored
      exact clean i pad (by omega)
    · exact absurd empty (nonempty_of_storage stored)

theorem paddingZero_shiftTailForward {b : BitVector e n} (clean : b.PaddingZero)
    {tailStart distance : Nat} (checked : tailStart < n) (sum : tailStart + distance < 2 ^ 64) :
    (b.shiftTailForward tailStart distance).PaddingZero := by
  cases b with
  | short h word =>
    intro i pad stored
    have width : i < shortWidth n := by
      rw [storage_short h] at stored
      split at stored <;> omega
    have shifted := getMsbD_shiftTailForwardShortVersion word tailStart distance i width
    refine shifted.trans ?_
    rw [if_neg (by omega)]
    by_cases inWord : i + distance < shortWidth n
    · refine clean (i + distance) (by omega) ?_
      rw [storage_short h, if_neg (nonempty_of_storage stored)]
      exact inWord
    · exact BitVec.getMsbD_of_ge _ _ (by omega)
  | regular h data =>
    refine paddingZero_regular.mpr (.inl (shiftTailForward_padsLast ?_ sum))
    exact (paddingZero_regular.mp clean).resolve_right (by omega)

/-- **The backward shift of the short version** keeps the padding zero exactly when no set bit of
the tail ends up between the length and the width of the word. -/
theorem paddingZero_shiftTailBackward_short {b : BitVector e n} (clean : b.PaddingZero)
    {tailStart distance : Nat} (checked : tailStart < n) (short : ShortVersion e n) :
    (b.shiftTailBackward tailStart distance).PaddingZero ↔
      ∀ i, tailStart ≤ i → i < n → b.getBit i = true →
        i + distance < n ∨ shortWidth n ≤ i + distance := by
  cases b with
  | regular h data => exact absurd short h
  | short h word =>
    have storage : 8 * bytesNeeded e n = shortWidth n := by
      rw [storage_short h, if_neg (by omega)]
    have shifted (i : Nat) (hi : i < shortWidth n) :=
      getMsbD_shiftTailBackwardShortVersion word tailStart distance i hi
    constructor
    · intro after i lower upper set
      by_contra inPadding
      have zero := after (i + distance) (by omega) (by omega)
      simp only [shiftTailBackward, update, storedBit] at zero
      rw [getBit_eq, storedBit] at set
      rw [shifted _ (by omega), show i + distance - distance = i by omega, set] at zero
      simp only [Bool.or_eq_false_iff, Bool.and_true, decide_eq_false_iff_not] at zero
      omega
    · intro stays i pad stored
      rw [storage] at stored
      simp only [shiftTailBackward, update, storedBit]
      rw [shifted i stored, decide_eq_false (by omega), Bool.false_and, Bool.false_or]
      by_cases moved : tailStart + distance ≤ i
      · cases bit : word.getMsbD (i - distance) with
        | false => rw [Bool.and_false]
        | true =>
          by_cases inside : i - distance < n
          · have := stays (i - distance) (by omega) inside (by rw [getBit_eq]; exact bit)
            omega
          · rw [← bit]
            have := clean (i - distance) (by omega) (by omega)
            rw [storedBit] at this
            rw [this, Bool.and_false]
      · rw [decide_eq_false moved, Bool.false_and]

theorem paddingZero_shiftTailBackward {b : BitVector e n} (clean : b.PaddingZero)
    {tailStart distance : Nat} (checked : tailStart < n)
    (meets : KeepsPadding n b (.shiftTailBackward tailStart distance)) :
    (b.shiftTailBackward tailStart distance).PaddingZero := by
  by_cases short : ShortVersion e n
  · rw [KeepsPadding, if_pos short] at meets
    exact (paddingZero_shiftTailBackward_short clean checked short).mpr meets.2
  · cases b with
    | short h word => exact absurd h short
    | regular h data =>
      refine paddingZero_regular.mpr (.inl (shiftTailBackward_padsLast ?_ (by omega)))
      exact (paddingZero_regular.mp clean).resolve_right (by omega)

end BitVector

/-- **One call** that meets its condition keeps the padding zero. -/
theorem Call.paddingZero_apply {e : Bool} {n : Nat} {b : BitVector e n} (clean : b.PaddingZero)
    (c : Call e n) (checked : c.Checked) (meets : KeepsPadding n b c)
    (operand : ∀ m (other : BitVector e m), c.operand = some ⟨m, other⟩ → other.PaddingZero) :
    (c.apply b).PaddingZero := by
  cases c with
  | shiftTailForward tailStart distance =>
    refine BitVector.paddingZero_shiftTailForward clean checked ?_
    simp only [KeepsPadding] at meets
    split at meets <;> omega
  | shiftTailBackward tailStart distance =>
    exact BitVector.paddingZero_shiftTailBackward clean checked meets
  | clear => exact fun i _ stored => BitVector.storedBit_clear stored
  | setBit k value =>
    intro i pad stored
    have bound : k < n := checked
    rw [apply, BitVector.storedBit_setBit stored, if_neg (by omega)]
    exact clean i pad stored
  | setBitRange start range value =>
    intro i pad stored
    have bound : start + range ≤ n := checked.2
    rw [apply, BitVector.storedBit_setBitRange stored, if_neg (by omega)]
    exact clean i pad stored
  | setBitWord wordId value =>
    intro i pad stored
    rw [apply, BitVector.storedBit_setBitWord b checked.1 checked.2]
    split
    · rw [decide_eq_false (by omega), Bool.and_false]
    · exact clean i pad stored
  | flipBits =>
    intro i pad stored
    rw [apply, BitVector.storedBit_flipBits stored, decide_eq_false (by omega), Bool.and_false]
  | intersectWith other =>
    intro i pad stored
    rw [apply, BitVector.storedBit_intersectWith stored, clean i pad stored, Bool.false_and]
  | unionWith other =>
    intro i pad stored
    rw [apply, BitVector.storedBit_unionWith stored, clean i pad stored,
      operand n other rfl i pad stored, Bool.false_or]
  | assignFromLonger m other =>
    obtain ⟨_, rfl⟩ := checked
    intro i pad stored
    rw [apply, BitVector.storedBit_assignFromLonger b other stored, decide_eq_false (by omega),
      Bool.and_false]
  | unsetFrom m other =>
    obtain rfl : e = false := checked
    intro i pad stored
    rw [apply, BitVector.storedBit_unsetFrom b other stored, clean i pad stored, Bool.false_and]

/-- Vectors made by calls that meet their condition have zero padding. -/
theorem Built.paddingZero {e : Bool} {n : Nat} {b : BitVector e n} (built : Built KeepsPadding b) :
    b.PaddingZero := by
  induction built with
  | cleared raw => exact fun i _ stored => BitVector.storedBit_clear stored
  | call c before checked meets operand clean operandClean =>
    exact c.paddingZero_apply clean checked meets operandClean

/-! ## Runs -/

/-- Each call of the sequence is checked and meets its condition in the state it finds, and reads
only vectors made the same way. -/
def RunMeets {e : Bool} {n : Nat} (b : BitVector e n) : List (Call e n) → Prop
  | [] => True
  | c :: calls => c.Checked ∧ KeepsPadding n b c ∧
      (∀ m (other : BitVector e m), c.operand = some ⟨m, other⟩ → Built KeepsPadding other) ∧
      RunMeets (c.apply b) calls

theorem RunMeets.built {e : Bool} {n : Nat} {b : BitVector e n} {calls : List (Call e n)}
    (built : Built KeepsPadding b) (meets : RunMeets b calls) (k : Nat) :
    Built KeepsPadding (b.run (calls.take k)) := by
  induction calls generalizing b k with
  | nil => simpa [BitVector.run] using built
  | cons c calls ih =>
    obtain ⟨checked, keeps, operand, rest⟩ := meets
    cases k with
    | zero => simpa [BitVector.run] using built
    | succ k => exact ih (Built.call c built checked keeps operand) rest k

/-- **Padding in runs**: from a cleared vector, every state reached by calls that meet their
conditions has zero padding. -/
theorem run_keeps_padding_zero {e : Bool} {n : Nat} (raw : BitVector e n) (calls : List (Call e n))
    (meets : RunMeets raw.clear calls) (k : Nat) :
    (raw.clear.run (calls.take k)).PaddingZero :=
  (meets.built (Built.cleared raw) k).paddingZero

/-- A vector of four bits in the short version, stored in eight. -/
def fourBits : BitVector true 4 := .short (by decide) 0

theorem fourBits_setBit_paddingZero {k : Nat} (inside : k < 4) :
    (fourBits.setBit k true).PaddingZero := by
  intro i past stored
  rw [BitVector.storedBit_setBit stored, if_neg (by omega)]
  exact BitVec.getMsbD_zero

/-- With only the third of four bits set, the whole vector may move back by one. -/
theorem run_keeps_padding_zero_fourBits :
    RunMeets fourBits.clear [.setBit 2 true, .shiftTailBackward 0 1] ∧
      (fourBits.clear.run ([.setBit 2 true, .shiftTailBackward 0 1].take 2)).PaddingZero := by
  have stays : ∀ i, i < 4 →
      (Call.apply fourBits.clear (.setBit 2 true)).getBit i = true → i + 1 < 4 ∨ 8 ≤ i + 1 := by
    decide
  have meets : RunMeets fourBits.clear [.setBit 2 true, .shiftTailBackward 0 1] := by
    refine ⟨by decide, trivial, ?_, by decide, ⟨by decide, ?_⟩, ?_, trivial⟩
    · exact fun _ _ read => nomatch read
    · exact fun i _ => stays i
    · exact fun _ _ read => nomatch read
  exact ⟨meets, run_keeps_padding_zero fourBits _ meets 2⟩

/-- With the last of four bits set, moving back by one sets the first padding bit: the backward
shift of the short version does not mask its result. -/
theorem short_backward_shift_sets_padding :
    (∀ c ∈ [Call.setBit (e := true) (n := 4) 3 true, .shiftTailBackward 0 1], c.Checked) ∧
      ¬ (fourBits.clear.run [.setBit 3 true, .shiftTailBackward 0 1]).PaddingZero := by
  refine ⟨by decide, fun clean => ?_⟩
  have set : (fourBits.clear.run [.setBit 3 true, .shiftTailBackward 0 1]).storedBit 4 = true := by
    decide
  rw [clean 4 (by decide) (by decide)] at set
  exact Bool.false_ne_true set

end Quickstep.Utility
