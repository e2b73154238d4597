import Quickstep.Utility.BitVectorMemory

/-!
# BitVector within its memory

Each member function stays in the data array, and then does what its unguarded version does, or it is
known exactly when it leaves the array: a range that ends where the last word ends, and tails that are
shifted too far.
-/

namespace Quickstep.Utility.Bounded
open Quickstep.Lib

/-! ## Helpers -/

section Helpers

variable {w limit size : Nat} {word : BitVec w} {start range numBits : Nat}

theorem maskBitRange_ok (wide : w ≤ limit) (inside : start < limit ∨ range = 0) :
    maskBitRange limit w start range = .ok (Utility.maskBitRange w start range) := by
  unfold maskBitRange Utility.maskBitRange
  by_cases none : range = 0
  · simp [none]
    rfl
  · have start_lt : start < limit := by omega
    by_cases large : range > w
    · by_cases empty : w = 0
      · simp [empty]
        rfl
      · simp (disch := omega) only [if_pos large, if_pos empty, shiftLeft_ok, shiftRight_ok, Exec.ok_bind]
    · simp (disch := omega) only [if_neg large, if_pos none, shiftLeft_ok, shiftRight_ok, Exec.ok_bind]

/-- A mask that is not empty is shifted. -/
theorem maskBitRange_error (wide : w ≤ limit) (outside : limit ≤ start) (word : 0 < w)
    (some : range ≠ 0) : maskBitRange limit w start range = .error .undefinedBehaviour := by
  unfold maskBitRange
  by_cases large : range > w
  · simp (disch := omega) only [if_pos large, if_pos (Nat.ne_of_gt word), shiftLeft_ok, shiftRight_error,
      Exec.ok_bind]
  · simp (disch := omega) only [if_neg large, if_pos some, shiftLeft_ok, shiftRight_error, Exec.ok_bind]

theorem flipLimitedBits_ok (wide : w ≤ limit) (inside : numBits ≤ w) :
    flipLimitedBits limit word numBits = .ok (Utility.flipLimitedBits word numBits) := by
  unfold flipLimitedBits Utility.flipLimitedBits
  by_cases none : numBits = 0
  · simp [none]
    rfl
  · simp (disch := omega) only [if_pos none, shiftLeft_ok, Exec.ok_bind]
    rfl

end Helpers

/-! ## The short version -/

section Short

variable {w limit size numBits : Nat} {word : BitVec w}

theorem shortWord_ok (nonempty : 0 < size) (word : BitVec w) : shortWord size word = .ok word :=
  guarded_ok nonempty word

theorem shortWord_error (empty : size = 0) (word : BitVec w) :
    shortWord size word = .error .undefinedBehaviour := guarded_error (by omega) word

variable (nonempty : 0 < size) (wide : w ≤ limit)
include nonempty wide

theorem getBitShortVersion_ok {bitNum : Nat} (inside : bitNum < w) :
    getBitShortVersion size limit word bitNum = .ok (Utility.getBitShortVersion word bitNum) := by
  unfold getBitShortVersion
  rw [shortWord_ok nonempty, Exec.ok_bind, shiftLeft_ok (by omega)]
  rfl

theorem setBitShortVersion_ok {bitNum : Nat} (inside : bitNum < w) (value : Bool) :
    setBitShortVersion size limit word bitNum value =
      .ok (Utility.setBitShortVersion word bitNum value) := by
  unfold setBitShortVersion
  rw [shortWord_ok nonempty, Exec.ok_bind, shiftRight_ok (by omega)]
  rfl

theorem setBitRangeShortVersion_ok {start range : Nat} (inside : start < w) (value : Bool) :
    setBitRangeShortVersion size limit word start range value =
      .ok (Utility.setBitRangeShortVersion word start range value) := by
  unfold setBitRangeShortVersion
  rw [shortWord_ok nonempty, Exec.ok_bind, maskBitRange_ok wide (by omega)]
  rfl

/-- **A short tail is shifted forward** exactly if the sum of the arguments is below the width. -/
theorem shiftTailForwardShortVersion_eq {tailStart shiftDistance : Nat} (inside : tailStart < w)
    (small : limit < 2 ^ 32) :
    shiftTailForwardShortVersion size limit word tailStart shiftDistance =
      guarded (tailStart + shiftDistance < limit)
        (Utility.shiftTailForwardShortVersion word tailStart shiftDistance) := by
  unfold shiftTailForwardShortVersion
  rw [shortWord_ok nonempty, Exec.ok_bind, maskBitRange_ok wide (by omega), Exec.ok_bind]
  by_cases fits : tailStart + shiftDistance < limit
  · rw [guarded_ok fits, Nat.mod_eq_of_lt (by omega), maskBitRange_ok wide (by omega), Exec.ok_bind]
    dsimp only
    rw [shiftLeft_ok (by omega)]
    rfl
  · rw [guarded_error fits]
    by_cases wraps : (tailStart + shiftDistance) % 2 ^ 64 < limit
    · rw [maskBitRange_ok wide (by omega), Exec.ok_bind]
      dsimp only
      rw [shiftLeft_error (by omega)]
      rfl
    · rw [maskBitRange_error wide (by omega) (by omega) (by omega)]
      rfl

/-- **A short tail is shifted backward** exactly if the distance is below the width. -/
theorem shiftTailBackwardShortVersion_eq {tailStart shiftDistance : Nat} (inside : tailStart < w) :
    shiftTailBackwardShortVersion size limit word tailStart shiftDistance =
      guarded (shiftDistance < limit)
        (Utility.shiftTailBackwardShortVersion word tailStart shiftDistance) := by
  unfold shiftTailBackwardShortVersion
  rw [shortWord_ok nonempty, Exec.ok_bind, maskBitRange_ok wide (by omega), Exec.ok_bind,
    maskBitRange_ok wide (by omega), Exec.ok_bind]
  dsimp only
  by_cases fits : shiftDistance < limit
  · rw [guarded_ok fits, shiftRight_ok fits]
    rfl
  · rw [guarded_error fits, shiftRight_error (by omega)]
    rfl

variable {position : Nat}

theorem allShortVersion_ok (some : 0 < numBits) (fits : numBits ≤ w) :
    allShortVersion size limit word numBits = .ok (Utility.allShortVersion word numBits) := by
  unfold allShortVersion
  rw [shortWord_ok nonempty, Exec.ok_bind, shiftLeft_ok (by omega)]
  rfl

theorem firstOneShortVersion_ok (inside : position < w) :
    firstOneShortVersion size limit word numBits position =
      .ok (Utility.firstOneShortVersion word numBits position) := by
  unfold firstOneShortVersion
  rw [shortWord_ok nonempty, Exec.ok_bind, shiftRight_ok (by omega)]
  rfl

theorem firstZeroShortVersion_ok (inside : position < w) :
    firstZeroShortVersion size limit word numBits position =
      .ok (Utility.firstZeroShortVersion word numBits position) := by
  unfold firstZeroShortVersion Utility.firstZeroShortVersion
  rw [shortWord_ok nonempty, Exec.ok_bind]
  by_cases start : position = 0
  · simp [start]
    rfl
  · rw [if_pos start, if_pos start, shiftLeft_ok (by omega)]
    rfl

theorem lastOneShortVersion_ok (positive : 0 < position) (inside : position ≤ w) :
    lastOneShortVersion size limit word numBits position =
      .ok (Utility.lastOneShortVersion word numBits position) := by
  unfold lastOneShortVersion
  rw [shortWord_ok nonempty, Exec.ok_bind, shiftLeft_ok (by omega)]
  rfl

theorem lastZeroShortVersion_ok (positive : 0 < position) (inside : position ≤ w) :
    lastZeroShortVersion size limit word numBits position =
      .ok (Utility.lastZeroShortVersion word numBits position) := by
  unfold lastZeroShortVersion
  rw [shortWord_ok nonempty, Exec.ok_bind, shiftLeft_ok (by omega)]
  rfl

end Short

/-! ## The regular version -/

section Regular

variable {size : Nat} {data : WordMemory 64}

theorem maskBitRange_64_ok {start range : Nat} (inside : start < 64) :
    maskBitRange 64 64 start range = .ok (Utility.maskBitRange 64 start range) :=
  maskBitRange_ok (Nat.le_refl 64) (.inl inside)

theorem getBitRegularVersion_ok {bitNum : Nat} (inside : bitNum / 64 < size) :
    getBitRegularVersion size data bitNum = .ok (Utility.getBitRegularVersion data bitNum) := by
  unfold getBitRegularVersion
  rw [WordMemory.load_ok inside, Exec.ok_bind, shiftLeft_ok (by omega)]
  rfl

theorem setMasked_ok {element : Nat} (inside : element < size) (mask : BitVec 64) (value : Bool) :
    setMasked size data element mask value = .ok (Utility.setMasked data element mask value) := by
  unfold setMasked
  rw [WordMemory.load_ok inside, Exec.ok_bind, WordMemory.store_ok inside]
  rfl

theorem setMasked_error {element : Nat} (outside : size ≤ element) (mask : BitVec 64) (value : Bool) :
    setMasked size data element mask value = .error .undefinedBehaviour := by
  unfold setMasked
  rw [WordMemory.load_error outside]
  rfl

theorem setBitRegularVersion_ok {bitNum : Nat} (inside : bitNum / 64 < size) (value : Bool) :
    setBitRegularVersion size data bitNum value =
      .ok (Utility.setBitRegularVersion data bitNum value) := by
  unfold setBitRegularVersion
  rw [shiftRight_ok (by omega), Exec.ok_bind, setMasked_ok inside]
  cases value <;> rfl

/-- The word behind the whole words of a range is accessed, even if the range ends in front of it. -/
theorem setWholeElements_eq {element range : Nat} (value : Bool) :
    setWholeElements size data element range value =
      guarded (element + range / 64 < size) (Utility.setWholeElements data element range value) := by
  unfold setWholeElements
  dsimp only
  by_cases inside : element + range / 64 < size
  · rw [guarded_ok inside, WordMemory.memsetWithin_ok (by omega), Exec.ok_bind,
      maskBitRange_64_ok (by omega), Exec.ok_bind, setMasked_ok inside]
    rfl
  · rw [guarded_error inside]
    refine guarded_bind_error ?_
    rw [maskBitRange_64_ok (by omega), Exec.ok_bind, setMasked_error (by omega)]

/-- **A range is set** exactly if it ends in its first, partial word or the word that it ends in front of
is in the array. -/
theorem setBitRangeRegularVersion_eq {start range : Nat} (inside : start % 64 ≠ 0 → start / 64 < size)
    (value : Bool) :
    setBitRangeRegularVersion size data start range value =
      guarded ((start % 64 ≠ 0 ∧ start % 64 + range ≤ 64) ∨ (start + range) / 64 < size)
        (Utility.setBitRangeRegularVersion data start range value) := by
  unfold setBitRangeRegularVersion Utility.setBitRangeRegularVersion
  dsimp only
  by_cases aligned : start % 64 = 0
  · rw [if_neg (by omega), if_neg (by omega), setWholeElements_eq]
    have same : (start / 64 + range / 64 < size) ↔
        ((start % 64 ≠ 0 ∧ start % 64 + range ≤ 64) ∨ (start + range) / 64 < size) := by omega
    exact guarded_congr same _
  · rw [if_pos aligned, if_pos aligned, maskBitRange_64_ok (by omega), Exec.ok_bind,
      setMasked_ok (inside aligned), Exec.ok_bind]
    by_cases done : range + start % 64 ≤ 64
    · rw [if_pos done, if_pos done, guarded_ok (by omega)]
      rfl
    · rw [if_neg done, if_neg done, setWholeElements_eq]
      have same : (start / 64 + 1 + (range + start % 64 - 64) / 64 < size) ↔
          ((start % 64 ≠ 0 ∧ start % 64 + range ≤ 64) ∨ (start + range) / 64 < size) := by omega
      exact guarded_congr same _

theorem setBitWordRegularVersion_ok {numBits wordId : Nat} (inside : wordId < dataArraySize numBits)
    (value : BitVec 64) :
    setBitWordRegularVersion (dataArraySize numBits) data numBits wordId value =
      .ok (Utility.setBitWordRegularVersion numBits data wordId value) := by
  unfold setBitWordRegularVersion Utility.setBitWordRegularVersion
  rw [WordMemory.store_ok inside, Exec.ok_bind]
  split
  · rw [WordMemory.load_ok inside, Exec.ok_bind, shiftLeft_ok (by omega), Exec.ok_bind,
      WordMemory.store_ok inside]
  · rfl

theorem flipBitsRegularVersion_ok {numBits : Nat} (some : 0 < numBits) :
    flipBitsRegularVersion (dataArraySize numBits) data numBits =
      .ok (Utility.flipBitsRegularVersion numBits data) := by
  have bounds := dataArraySize_bounds numBits
  have rounds : ∀ k, k < dataArraySize numBits - 1 → ∀ m : WordMemory 64,
      (do m.store (dataArraySize numBits) k (~~~(← m.load (dataArraySize numBits) k))) =
        Except.ok (m.write k (~~~m k)) := by
    intro k below m
    rw [WordMemory.load_ok (by omega), Exec.ok_bind, WordMemory.store_ok (by omega)]
  unfold flipBitsRegularVersion Utility.flipBitsRegularVersion
  dsimp only
  rw [forUpToM_ok rounds, Exec.ok_bind, WordMemory.load_ok (by omega), Exec.ok_bind,
    flipLimitedBits_ok (Nat.le_refl 64) (by omega), Exec.ok_bind, WordMemory.store_ok (by omega)]

theorem maskLastWord_ok {numBits : Nat} :
    maskLastWord (dataArraySize numBits) data numBits = .ok (Utility.maskLastWord numBits data) := by
  have bounds := dataArraySize_bounds numBits
  unfold maskLastWord Utility.maskLastWord
  dsimp only
  split
  · rw [WordMemory.load_ok (by omega), Exec.ok_bind, maskBitRange_64_ok (by omega), Exec.ok_bind,
      WordMemory.store_ok (by omega)]
  · rfl

theorem copyWords_ok {otherSize : Nat} {other : WordMemory 64} (longer : size ≤ otherSize) :
    copyWords size data otherSize other =
      .ok (forUpTo size (fun position data => data.write position (other position)) data) := by
  refine forUpToM_ok (fun k below m => ?_) data
  rw [WordMemory.load_ok (by omega), Exec.ok_bind, WordMemory.store_ok below]

theorem assignFromLongerRegularVersion_ok {numBits otherSize : Nat} {other : WordMemory 64}
    (longer : dataArraySize numBits ≤ otherSize) :
    assignFromLongerRegularVersion (dataArraySize numBits) data numBits otherSize other =
      .ok (Utility.assignFromLongerRegularVersion numBits data other) := by
  unfold assignFromLongerRegularVersion
  rw [copyWords_ok longer, Exec.ok_bind, maskLastWord_ok]
  rfl

theorem combineWords_ok {combine : BitVec 64 → BitVec 64 → BitVec 64} {limit otherSize : Nat}
    {other : WordMemory 64} (inside : limit ≤ size) (otherInside : limit ≤ otherSize) :
    combineWords size data combine limit otherSize other =
      .ok (Utility.combineWords combine limit data other) := by
  refine forUpToM_ok (fun k below m => ?_) data
  rw [WordMemory.load_ok (by omega), Exec.ok_bind, WordMemory.load_ok (by omega), Exec.ok_bind,
    WordMemory.store_ok (by omega)]

/-! ### Reading -/

/-- The body of a loop that returns at the first word with a property. -/
theorem load_body_ok {β : Type} {arrayIdx : Nat} (inside : arrayIdx < size) (result : BitVec 64 → Option β) :
    (do return result (← data.load size arrayIdx)) =
      (Except.ok (result (data arrayIdx)) : Exec (Option β)) := by
  rw [WordMemory.load_ok inside]
  rfl

theorem isSome_findSome? {p : Nat → Prop} [DecidablePred p] (indices : List Nat) :
    (indices.findSome? fun index => if p index then some () else none).isSome =
      indices.any fun index => decide (p index) := by
  induction indices with
  | nil => rfl
  | cons index indices ih =>
    rw [List.findSome?_cons, List.any_cons]
    by_cases holds : p index
    · simp [holds]
    · simp [holds, ih]

theorem anyRegularVersion_ok :
    anyRegularVersion size data =
      .ok ((List.range size).any fun arrayIdx => data arrayIdx != 0#64) := by
  have rounds (k : Nat) (_ : 0 ≤ k) (below : k < 0 + size) :=
    @load_body_ok size data Unit k (by omega) fun word => if word ≠ 0#64 then some () else none
  unfold anyRegularVersion
  rw [forReturn_ok rounds, Exec.ok_bind, ← List.range_eq_range', isSome_findSome?]
  simp only [bne, ne_eq, decide_not, beq_eq_decide]
  rfl

theorem allRegularVersion_ok {numBits : Nat} :
    allRegularVersion (dataArraySize numBits) data numBits =
      .ok (Utility.allRegularVersion numBits data) := by
  have bounds := dataArraySize_bounds numBits
  have inside : dataArraySize numBits - (if numBits % 64 ≠ 0 then 1 else 0) ≤ dataArraySize numBits :=
    Nat.sub_le _ _
  have rounds (k : Nat) (_ : 0 ≤ k)
      (below : k < 0 + (dataArraySize numBits - if numBits % 64 ≠ 0 then 1 else 0)) :=
    @load_body_ok (dataArraySize numBits) data Unit k (by omega)
      fun word => if word ≠ BitVec.allOnes 64 then some () else none
  unfold allRegularVersion Utility.allRegularVersion
  dsimp only
  rw [forReturn_ok rounds, Exec.ok_bind, ← List.range_eq_range', isSome_findSome?]
  have missing (indices : List Nat) :
      (indices.any fun arrayIdx => decide (data arrayIdx ≠ BitVec.allOnes 64)) =
        !(indices.all fun arrayIdx => data arrayIdx == BitVec.allOnes 64) := by
    simp only [ne_eq, decide_not, beq_eq_decide, List.any_eq_not_all_not, Bool.not_not]
  rw [missing]
  cases (List.range (dataArraySize numBits - if numBits % 64 ≠ 0 then 1 else 0)).all
    fun arrayIdx => data arrayIdx == BitVec.allOnes 64 with
  | false => rfl
  | true =>
    simp only [Bool.not_true, Bool.false_eq_true, if_false, Bool.true_and]
    by_cases full : numBits % 64 = 0
    · simp [full]
      rfl
    · rw [if_neg full, WordMemory.load_ok (by omega), Exec.ok_bind, shiftLeft_ok (by omega), Exec.ok_bind]
      rw [beq_eq_false_iff_ne.mpr full, Bool.false_or]
      rfl

theorem onesCountRegularVersion_ok :
    onesCountRegularVersion size data =
      .ok (forUpTo size (fun position count => count + populationCount (data position)) 0) := by
  refine forUpToM_ok (fun k below count => ?_) 0
  rw [WordMemory.load_ok below]
  rfl

variable {numBits position : Nat}

theorem scanForward_ok {rounds arrayIdx : Nat} (inside : arrayIdx + rounds ≤ size) :
    scanForward size data numBits rounds arrayIdx =
      .ok (Utility.scanForward numBits data rounds arrayIdx) := by
  have results (k : Nat) (_ : arrayIdx ≤ k) (below : k < arrayIdx + rounds) :=
    @load_body_ok size data Nat k (by omega)
      fun word => if word ≠ 0#64 then some ((k <<< 6) ||| leadingZeroCount word) else none
  unfold scanForward
  rw [forReturn_ok results, Exec.ok_bind]
  have same : ((List.range' arrayIdx rounds).findSome? fun k =>
      if data k ≠ 0#64 then some ((k <<< 6) ||| leadingZeroCount (data k)) else none).getD numBits =
        Utility.scanForward numBits data rounds arrayIdx := by
    clear results inside
    induction rounds generalizing arrayIdx with
    | zero => rfl
    | succ rounds ih =>
      rw [List.range'_succ, List.findSome?_cons, Utility.scanForward]
      by_cases found : data arrayIdx ≠ 0#64
      · rw [if_pos found, if_pos found]
        rfl
      · rw [if_neg found, if_neg found]
        exact ih
  exact congrArg Except.ok same

theorem scanBackward_ok {arrayIdx : Nat} (inside : arrayIdx < size) :
    scanBackward size data numBits arrayIdx = .ok (Utility.scanBackward numBits data arrayIdx) := by
  induction arrayIdx with
  | zero =>
    rw [scanBackward, WordMemory.load_ok inside]
    rfl
  | succ arrayIdx ih =>
    rw [scanBackward, Utility.scanBackward, WordMemory.load_ok inside, Exec.ok_bind]
    split
    · rfl
    · exact ih (by omega)

theorem firstOneRegularVersion_ok (inside : position < numBits) :
    firstOneRegularVersion (dataArraySize numBits) data numBits position =
      .ok (Utility.firstOneRegularVersion numBits data position) := by
  have bounds := dataArraySize_bounds numBits
  unfold firstOneRegularVersion Utility.firstOneRegularVersion
  dsimp only
  split
  · rw [WordMemory.load_ok (by omega), Exec.ok_bind, shiftRight_ok (by omega), Exec.ok_bind]
    split
    · rfl
    · exact scanForward_ok (by omega)
  · exact scanForward_ok (by omega)

theorem firstZeroRegularVersion_ok (inside : position < numBits) :
    firstZeroRegularVersion (dataArraySize numBits) data numBits position =
      .ok (Utility.firstZeroRegularVersion numBits data position) := by
  have bounds := dataArraySize_bounds numBits
  unfold firstZeroRegularVersion Utility.firstZeroRegularVersion
  dsimp only
  split
  · rw [WordMemory.load_ok (by omega), Exec.ok_bind, shiftLeft_ok (by omega), Exec.ok_bind]
    split
    · rfl
    · exact scanForward_ok (by omega)
  · exact scanForward_ok (by omega)

theorem lastOneRegularVersion_ok (positive : 0 < position) (inside : position ≤ numBits) :
    lastOneRegularVersion (dataArraySize numBits) data numBits position =
      .ok (Utility.lastOneRegularVersion numBits data position) := by
  have bounds := dataArraySize_bounds numBits
  unfold lastOneRegularVersion Utility.lastOneRegularVersion
  dsimp only
  split
  · rw [WordMemory.load_ok (by omega), Exec.ok_bind, shiftLeft_ok (by omega), Exec.ok_bind]
    split
    · rfl
    · split
      · exact scanBackward_ok (by omega)
      · rfl
  · exact scanBackward_ok (by omega)

theorem lastZeroRegularVersion_ok (positive : 0 < position) (inside : position ≤ numBits) :
    lastZeroRegularVersion (dataArraySize numBits) data numBits position =
      .ok (Utility.lastZeroRegularVersion numBits data position) := by
  have bounds := dataArraySize_bounds numBits
  unfold lastZeroRegularVersion Utility.lastZeroRegularVersion
  dsimp only
  split
  · rw [WordMemory.load_ok (by omega), Exec.ok_bind, shiftLeft_ok (by omega), Exec.ok_bind]
    split
    · rfl
    · split
      · exact scanBackward_ok (by omega)
      · rfl
  · exact scanBackward_ok (by omega)

/-! ### Tail shifts -/

/-- **Whole words are moved** exactly if they are not moved away from the front: the last word that is
written would be behind the array. -/
theorem shiftWholeWords_eq {c : ShiftCursor} (source : c.srcElement ≤ size)
    (sourceWord : c.srcLowerBits ≠ 0 → c.srcElement < size) (lowerBits : c.srcLowerBits < 64)
    (small : size < 2 ^ 59) (dest : c.destElement < 2 ^ 59) :
    shiftWholeWords size c =
      guarded (c.destElement ≤ c.srcElement) (Utility.shiftWholeWords size c) := by
  unfold shiftWholeWords Utility.shiftWholeWords
  dsimp only
  by_cases aligned : c.srcLowerBits = 0
  · rw [if_neg (by omega), if_neg (by omega), wordsBetween_eq source (by omega)]
    by_cases front : c.destElement ≤ c.srcElement
    · rw [guarded_ok front, WordMemory.memmoveWithin_ok (by omega), Exec.ok_bind,
        wordsBetween_eq (by omega) (by omega), WordMemory.memsetWithin_ok (by omega)]
    · rw [guarded_error front]
      refine guarded_bind_error ?_
      have huge := @lt_wordsBetween (c.destElement + (size - c.srcElement)) size (by omega) (by omega)
      exact guarded_error (by omega) _
  · have rounds (k : Nat) (below : k < size - c.srcElement - 1) (m : WordMemory 64) :
        (do
          let high ← shiftLeft 64 (← m.load size (c.srcElement + k)) c.srcLowerBits
          let low ← shiftRight 64 (← m.load size (c.srcElement + k + 1)) (64 - c.srcLowerBits)
          m.store size (c.destElement + k) (high ||| low)) =
        guarded (c.destElement + k < size) (m.write (c.destElement + k)
          ((m (c.srcElement + k) <<< c.srcLowerBits)
            ||| (m (c.srcElement + k + 1) >>> (64 - c.srcLowerBits)))) := by
      have inside := sourceWord aligned
      rw [WordMemory.load_ok (by omega), Exec.ok_bind, shiftLeft_ok lowerBits, Exec.ok_bind,
        WordMemory.load_ok (by omega), Exec.ok_bind, shiftRight_ok (by omega), Exec.ok_bind]
      rfl
    have inside := sourceWord aligned
    rw [if_pos aligned, if_pos aligned, forUpToM_guarded rounds]
    by_cases front : c.destElement ≤ c.srcElement
    · have every : ∀ k, k < size - c.srcElement - 1 → c.destElement + k < size := by
        intro k below
        omega
      rw [guarded_ok front, guarded_ok every, Exec.ok_bind, WordMemory.load_ok (by omega), Exec.ok_bind,
        shiftLeft_ok lowerBits, Exec.ok_bind, WordMemory.store_ok (by omega), Exec.ok_bind,
        wordsBetween_eq (by omega) (by omega), WordMemory.memsetWithin_ok (by omega)]
    · rw [guarded_error front]
      refine guarded_bind_error ?_
      rw [WordMemory.load_ok (by omega), Exec.ok_bind, shiftLeft_ok lowerBits, Exec.ok_bind,
        WordMemory.store_error (by omega)]
      rfl

theorem fillFirstWord_ok {destElement destLowerBits srcElement srcLowerBits : Nat}
    (small : size < 2 ^ 59) (dest : destElement < size) (source : srcElement < size)
    (destBits : destLowerBits < 64) (sourceBits : srcLowerBits < 64) :
    fillFirstWord size data destElement destLowerBits srcElement srcLowerBits =
      .ok (Utility.fillFirstWord size data destElement destLowerBits srcElement srcLowerBits) := by
  unfold fillFirstWord Utility.fillFirstWord
  rw [WordMemory.load_ok dest, Exec.ok_bind, maskBitRange_64_ok (by omega), Exec.ok_bind]
  dsimp only
  rw [WordMemory.load_ok source, Exec.ok_bind, shiftLeft_ok sourceBits, Exec.ok_bind,
    shiftRight_ok destBits, Exec.ok_bind, WordMemory.store_ok dest, Exec.ok_bind]
  split
  · split
    · rw [wordsBetween_eq (by omega) (by omega), WordMemory.memsetWithin_ok (by omega)]
      rfl
    · rw [WordMemory.load_ok dest, Exec.ok_bind, WordMemory.load_ok (by omega), Exec.ok_bind,
        shiftRight_ok (by omega), Exec.ok_bind, WordMemory.store_ok dest]
      rfl
  · rfl

variable {tailStart shiftDistance : Nat}

/-- **A tail is shifted forward** exactly if its source does not wrap around. -/
theorem shiftTailForwardRegularVersion_eq (inside : tailStart < numBits) (length : numBits < 2 ^ 64)
    (argument : shiftDistance < 2 ^ 64) :
    shiftTailForwardRegularVersion (dataArraySize numBits) data tailStart shiftDistance =
      guarded (tailStart + shiftDistance < 2 ^ 64)
        (Utility.shiftTailForwardRegularVersion numBits data tailStart shiftDistance) := by
  have bounds := dataArraySize_bounds numBits
  unfold shiftTailForwardRegularVersion Utility.shiftTailForwardRegularVersion
  dsimp only
  by_cases still : shiftDistance = 0
  · rw [if_pos still, if_pos still, guarded_ok (by omega)]
    rfl
  rw [if_neg still, if_neg still]
  by_cases past : (tailStart + shiftDistance) % 2 ^ 64 / 64 ≥ dataArraySize numBits
  · rw [if_pos past, if_pos past, guarded_ok (by omega)]
    by_cases aligned : tailStart % 64 = 0
    · rw [if_neg (by omega), if_neg (by omega), wordsBetween_eq (by omega) (by omega),
        WordMemory.memsetWithin_ok (by omega)]
    · rw [if_pos aligned, if_pos aligned, WordMemory.load_ok (by omega), Exec.ok_bind,
        maskBitRange_64_ok (by omega), Exec.ok_bind, WordMemory.store_ok (by omega), Exec.ok_bind,
        wordsBetween_eq (by omega) (by omega), WordMemory.memsetWithin_ok (by omega)]
  · rw [if_neg past, if_neg past]
    by_cases aligned : tailStart % 64 = 0
    · rw [if_neg (by omega), if_neg (by omega),
        shiftWholeWords_eq (by dsimp only; omega) (by dsimp only; omega) (by dsimp only; omega) (by omega)
          (by dsimp only; omega)]
      have same : tailStart / 64 ≤ (tailStart + shiftDistance) % 2 ^ 64 / 64 ↔
          tailStart + shiftDistance < 2 ^ 64 := by omega
      exact guarded_congr same _
    · rw [if_pos aligned, if_pos aligned,
        fillFirstWord_ok (by omega) (by omega) (by omega) (by omega) (by omega), Exec.ok_bind]
      unfold Utility.fillFirstWord
      dsimp only
      by_cases fewer : tailStart % 64 < (tailStart + shiftDistance) % 2 ^ 64 % 64
      · simp only [if_pos fewer]
        by_cases last : (tailStart + shiftDistance) % 2 ^ 64 / 64 + 1 = dataArraySize numBits
        · simp only [if_pos last]
          rw [guarded_ok (by omega)]
          rfl
        · simp only [if_neg last]
          rw [shiftWholeWords_eq (by dsimp only; omega) (by dsimp only; omega) (by dsimp only; omega)
            (by omega) (by dsimp only; omega)]
          have same : tailStart / 64 + 1 ≤ (tailStart + shiftDistance) % 2 ^ 64 / 64 + 1 ↔
              tailStart + shiftDistance < 2 ^ 64 := by omega
          exact guarded_congr same _
      · simp only [if_neg fewer]
        rw [shiftWholeWords_eq (by dsimp only; omega) (by dsimp only; omega) (by dsimp only; omega)
          (by omega) (by dsimp only; omega)]
        have same : tailStart / 64 + 1 ≤ (tailStart + shiftDistance) % 2 ^ 64 / 64 +
            ((tailStart + shiftDistance) % 2 ^ 64 % 64 + (64 - tailStart % 64)) / 64 ↔
              tailStart + shiftDistance < 2 ^ 64 := by omega
        exact guarded_congr same _

/-- Where a shift by `shiftDistance` bits takes a tail: past the vector, to a word of the array, or by
whole words to the end of the array. -/
def BackwardInside (numBits tailStart shiftDistance : Nat) : Prop :=
  shiftDistance = 0 ∨ numBits < (tailStart + shiftDistance) % 2 ^ 64 ∨
    tailStart / 64 + shiftDistance / 64 < dataArraySize numBits ∨
    (tailStart % 64 = 0 ∧ shiftDistance % 64 = 0 ∧
      tailStart / 64 + shiftDistance / 64 = dataArraySize numBits)

instance : Decidable (BackwardInside numBits tailStart shiftDistance) :=
  inferInstanceAs (Decidable (_ ∨ _ ∨ _ ∨ (_ ∧ _ ∧ _)))

/-- A sum that does not wrap around leaves the tail inside. -/
theorem backwardInside_of_lt (inside : tailStart < numBits) (noWrap : tailStart + shiftDistance < 2 ^ 64) :
    BackwardInside numBits tailStart shiftDistance := by
  have bounds := dataArraySize_bounds numBits
  unfold BackwardInside
  omega

theorem shiftTailStart_eq {tailBits : BitVec 64} {element lowerBits shiftElements shiftBits : Nat}
    (inside : element < size) (lower : lowerBits < 64) (bits : shiftBits < 64) :
    shiftTailStart size data tailBits element lowerBits shiftElements shiftBits =
      guarded (element + shiftElements < size)
        (if shiftElements ≠ 0 then
          (if lowerBits ≠ 0 then Utility.setMasked
              (data.write (element + shiftElements) (tailBits >>> shiftBits)) element
              (Utility.maskBitRange 64 lowerBits 64) false
            else data.write (element + shiftElements) (tailBits >>> shiftBits)).memset
              (element + 1) 0#64 (shiftElements - 1)
        else if lowerBits ≠ 0 then
          data.write element ((data element &&& Utility.maskBitRange 64 0 lowerBits)
            ||| ((data element &&& Utility.maskBitRange 64 lowerBits 64) >>> shiftBits))
        else data.write element (data element >>> shiftBits)) := by
  unfold shiftTailStart
  by_cases fits : element + shiftElements < size
  · rw [guarded_ok fits]
    by_cases far : shiftElements = 0
    · have near : ¬ shiftElements ≠ 0 := fun far' => far' far
      simp only [if_neg near]
      by_cases aligned : lowerBits = 0
      · have whole : ¬ lowerBits ≠ 0 := fun partly => partly aligned
        simp only [if_neg whole]
        rw [WordMemory.load_ok inside, Exec.ok_bind,
          shiftRight_ok bits, Exec.ok_bind, WordMemory.store_ok inside]
      · simp only [if_pos aligned]
        rw [WordMemory.load_ok inside, Exec.ok_bind,
          maskBitRange_64_ok (by omega), Exec.ok_bind, maskBitRange_64_ok lower, Exec.ok_bind,
          shiftRight_ok bits, Exec.ok_bind, WordMemory.store_ok inside]
    · rw [if_pos far, if_pos far, shiftRight_ok bits, Exec.ok_bind, WordMemory.store_ok fits,
        Exec.ok_bind]
      by_cases aligned : lowerBits = 0
      · have whole : ¬ lowerBits ≠ 0 := fun partly => partly aligned
        simp only [if_neg whole]
        rw [WordMemory.memsetWithin_ok (by omega)]
      · simp only [if_pos aligned]
        rw [maskBitRange_64_ok lower, Exec.ok_bind, setMasked_ok inside,
          Exec.ok_bind, WordMemory.memsetWithin_ok (by omega)]
  · rw [guarded_error fits, if_pos (by omega), shiftRight_ok bits, Exec.ok_bind,
      WordMemory.store_error (by omega)]
    rfl

theorem shiftBackwardUnaligned_eq {element lowerBits shiftElements shiftBits : Nat}
    (inside : element < size) (lower : lowerBits < 64) (positive : 0 < shiftBits)
    (bits : shiftBits < 64) :
    shiftBackwardUnaligned size data element lowerBits shiftElements shiftBits =
      guarded (element + shiftElements < size)
        (Utility.shiftBackwardUnaligned size data element lowerBits shiftElements shiftBits) := by
  have rounds (k : Nat) (below : k < size - 1 - (element + shiftElements + 1)) (m : WordMemory 64) :
      (do
        let low ← shiftRight 64 (← m.load size (size - 1 - k - shiftElements)) shiftBits
        let high ← shiftLeft 64 (← m.load size (size - 1 - k - shiftElements - 1)) (64 - shiftBits)
        m.store size (size - 1 - k) (low ||| high)) =
      .ok (m.write (size - 1 - k) ((m (size - 1 - k - shiftElements) >>> shiftBits)
        ||| (m (size - 1 - k - shiftElements - 1) <<< (64 - shiftBits)))) := by
    rw [WordMemory.load_ok (by omega), Exec.ok_bind, shiftRight_ok bits, Exec.ok_bind,
      WordMemory.load_ok (by omega), Exec.ok_bind, shiftLeft_ok (by omega), Exec.ok_bind,
      WordMemory.store_ok (by omega)]
  unfold shiftBackwardUnaligned Utility.shiftBackwardUnaligned
  dsimp only
  rw [WordMemory.load_ok inside, Exec.ok_bind, shiftLeft_ok lower, Exec.ok_bind, shiftRight_ok lower,
    Exec.ok_bind, forUpToM_ok rounds, Exec.ok_bind]
  by_cases next : element + shiftElements + 1 < size
  · rw [if_pos next, if_pos next, WordMemory.load_ok (by omega), Exec.ok_bind, shiftRight_ok bits,
      Exec.ok_bind, shiftLeft_ok (by omega), Exec.ok_bind, WordMemory.store_ok next, Exec.ok_bind,
      shiftTailStart_eq inside lower bits]
  · rw [if_neg next, if_neg next, shiftTailStart_eq inside lower bits]

theorem shiftBackwardAligned_eq {element lowerBits shiftElements : Nat} (small : size < 2 ^ 59)
    (inside : element < size) (lower : lowerBits < 64) (positive : 0 < shiftElements)
    (near : shiftElements < 2 ^ 59) :
    shiftBackwardAligned size data element lowerBits shiftElements =
      guarded (element + shiftElements < size ∨ (lowerBits = 0 ∧ element + shiftElements = size))
        (Utility.shiftBackwardAligned size data element lowerBits shiftElements) := by
  unfold shiftBackwardAligned Utility.shiftBackwardAligned
  dsimp only
  by_cases fits : element + shiftElements ≤ size
  · rw [wordsBetween_eq fits (by omega), WordMemory.memmoveWithin_ok (by omega), Exec.ok_bind,
      ← Nat.sub_sub]
    by_cases aligned : lowerBits = 0
    · rw [if_neg (by omega), if_neg (by omega), guarded_ok (by omega),
        WordMemory.memsetWithin_ok (by omega)]
    · rw [if_pos aligned, if_pos aligned, WordMemory.load_ok inside, Exec.ok_bind,
        maskBitRange_64_ok (by omega), Exec.ok_bind, WordMemory.store_ok inside, Exec.ok_bind]
      by_cases whole : element + shiftElements = size
      · rw [guarded_error (by omega), WordMemory.load_error (by omega)]
        rfl
      · rw [guarded_ok (by omega), WordMemory.load_ok (by omega), Exec.ok_bind, maskBitRange_64_ok lower,
          Exec.ok_bind, WordMemory.store_ok (by omega), Exec.ok_bind,
          WordMemory.memsetWithin_ok (by omega)]
  · have huge := @lt_wordsBetween (element + shiftElements) size (by omega) (by omega)
    rw [guarded_error (by omega), WordMemory.memmoveWithin_error (by omega) (by omega)]
    rfl

/-- **A tail is shifted backward** exactly if it stays inside. -/
theorem shiftTailBackwardRegularVersion_eq (inside : tailStart < numBits) (length : numBits < 2 ^ 64)
    (argument : shiftDistance < 2 ^ 64) :
    shiftTailBackwardRegularVersion (dataArraySize numBits) data numBits tailStart shiftDistance =
      guarded (BackwardInside numBits tailStart shiftDistance)
        (Utility.shiftTailBackwardRegularVersion numBits data tailStart shiftDistance) := by
  have bounds := dataArraySize_bounds numBits
  unfold shiftTailBackwardRegularVersion Utility.shiftTailBackwardRegularVersion
  dsimp only
  by_cases still : shiftDistance = 0
  · rw [if_pos still, if_pos still, guarded_ok (.inl still)]
    rfl
  rw [if_neg still, if_neg still]
  by_cases past : (tailStart + shiftDistance) % 2 ^ 64 > numBits
  · rw [if_pos past, if_pos past, guarded_ok (.inr (.inl past))]
    unfold clearTail
    dsimp only
    by_cases aligned : tailStart % 64 = 0
    · have words : dataArraySize numBits - tailStart / 64 ≠ 0 := by omega
      simp only [aligned, ne_eq, not_true_eq_false, if_false, Nat.sub_zero, Nat.add_zero, if_pos words]
      rw [WordMemory.memsetWithin_ok (by omega)]
      rfl
    · have mask := @maskBitRange_64_ok (tailStart % 64) 64 (by omega)
      simp only [ne_eq, aligned, not_false_eq_true, if_true, mask]
      by_cases words : dataArraySize numBits - tailStart / 64 - 1 = 0
      · rw [if_neg (by omega), if_neg (by omega)]
        exact setMasked_ok (by omega) _ _
      · rw [if_pos words, if_pos words, WordMemory.memsetWithin_ok (by omega)]
        exact setMasked_ok (by omega) _ _
  · rw [if_neg past, if_neg past]
    by_cases aligned : shiftDistance % 64 = 0
    · rw [if_neg (by omega), if_neg (by omega),
        shiftBackwardAligned_eq (by omega) (by omega) (by omega) (by omega) (by omega)]
      have same : (tailStart / 64 + shiftDistance / 64 < dataArraySize numBits ∨
            tailStart % 64 = 0 ∧ tailStart / 64 + shiftDistance / 64 = dataArraySize numBits) ↔
          BackwardInside numBits tailStart shiftDistance := by
        unfold BackwardInside
        omega
      rw [guarded_congr same]
      unfold guarded
      split
      · rw [Exec.ok_bind, maskLastWord_ok]
      · rfl
    · rw [if_pos aligned, if_pos aligned,
        shiftBackwardUnaligned_eq (by omega) (by omega) (by omega) (by omega)]
      have same : tailStart / 64 + shiftDistance / 64 < dataArraySize numBits ↔
          BackwardInside numBits tailStart shiftDistance := by
        unfold BackwardInside
        omega
      rw [guarded_congr same]
      unfold guarded
      split
      · rw [Exec.ok_bind, maskLastWord_ok]
      · rfl

end Regular

end Quickstep.Utility.Bounded
