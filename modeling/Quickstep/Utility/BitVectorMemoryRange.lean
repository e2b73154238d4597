import Quickstep.Utility.BitVectorMemorySafety
import Quickstep.Utility.BitVectorRefinement

/-!
# Calls within the memory of a BitVector

The public member functions over the guarded word operations. Every call that meets its debug
assertions has a result, and then the result of the unguarded function, under a condition on its
arguments; the functions that only read have none.
-/

namespace Quickstep.Utility
open Quickstep.Lib

variable {e : Bool} {n : Nat}

/-- The width that bounds a shift of a word: that of the word, or of the type it is promoted to. -/
def shiftWidth (promoted : Bool) (w : Nat) : Nat := if promoted then max w 32 else w

namespace BitVector

/-- Apply the matching guarded version of a member function. -/
def updateM (b : BitVector e n) (onShort : BitVec (shortWidth n) → Exec (BitVec (shortWidth n)))
    (onRegular : WordMemory 64 → Exec (WordMemory 64)) : Exec (BitVector e n) :=
  match b with
  | short h word => (onShort word).map (short h)
  | regular h data => (onRegular data).map (regular h)

/-- Apply the matching guarded version of a member function that reads a vector of the same length. -/
def updateWithM (b other : BitVector e n)
    (onShort : BitVec (shortWidth n) → BitVec (shortWidth n) → Exec (BitVec (shortWidth n)))
    (onRegular : WordMemory 64 → WordMemory 64 → Exec (WordMemory 64)) : Exec (BitVector e n) :=
  match b, other with
  | short h word, short _ otherWord => (onShort word otherWord).map (short h)
  | regular h data, regular _ otherData => (onRegular data otherData).map (regular h)
  | short h _, regular h' _ => absurd h h'
  | regular h _, short h' _ => absurd h' h

/-- `assignFrom`: a `memcpy` of `bytesNeeded` bytes. -/
def assignFrom (b other : BitVector e n) : Exec (BitVector e n) :=
  b.updateWithM other
    (fun word otherWord => if n = 0 then pure word else Bounded.shortWord (dataArraySize n) otherWord)
    (fun data otherData =>
      Bounded.copyWords (dataArraySize n) data (dataArraySize n) otherData)

end BitVector

namespace Call

/-- The call with guarded accesses. -/
def bounded (promoted : Bool) (b : BitVector e n) : Call e n → Exec (BitVector e n) :=
  let size := dataArraySize n
  let limit := shiftWidth promoted (shortWidth n)
  fun
  | clear => b.updateM
      (fun word => if n = 0 then pure word else do
        let _ ← Bounded.shortWord size word
        return 0#_)
      (fun data => data.memsetWithin size 0 0#64 size)
  | setBit bitNum value => b.updateM
      (fun word => Bounded.setBitShortVersion size limit word bitNum value)
      (fun data => Bounded.setBitRegularVersion size data bitNum value)
  | setBitRange start range value => b.updateM
      (fun word => Bounded.setBitRangeShortVersion size limit word start range value)
      (fun data => Bounded.setBitRangeRegularVersion size data start range value)
  | setBitWord wordId value => b.updateM pure
      (fun data => Bounded.setBitWordRegularVersion size data n wordId value)
  | flipBits =>
    if n = 0 then pure b
    else b.updateM
      (fun word => do Bounded.flipLimitedBits limit (← Bounded.shortWord size word) n)
      (fun data => Bounded.flipBitsRegularVersion size data n)
  | assignFromLonger m other => b.updateM pure
      (fun data => Bounded.assignFromLongerRegularVersion size data n (dataArraySize m) other.dataArray)
  | intersectWith other => b.updateWithM other
      (fun word otherWord => if n = 0 then pure word else do
        return (← Bounded.shortWord size word) &&& (← Bounded.shortWord size otherWord))
      (fun data otherData => Bounded.combineWords size data (· &&& ·) size size otherData)
  | unsetFrom m other => b.updateM pure
      (fun data => Bounded.combineWords size data (fun word otherWord => word &&& ~~~otherWord)
        (min size (dataArraySize m)) (dataArraySize m) other.dataArray)
  | unionWith other => b.updateWithM other
      (fun word otherWord => if n = 0 then pure word else do
        return (← Bounded.shortWord size word) ||| (← Bounded.shortWord size otherWord))
      (fun data otherData => Bounded.combineWords size data (· ||| ·) size size otherData)
  | shiftTailForward tailStart distance => b.updateM
      (fun word => Bounded.shiftTailForwardShortVersion size limit word tailStart distance)
      (fun data => Bounded.shiftTailForwardRegularVersion size data tailStart distance)
  | shiftTailBackward tailStart distance => b.updateM
      (fun word => Bounded.shiftTailBackwardShortVersion size limit word tailStart distance)
      (fun data => Bounded.shiftTailBackwardRegularVersion size data n tailStart distance)

/-- The distances are of type `size_t`; the debug assertions bound the other arguments. -/
def SizeT : Call e n → Prop
  | shiftTailForward _ distance | shiftTailBackward _ distance => distance < 2 ^ 64
  | clear | setBit _ _ | setBitRange _ _ _ | setBitWord _ _ | flipBits | assignFromLonger _ _
  | intersectWith _ | unsetFrom _ _ | unionWith _ => True

/-- **The calls that stay in the memory.** A range must not end where the last word does, unless it ends
in the word it begins in the middle of; a tail must not be shifted so far that the sum of the arguments
wraps around, or past the width of a short vector. -/
def InMemory (promoted : Bool) : Call e n → Prop
  | setBitRange start range _ =>
    if ShortVersion e n then n ≠ 0
    else start + range < n ∨ n % 64 ≠ 0 ∨ (start % 64 ≠ 0 ∧ start % 64 + range ≤ 64)
  | shiftTailForward tailStart distance =>
    tailStart + distance < if ShortVersion e n then shiftWidth promoted (shortWidth n) else 2 ^ 64
  | shiftTailBackward tailStart distance =>
    if ShortVersion e n then distance < shiftWidth promoted (shortWidth n)
    else Bounded.BackwardInside n tailStart distance
  | clear | setBit _ _ | setBitWord _ _ | flipBits | assignFromLonger _ _ | intersectWith _
  | unsetFrom _ _ | unionWith _ => True

instance (promoted : Bool) : (c : Call e n) → Decidable (c.InMemory promoted)
  | setBitRange start range _ => inferInstanceAs (Decidable (if ShortVersion e n then n ≠ 0
      else start + range < n ∨ n % 64 ≠ 0 ∨ (start % 64 ≠ 0 ∧ start % 64 + range ≤ 64)))
  | shiftTailForward tailStart distance => inferInstanceAs (Decidable (tailStart + distance <
      if ShortVersion e n then shiftWidth promoted (shortWidth n) else 2 ^ 64))
  | shiftTailBackward tailStart distance => inferInstanceAs (Decidable (if ShortVersion e n then
      distance < shiftWidth promoted (shortWidth n) else Bounded.BackwardInside n tailStart distance))
  | clear | setBit _ _ | setBitWord _ _ | flipBits | assignFromLonger _ _ | intersectWith _
  | unsetFrom _ _ | unionWith _ => inferInstanceAs (Decidable True)

end Call

/-! ## Reading -/

/-- A call of a member function that changes nothing. -/
inductive Reading where
  | getBit (bitNum : Nat)
  | getBitWord (wordId : Nat)
  | any
  | all
  | onesCount
  | firstOne (position : Nat)
  | firstZero (position : Nat)
  | lastOne (position : Nat)
  | lastZero (position : Nat)

/-- What such a call returns. -/
inductive Answer where
  | flag (value : Bool)
  | word (value : BitVec 64)
  | number (value : Nat)

namespace Reading

/-- The debug assertions. -/
def Checked (e : Bool) (n : Nat) : Reading → Prop
  | getBit bitNum => bitNum < n
  | getBitWord wordId => wordId < dataArraySize n ∧ ¬ ShortVersion e n
  | firstOne position | firstZero position => position < n ∨ position = 0 ∧ n = 0
  | lastOne position | lastZero position => position = BitVector.maxPosition ∨ position ≤ n
  | any | all | onesCount => True

/-- The answer of the unguarded functions. -/
def answer (b : BitVector e n) : Reading → Answer
  | getBit bitNum => .flag (b.getBit bitNum)
  | getBitWord wordId => .word (b.dataArray wordId)
  | any => .flag b.any
  | all => .flag b.all
  | onesCount => .number b.onesCount
  | firstOne position => .number (b.firstOne position)
  | firstZero position => .number (b.firstZero position)
  | lastOne position => .number (b.lastOne position)
  | lastZero position => .number (b.lastZero position)

/-- The matching guarded version of a search. -/
def search (b : BitVector e n) (onShort : BitVec (shortWidth n) → Exec Nat)
    (onRegular : WordMemory 64 → Exec Nat) : Exec Answer :=
  match b with
  | .short _ word => (onShort word).map .number
  | .regular _ data => (onRegular data).map .number

/-- The call with guarded accesses. -/
def bounded (promoted : Bool) (b : BitVector e n) : Reading → Exec Answer :=
  let size := dataArraySize n
  let limit := shiftWidth promoted (shortWidth n)
  let nonzero (word : BitVec (shortWidth n)) : Exec Bool := do
    return (← Bounded.shortWord size word) != 0#_
  fun
  | getBit bitNum =>
    match b with
    | .short _ word => (Bounded.getBitShortVersion size limit word bitNum).map .flag
    | .regular _ data => (Bounded.getBitRegularVersion size data bitNum).map .flag
  | getBitWord wordId => (b.dataArray.load size wordId).map .word
  | any =>
    match b with
    | .short _ word => if n = 0 then pure (.flag false) else (nonzero word).map .flag
    | .regular _ data => (Bounded.anyRegularVersion size data).map .flag
  | all =>
    match b with
    | .short _ word =>
      if n = 0 then pure (.flag true) else (Bounded.allShortVersion size limit word n).map .flag
    | .regular _ data => (Bounded.allRegularVersion size data n).map .flag
  | onesCount => search b
      (fun word => if n = 0 then pure 0 else do
        return populationCount (← Bounded.shortWord size word))
      (fun data => Bounded.onesCountRegularVersion size data)
  | firstOne position =>
    if n = 0 then pure (.number 0)
    else search b (fun word => Bounded.firstOneShortVersion size limit word n position)
      (fun data => Bounded.firstOneRegularVersion size data n position)
  | firstZero position =>
    if n = 0 then pure (.number 0)
    else search b (fun word => Bounded.firstZeroShortVersion size limit word n position)
      (fun data => Bounded.firstZeroRegularVersion size data n position)
  | lastOne position =>
    let position := if position = BitVector.maxPosition then n else position
    if position = 0 then pure (.number n)
    else search b (fun word => Bounded.lastOneShortVersion size limit word n position)
      (fun data => Bounded.lastOneRegularVersion size data n position)
  | lastZero position =>
    let position := if position = BitVector.maxPosition then n else position
    if position = 0 then pure (.number n)
    else search b (fun word => Bounded.lastZeroShortVersion size limit word n position)
      (fun data => Bounded.lastZeroRegularVersion size data n position)

end Reading

/-! ## The conditions -/

section Conditions

variable {promoted : Bool}

/-- The word of a short vector that is not empty is in its array, and its shifts are limited by at least
its width. -/
theorem short_bounds (short : ShortVersion e n) (promoted : Bool) :
    n ≤ shortWidth n ∧ shortWidth n ≤ shiftWidth promoted (shortWidth n) ∧
      shiftWidth promoted (shortWidth n) < 2 ^ 32 ∧ (0 < dataArraySize n ↔ n ≠ 0) := by
  have bounds := dataArraySize_bounds n
  refine ⟨BitVector.le_shortWidth short, ?_, ?_, by omega⟩
  · unfold shiftWidth
    split <;> omega
  · have narrow : shortWidth n ≤ 32 := by
      unfold shortWidth
      split
      · omega
      · split <;> omega
    unfold shiftWidth
    split <;> omega

theorem Call.bounded_eq_short (promoted : Bool) (h : ShortVersion e n) (word : BitVec (shortWidth n))
    (c : Call e n) (checked : c.Checked) :
    c.bounded promoted (.short h word) = guarded (c.InMemory promoted) (c.apply (.short h word)) := by
  obtain ⟨fits, wide, narrow, inside⟩ := @short_bounds e n h promoted
  cases c with
  | clear =>
    refine Eq.trans ?_ (guarded_ok trivial _).symm
    simp only [bounded, BitVector.updateM, apply, BitVector.clear, BitVector.update]
    by_cases empty : n = 0
    · rw [if_pos empty, if_pos empty]
      rfl
    · rw [if_neg empty, if_neg empty, Bounded.shortWord_ok (inside.mpr empty)]
      rfl
  | setBit bitNum value =>
    have below : bitNum < n := checked
    refine Eq.trans ?_ (guarded_ok trivial _).symm
    simp only [bounded, BitVector.updateM]
    rw [Bounded.setBitShortVersion_ok (inside.mpr (by omega)) wide (by omega)]
    rfl
  | setBitRange start range value =>
    obtain ⟨start_lt, within⟩ := checked
    simp only [bounded, BitVector.updateM]
    by_cases empty : n = 0
    · have outside : ¬ (setBitRange start range value : Call e n).InMemory promoted := by
        simp only [InMemory, if_pos h]
        exact fun some => some empty
      rw [guarded_error outside, Bounded.setBitRangeShortVersion, Bounded.shortWord_error (by omega)]
      rfl
    · have within : (setBitRange start range value : Call e n).InMemory promoted := by
        simp only [InMemory, if_pos h]
        exact empty
      rw [guarded_ok within,
        Bounded.setBitRangeShortVersion_ok (inside.mpr empty) wide (by omega)]
      rfl
  | setBitWord wordId value => exact absurd h checked.2
  | flipBits =>
    refine Eq.trans ?_ (guarded_ok trivial _).symm
    simp only [bounded, BitVector.updateM, apply, BitVector.flipBits]
    by_cases empty : n = 0
    · rw [if_pos empty, if_pos empty]
      rfl
    · rw [if_neg empty, if_neg empty, Bounded.shortWord_ok (inside.mpr empty), Exec.ok_bind,
        Bounded.flipLimitedBits_ok wide fits]
      rfl
  | assignFromLonger m other =>
    obtain ⟨-, rfl⟩ := checked
    exact absurd h.1 Bool.false_ne_true
  | intersectWith other =>
    refine Eq.trans ?_ (guarded_ok trivial _).symm
    cases other with
    | regular h' data => exact absurd h h'
    | short h' otherWord =>
      simp only [bounded, BitVector.updateWithM, apply, BitVector.intersectWith, BitVector.updateWith]
      by_cases empty : n = 0
      · rw [if_pos empty, if_pos empty]
        rfl
      · rw [if_neg empty, if_neg empty, Bounded.shortWord_ok (inside.mpr empty),
          Bounded.shortWord_ok (inside.mpr empty)]
        rfl
  | unsetFrom m other =>
    obtain rfl : e = false := checked
    exact absurd h.1 Bool.false_ne_true
  | unionWith other =>
    refine Eq.trans ?_ (guarded_ok trivial _).symm
    cases other with
    | regular h' data => exact absurd h h'
    | short h' otherWord =>
      simp only [bounded, BitVector.updateWithM, apply, BitVector.unionWith, BitVector.updateWith]
      by_cases empty : n = 0
      · rw [if_pos empty, if_pos empty]
        rfl
      · rw [if_neg empty, if_neg empty, Bounded.shortWord_ok (inside.mpr empty),
          Bounded.shortWord_ok (inside.mpr empty)]
        rfl
  | shiftTailForward tailStart distance =>
    have below : tailStart < n := checked
    have condition : tailStart + distance < shiftWidth promoted (shortWidth n) ↔
        (shiftTailForward tailStart distance : Call e n).InMemory promoted := by
      simp only [InMemory, if_pos h]
    simp only [bounded, BitVector.updateM]
    rw [Bounded.shiftTailForwardShortVersion_eq (inside.mpr (by omega)) wide (by omega) narrow,
      guarded_congr condition, guarded_map]
    rfl
  | shiftTailBackward tailStart distance =>
    have below : tailStart < n := checked
    have condition : distance < shiftWidth promoted (shortWidth n) ↔
        (shiftTailBackward tailStart distance : Call e n).InMemory promoted := by
      simp only [InMemory, if_pos h]
    simp only [bounded, BitVector.updateM]
    rw [Bounded.shiftTailBackwardShortVersion_eq (inside.mpr (by omega)) wide (by omega),
      guarded_congr condition, guarded_map]
    rfl

theorem Call.bounded_eq_regular (promoted : Bool) (length : n < 2 ^ 64) (h : ¬ ShortVersion e n)
    (data : WordMemory 64) (c : Call e n) (checked : c.Checked) (arguments : c.SizeT) :
    c.bounded promoted (.regular h data) =
      guarded (c.InMemory promoted) (c.apply (.regular h data)) := by
  have bounds := dataArraySize_bounds n
  cases c with
  | clear =>
    refine Eq.trans ?_ (guarded_ok trivial _).symm
    simp only [bounded, BitVector.updateM]
    rw [WordMemory.memsetWithin_ok (by omega)]
    rfl
  | setBit bitNum value =>
    have below : bitNum < n := checked
    refine Eq.trans ?_ (guarded_ok trivial _).symm
    simp only [bounded, BitVector.updateM]
    rw [Bounded.setBitRegularVersion_ok (by omega)]
    rfl
  | setBitRange start range value =>
    obtain ⟨start_lt, within⟩ := checked
    have condition : ((start % 64 ≠ 0 ∧ start % 64 + range ≤ 64) ∨
          (start + range) / 64 < dataArraySize n) ↔
        (setBitRange start range value : Call e n).InMemory promoted := by
      simp only [InMemory, if_neg h]
      omega
    simp only [bounded, BitVector.updateM]
    rw [Bounded.setBitRangeRegularVersion_eq (by omega), guarded_congr condition, guarded_map]
    rfl
  | setBitWord wordId value =>
    refine Eq.trans ?_ (guarded_ok trivial _).symm
    simp only [bounded, BitVector.updateM]
    rw [Bounded.setBitWordRegularVersion_ok checked.1]
    rfl
  | flipBits =>
    refine Eq.trans ?_ (guarded_ok trivial _).symm
    simp only [bounded, BitVector.updateM, apply, BitVector.flipBits]
    by_cases empty : n = 0
    · rw [if_pos empty, if_pos empty]
      rfl
    · rw [if_neg empty, if_neg empty, Bounded.flipBitsRegularVersion_ok (by omega)]
      rfl
  | assignFromLonger m other =>
    obtain ⟨longer, -⟩ := checked
    have otherBounds := dataArraySize_bounds m
    refine Eq.trans ?_ (guarded_ok trivial _).symm
    simp only [bounded, BitVector.updateM]
    rw [Bounded.assignFromLongerRegularVersion_ok (by omega)]
    rfl
  | intersectWith other =>
    refine Eq.trans ?_ (guarded_ok trivial _).symm
    cases other with
    | short h' word => exact absurd h' h
    | regular h' otherData =>
      simp only [bounded, BitVector.updateWithM]
      rw [Bounded.combineWords_ok (Nat.le_refl _) (Nat.le_refl _)]
      rfl
  | unsetFrom m other =>
    refine Eq.trans ?_ (guarded_ok trivial _).symm
    simp only [bounded, BitVector.updateM]
    rw [Bounded.combineWords_ok (Nat.min_le_left _ _) (Nat.min_le_right _ _)]
    rfl
  | unionWith other =>
    refine Eq.trans ?_ (guarded_ok trivial _).symm
    cases other with
    | short h' word => exact absurd h' h
    | regular h' otherData =>
      simp only [bounded, BitVector.updateWithM]
      rw [Bounded.combineWords_ok (Nat.le_refl _) (Nat.le_refl _)]
      rfl
  | shiftTailForward tailStart distance =>
    have condition : tailStart + distance < 2 ^ 64 ↔
        (shiftTailForward tailStart distance : Call e n).InMemory promoted := by
      simp only [InMemory, if_neg h]
    simp only [bounded, BitVector.updateM]
    rw [Bounded.shiftTailForwardRegularVersion_eq checked length arguments, guarded_congr condition,
      guarded_map]
    rfl
  | shiftTailBackward tailStart distance =>
    have condition : Bounded.BackwardInside n tailStart distance ↔
        (shiftTailBackward tailStart distance : Call e n).InMemory promoted := by
      simp only [InMemory, if_neg h]
    simp only [bounded, BitVector.updateM]
    rw [Bounded.shiftTailBackwardRegularVersion_eq checked length arguments, guarded_congr condition,
      guarded_map]
    rfl

/-- **A call is guarded by its condition**, and does what the unguarded function does. -/
theorem Call.bounded_eq (promoted : Bool) (length : n < 2 ^ 64) (b : BitVector e n) (c : Call e n)
    (checked : c.Checked) (arguments : c.SizeT) :
    c.bounded promoted b = guarded (c.InMemory promoted) (c.apply b) := by
  cases b with
  | short h word => exact c.bounded_eq_short promoted h word checked
  | regular h data => exact c.bounded_eq_regular promoted length h data checked arguments

/-- The default position of the searches from behind is the length. -/
theorem lastPosition_le {position : Nat} (checked : position = BitVector.maxPosition ∨ position ≤ n) :
    (if position = BitVector.maxPosition then n else position) ≤ n := by
  split
  · exact Nat.le_refl n
  · next other => exact checked.resolve_left other

theorem Reading.bounded_eq_short (promoted : Bool) (h : ShortVersion e n)
    (word : BitVec (shortWidth n)) (r : Reading) (checked : r.Checked e n) :
    r.bounded promoted (.short h word) = .ok (r.answer (.short h word)) := by
  obtain ⟨fits, wide, narrow, inside⟩ := @short_bounds e n h promoted
  cases r with
  | getBit bitNum =>
    have below : bitNum < n := checked
    simp only [bounded]
    rw [Bounded.getBitShortVersion_ok (inside.mpr (by omega)) wide (by omega)]
    rfl
  | getBitWord wordId => exact absurd h checked.2
  | any =>
    simp only [bounded]
    by_cases empty : n = 0
    · rw [if_pos empty, answer, BitVector.any, decide_eq_false (not_not.mpr empty)]
      rfl
    · rw [if_neg empty, answer, BitVector.any, decide_eq_true empty,
        Bounded.shortWord_ok (inside.mpr empty)]
      rfl
  | all =>
    simp only [bounded]
    by_cases empty : n = 0
    · rw [if_pos empty, answer, BitVector.all, decide_eq_true empty]
      rfl
    · rw [if_neg empty, answer, BitVector.all, decide_eq_false empty,
        Bounded.allShortVersion_ok (inside.mpr empty) wide (by omega) fits]
      rfl
  | onesCount =>
    simp only [bounded, search, answer, BitVector.onesCount]
    by_cases empty : n = 0
    · rw [if_pos empty, if_pos empty]
      rfl
    · rw [if_neg empty, if_neg empty, Bounded.shortWord_ok (inside.mpr empty)]
      rfl
  | firstOne position =>
    simp only [bounded, search, answer, BitVector.firstOne]
    by_cases empty : n = 0
    · rw [if_pos empty, if_pos empty]
      rfl
    · have below : position < n := checked.resolve_right fun both => empty both.2
      rw [if_neg empty, if_neg empty,
        Bounded.firstOneShortVersion_ok (inside.mpr empty) wide (by omega)]
      rfl
  | firstZero position =>
    simp only [bounded, search, answer, BitVector.firstZero]
    by_cases empty : n = 0
    · rw [if_pos empty, if_pos empty]
      rfl
    · have below : position < n := checked.resolve_right fun both => empty both.2
      rw [if_neg empty, if_neg empty,
        Bounded.firstZeroShortVersion_ok (inside.mpr empty) wide (by omega)]
      rfl
  | lastOne position =>
    have below := lastPosition_le checked
    simp only [bounded, search, answer, BitVector.lastOne]
    generalize (if position = BitVector.maxPosition then n else position) = last at below
    by_cases start : last = 0
    · rw [if_pos start, if_pos start]
      rfl
    · rw [if_neg start, if_neg start,
        Bounded.lastOneShortVersion_ok (inside.mpr (by omega)) wide (by omega) (by omega)]
      rfl
  | lastZero position =>
    have below := lastPosition_le checked
    simp only [bounded, search, answer, BitVector.lastZero]
    generalize (if position = BitVector.maxPosition then n else position) = last at below
    by_cases start : last = 0
    · rw [if_pos start, if_pos start]
      rfl
    · rw [if_neg start, if_neg start,
        Bounded.lastZeroShortVersion_ok (inside.mpr (by omega)) wide (by omega) (by omega)]
      rfl

theorem Reading.bounded_eq_regular (promoted : Bool) (h : ¬ ShortVersion e n) (data : WordMemory 64)
    (r : Reading) (checked : r.Checked e n) :
    r.bounded promoted (.regular h data) = .ok (r.answer (.regular h data)) := by
  have bounds := dataArraySize_bounds n
  cases r with
  | getBit bitNum =>
    have below : bitNum < n := checked
    simp only [bounded]
    rw [Bounded.getBitRegularVersion_ok (by omega)]
    rfl
  | getBitWord wordId =>
    simp only [bounded]
    rw [WordMemory.load_ok checked.1]
    rfl
  | any =>
    simp only [bounded]
    rw [Bounded.anyRegularVersion_ok]
    rfl
  | all =>
    simp only [bounded]
    rw [Bounded.allRegularVersion_ok]
    rfl
  | onesCount =>
    simp only [bounded, search]
    rw [Bounded.onesCountRegularVersion_ok]
    rfl
  | firstOne position =>
    simp only [bounded, search, answer, BitVector.firstOne]
    by_cases empty : n = 0
    · rw [if_pos empty, if_pos empty]
      rfl
    · rw [if_neg empty, if_neg empty,
        Bounded.firstOneRegularVersion_ok (checked.resolve_right fun both => empty both.2)]
      rfl
  | firstZero position =>
    simp only [bounded, search, answer, BitVector.firstZero]
    by_cases empty : n = 0
    · rw [if_pos empty, if_pos empty]
      rfl
    · rw [if_neg empty, if_neg empty,
        Bounded.firstZeroRegularVersion_ok (checked.resolve_right fun both => empty both.2)]
      rfl
  | lastOne position =>
    have below := lastPosition_le checked
    simp only [bounded, search, answer, BitVector.lastOne]
    generalize (if position = BitVector.maxPosition then n else position) = last at below
    by_cases start : last = 0
    · rw [if_pos start, if_pos start]
      rfl
    · rw [if_neg start, if_neg start, Bounded.lastOneRegularVersion_ok (by omega) below]
      rfl
  | lastZero position =>
    have below := lastPosition_le checked
    simp only [bounded, search, answer, BitVector.lastZero]
    generalize (if position = BitVector.maxPosition then n else position) = last at below
    by_cases start : last = 0
    · rw [if_pos start, if_pos start]
      rfl
    · rw [if_neg start, if_neg start, Bounded.lastZeroRegularVersion_ok (by omega) below]
      rfl

/-- **Reading stays in the memory**, and answers as the unguarded functions do. -/
theorem Reading.bounded_eq (promoted : Bool) (b : BitVector e n) (r : Reading)
    (checked : r.Checked e n) : r.bounded promoted b = .ok (r.answer b) := by
  cases b with
  | short h word => exact r.bounded_eq_short promoted h word checked
  | regular h data => exact r.bounded_eq_regular promoted h data checked

theorem BitVector.assignFrom_ok (b other : BitVector e n) :
    ∃ result, b.assignFrom other = .ok result := by
  have bounds := dataArraySize_bounds n
  cases b with
  | short h word =>
    cases other with
    | regular h' data => exact absurd h h'
    | short h' otherWord =>
      unfold assignFrom
      simp only [updateWithM]
      by_cases empty : n = 0
      · rw [if_pos empty]
        exact ⟨_, rfl⟩
      · rw [if_neg empty, Bounded.shortWord_ok (by omega)]
        exact ⟨_, rfl⟩
  | regular h data =>
    cases other with
    | short h' word => exact absurd h' h
    | regular h' otherData =>
      unfold assignFrom
      simp only [updateWithM]
      rw [Bounded.copyWords_ok (Nat.le_refl _)]
      exact ⟨_, rfl⟩

end Conditions

/-! ## Exactly when a BitVector stays in its memory -/

/-- **Every index and every shift of a checked call is in range** exactly if the call meets its condition;
the member functions that only read, and `assignFrom`, have none. -/
theorem BitVector.memoryRange_iff (promoted : Bool) (length : n < 2 ^ 64) (b : BitVector e n) :
    (∀ c : Call e n, c.Checked → c.SizeT →
      ((∃ result, c.bounded promoted b = .ok result) ↔ c.InMemory promoted)) ∧
    (∀ r : Reading, r.Checked e n → ∃ answer, r.bounded promoted b = .ok answer) ∧
    ∀ other : BitVector e n, ∃ result, b.assignFrom other = .ok result := by
  refine ⟨fun c checked arguments => ?_, fun r checked => ⟨_, r.bounded_eq promoted b checked⟩,
    b.assignFrom_ok⟩
  rw [c.bounded_eq promoted length b checked arguments]
  exact guarded_eq_ok_iff

/-- The forty bits of the regular version. -/
theorem BitVector.memoryRange_iff_forty :
    40 < 2 ^ 64 ∧ (∀ c : Call true 40, c.Checked → c.SizeT →
      ((∃ result, c.bounded false fortyBits = .ok result) ↔ c.InMemory false)) ∧
    (∀ r : Reading, r.Checked true 40 → ∃ answer, r.bounded false fortyBits = .ok answer) ∧
    ∀ other : BitVector true 40, ∃ result, fortyBits.assignFrom other = .ok result :=
  ⟨by decide, BitVector.memoryRange_iff false (by decide) fortyBits⟩

/-- The whole range of one word: the word behind it is accessed. -/
theorem BitVector.not_memoryRange_wholeWord :
    ¬ ∀ (b : BitVector false 64) (c : Call false 64), c.Checked → c.SizeT →
      ∃ result, c.bounded false b = .ok result := by
  intro every
  have range : (Call.setBitRange 0 64 true : Call false 64).Checked := by decide
  obtain ⟨result, run⟩ := every (.regular (by decide) fun _ => 0) _ range trivial
  rw [Call.bounded_eq false (by decide) _ _ range trivial, guarded_error (by decide)] at run
  cases run

/-! ## The capacity of a storage -/

/-- `MaxCapacityForBytes`. -/
def maxCapacityForBytes (enableShortVersion : Bool) (numBytes : Nat) : Nat :=
  if numBytes = 0 then 0
  else if enableShortVersion ∧ 1 ≤ numBytes ∧ numBytes < 2 then 8
  else if enableShortVersion ∧ 2 ≤ numBytes ∧ numBytes < 4 then 16
  else if enableShortVersion ∧ 4 ≤ numBytes ∧ numBytes < 8 then 32
  else numBytes / 8 * 64 % 2 ^ 64

/-- Without the short version, the capacity is the bits of the whole words. -/
theorem maxCapacityForBytes_regular {numBytes : Nat} (bytes : numBytes < 2 ^ 61) :
    maxCapacityForBytes false numBytes = 64 * (numBytes / 8) := by
  simp only [maxCapacityForBytes, Bool.false_eq_true, false_and, if_false]
  split <;> omega

/-- With it, one byte, two bytes and four bytes hold the short versions. -/
theorem maxCapacityForBytes_short {numBytes : Nat} (bytes : numBytes < 2 ^ 61) :
    maxCapacityForBytes true numBytes =
      if numBytes = 0 then 0 else if numBytes = 1 then 8 else if numBytes < 4 then 16
      else if numBytes < 8 then 32 else 64 * (numBytes / 8) := by
  simp only [maxCapacityForBytes, true_and]
  split_ifs <;> omega

/-- A whole number of words holds a regular vector. -/
theorem bytesNeeded_regular (numBits : Nat) :
    bytesNeeded false numBits = 8 * ((numBits + 63) / 64) := by
  simp only [bytesNeeded, Bool.false_eq_true, false_and, if_false]
  split <;> omega

theorem bytesNeeded_short (numBits : Nat) :
    bytesNeeded true numBits =
      if numBits = 0 then 0 else if numBits < 9 then 1 else if numBits < 17 then 2
      else if numBits < 33 then 4 else 8 * ((numBits + 63) / 64) := by
  simp only [bytesNeeded, true_and]
  iterate 4 refine if_congr Iff.rfl rfl ?_
  split <;> omega

/-- **The two sizes are adjoint**: a vector fits its storage exactly if it is no longer than the
capacity of the storage. -/
theorem bytesNeeded_le_iff (enableShortVersion : Bool) {numBits numBytes : Nat}
    (bits : numBits < 2 ^ 64) (bytes : numBytes < 2 ^ 61) :
    bytesNeeded enableShortVersion numBits ≤ numBytes ↔
      numBits ≤ maxCapacityForBytes enableShortVersion numBytes := by
  cases enableShortVersion with
  | false =>
    rw [bytesNeeded_regular, maxCapacityForBytes_regular bytes]
    omega
  | true =>
    rw [bytesNeeded_short, maxCapacityForBytes_short bytes]
    -- The bytes decide which vectors fit; the bits then decide the number that is needed.
    by_cases few : numBytes < 8
    · split_ifs <;> omega
    · simp only [if_neg few, show ¬ numBytes = 0 by omega, show ¬ numBytes = 1 by omega,
        show ¬ numBytes < 4 by omega, if_false]
      split_ifs <;> omega

/-- Sixteen bits fit three bytes, and seventeen do not. -/
theorem bytesNeeded_le_iff_three :
    (16 < 2 ^ 64 ∧ 3 < 2 ^ 61 ∧ (bytesNeeded true 16 ≤ 3 ↔ 16 ≤ maxCapacityForBytes true 3)) ∧
    (17 < 2 ^ 64 ∧ 3 < 2 ^ 61 ∧ (bytesNeeded true 17 ≤ 3 ↔ 17 ≤ maxCapacityForBytes true 3)) :=
  ⟨⟨by decide, by decide, bytesNeeded_le_iff true (by decide) (by decide)⟩,
    by decide, by decide, bytesNeeded_le_iff true (by decide) (by decide)⟩

end Quickstep.Utility
