import Mathlib.Data.List.GetD
import Quickstep.Utility.BitVectorPadding

/-!
# BitVector as a list of bits

The abstract vector is a list of Booleans, and each member function is a list update. Both
representations refine it: reading the bits after a call gives the updated list of bits.
-/

namespace Quickstep.Utility
open Quickstep.Lib

namespace Call

variable {e : Bool} {n : Nat}

/-- What a call is for, on the list of bits. -/
def applyList (bits : List Bool) : Call e n → List Bool
  | clear => List.replicate bits.length false
  | setBit bitNum value => bits.set bitNum value
  | setBitRange start range value =>
    bits.take start ++ List.replicate range value ++ bits.drop (start + range)
  | setBitWord wordId value =>
    bits.mapIdx fun i bit => if i / 64 = wordId then value.getMsbD (i % 64) else bit
  | flipBits => bits.map not
  | assignFromLonger _ other => other.toList.take bits.length
  | intersectWith other => List.zipWith and bits other.toList
  | unsetFrom _ other => bits.mapIdx fun i bit => bit && !other.toList.getD i false
  | unionWith other => List.zipWith or bits other.toList
  | shiftTailForward tailStart distance =>
    (bits.take tailStart ++ bits.drop (tailStart + distance) ++ List.replicate distance false).take
      bits.length
  | shiftTailBackward tailStart distance =>
    (bits.take tailStart ++ List.replicate distance false ++ bits.drop tailStart).take bits.length

/-- The two tail shifts. -/
def IsShift : Call e n → Prop
  | shiftTailForward _ _ | shiftTailBackward _ _ => True
  | clear | setBit _ _ | setBitRange _ _ _ | setBitWord _ _ | flipBits | assignFromLonger _ _
  | intersectWith _ | unsetFrom _ _ | unionWith _ => False

end Call

namespace BitVector

variable {e : Bool} {n : Nat}

@[simp] theorem length_toList (b : BitVector e n) : b.toList.length = n := by simp [toList]

@[simp] theorem getElem_toList (b : BitVector e n) {i : Nat} (h : i < b.toList.length) :
    b.toList[i] = b.storedBit i := by
  simp [toList, getBit_eq]

/-- Past the length of a vector with zero padding nothing is set in its storage. -/
theorem getD_toList {b : BitVector e n} (clean : b.PaddingZero) (i : Nat) :
    b.toList.getD i false = (decide (i < 8 * bytesNeeded e n) && b.storedBit i) := by
  by_cases inside : i < n
  · rw [List.getD_eq_getElem _ _ (by simpa using inside), getElem_toList,
      decide_eq_true (lt_storage inside), Bool.true_and]
  · rw [List.getD_eq_default _ _ (by simpa using inside)]
    by_cases stored : i < 8 * bytesNeeded e n
    · rw [clean i (by omega) stored, Bool.and_false]
    · rw [decide_eq_false stored, Bool.false_and]

/-- Two vectors agree as lists when they agree on the bits below their length. -/
theorem toList_eq {b : BitVector e n} {bits : List Bool} (length : bits.length = n)
    (same : ∀ i, (h : i < n) → b.storedBit i = bits[i]) : b.toList = bits := by
  apply List.ext_getElem
  · rw [length_toList, length]
  · intro i h h'
    rw [getElem_toList]
    exact same i (by rwa [length_toList] at h)

end BitVector

/-- **One call** updates the list of bits as its list-level definition says. -/
theorem Call.toList_apply {e : Bool} {n : Nat} (b : BitVector e n) (c : Call e n)
    (checked : c.Checked) (noShift : ¬ c.IsShift)
    (clean : ∀ m other, c = unsetFrom m other → other.PaddingZero) :
    (c.apply b).toList = c.applyList b.toList := by
  have stored {i : Nat} (hi : i < n) := BitVector.lt_storage (e := e) hi
  cases c with
  | shiftTailForward tailStart distance => exact absurd trivial noShift
  | shiftTailBackward tailStart distance => exact absurd trivial noShift
  | clear =>
    refine BitVector.toList_eq (by simp [applyList]) fun i hi => ?_
    simp [apply, applyList, BitVector.storedBit_clear (stored hi)]
  | setBit k value =>
    refine BitVector.toList_eq (by simp [applyList]) fun i hi => ?_
    simp [apply, applyList, BitVector.storedBit_setBit (stored hi), List.getElem_set, eq_comm]
  | setBitRange start range value =>
    have bound : start + range ≤ n := checked.2
    refine BitVector.toList_eq (by simp [applyList]; omega) fun i hi => ?_
    rw [apply, BitVector.storedBit_setBitRange (stored hi)]
    simp only [applyList, List.getElem_append, List.length_append, List.length_take,
      List.length_replicate, BitVector.length_toList, List.getElem_replicate, List.getElem_take,
      List.getElem_drop, BitVector.getElem_toList]
    grind
  | setBitWord wordId value =>
    refine BitVector.toList_eq (by simp [applyList]) fun i hi => ?_
    simp [apply, applyList, BitVector.storedBit_setBitWord b checked.1 checked.2, hi]
  | flipBits =>
    refine BitVector.toList_eq (by simp [applyList]) fun i hi => ?_
    simp [apply, applyList, BitVector.storedBit_flipBits (stored hi), hi]
  | assignFromLonger m other =>
    obtain ⟨longer, rfl⟩ := checked
    refine BitVector.toList_eq (by simp [applyList]; omega) fun i hi => ?_
    simp [apply, applyList, BitVector.storedBit_assignFromLonger b other (stored hi), hi]
  | intersectWith other =>
    refine BitVector.toList_eq (by simp [applyList]) fun i hi => ?_
    simp [apply, applyList, BitVector.storedBit_intersectWith (stored hi)]
  | unsetFrom m other =>
    obtain rfl : e = false := checked
    refine BitVector.toList_eq (by simp [applyList]) fun i hi => ?_
    simp only [apply, applyList, BitVector.storedBit_unsetFrom b other (stored hi),
      List.getElem_mapIdx, BitVector.getElem_toList, BitVector.getD_toList (clean m other rfl)]
  | unionWith other =>
    refine BitVector.toList_eq (by simp [applyList]) fun i hi => ?_
    simp [apply, applyList, BitVector.storedBit_unionWith (stored hi)]

/-- **Refinement in runs**: from any contents, a sequence of checked calls changes the bits exactly
as the same sequence of list updates. -/
theorem run_refines_list {e : Bool} {n : Nat} (b : BitVector e n) (calls : List (Call e n))
    (checked : ∀ c ∈ calls, c.Checked) (noShift : ∀ c ∈ calls, ¬ c.IsShift)
    (made : ∀ m other, Call.unsetFrom m other ∈ calls → Built KeepsPadding other) :
    (b.run calls).toList = calls.foldl Call.applyList b.toList := by
  induction calls generalizing b with
  | nil => rfl
  | cons c calls ih =>
    simp only [List.mem_cons, forall_eq_or_imp] at checked noShift
    have head : (c.apply b).toList = c.applyList b.toList :=
      c.toList_apply b checked.1 noShift.1 fun m other same =>
        (made m other (by rw [same]; exact List.mem_cons_self)).paddingZero
    have tail := ih (c.apply b) checked.2 noShift.2 fun m other read =>
      made m other (List.mem_cons_of_mem c read)
    rw [head] at tail
    exact tail

/-- Forty bits of the regular version. -/
def fortyBits : BitVector true 40 := .regular (by decide) fun _ => 0

/-- A range set across the only word of forty bits, and then flipped. -/
theorem run_refines_list_forty :
    (fortyBits.run [.setBitRange 3 30 true, .flipBits]).toList =
      [Call.setBitRange (e := true) (n := 40) 3 30 true, .flipBits].foldl Call.applyList
        fortyBits.toList :=
  run_refines_list _ _ (by decide) (by simp [Call.IsShift]) (by simp)

end Quickstep.Utility
