import Quickstep.Common.TupleIdSequenceIteration
import Quickstep.Lib.Cursor
import Quickstep.Types.TypedValue

/-!
# Iterating a ValueAccessor

The iteration of the four accessors of `types/containers`. Two of them count positions up from the
largest `std::size_t`, which wraps to the first; one adapter keeps an iterator of its
`TupleIdSequence`, the other one an index into a vector of tuple ids.
-/

namespace Quickstep.Types
open Quickstep.Common Quickstep.Utility Quickstep.Lib

/-- A `std::size_t` converted to a `tuple_id`, which is an `int`. -/
def toTupleId (position : Nat) : Int := (BitVec.ofNat 32 position).toInt

/-- `++` on a `std::size_t`. -/
def nextPosition (position : Nat) : Nat := (position + 1) % 2 ^ 64

/-! ## The accessors -/

/-- The iteration of an accessor over all positions below `size`. -/
def positionCursor (size : Nat) : Cursor Nat Int where
  initial := BitVector.maxPosition
  beginIteration _ := BitVector.maxPosition
  next position := (decide (nextPosition position < size), nextPosition position)
  iterationFinished position := decide (nextPosition position ≥ size)
  current position := if position < size then some (toTupleId position) else none

def TupleVectorValueAccessor.cursor (tuples : List Tuple) : Cursor Nat Int :=
  positionCursor tuples.length

def ColumnVectorsValueAccessor.cursor (columns : List ColumnVector) : Cursor Nat Int :=
  positionCursor (columnLength columns)

def TupleIdSequenceAdapterValueAccessor.cursor {n : Nat} (idSequence : TupleIdSequence n) :
    Cursor (TupleIdSequence.ConstIterator idSequence) Int where
  initial := idSequence.beforeBegin
  beginIteration _ := idSequence.beforeBegin
  next position := (decide (position.increment ≠ idSequence.pastEnd), position.increment)
  iterationFinished position :=
    decide (position = idSequence.pastEnd ∨ position.increment = idSequence.pastEnd)
  current position :=
    if position.currentPosition < n then some (toTupleId position.currentPosition) else none

/-- `next` only asks whether the position is the size. -/
def OrderedTupleIdSequenceAdapterValueAccessor.cursor (idSequence : List Int) : Cursor Nat Int where
  initial := BitVector.maxPosition
  beginIteration _ := BitVector.maxPosition
  next position := (decide (nextPosition position ≠ idSequence.length), nextPosition position)
  iterationFinished position := decide (nextPosition position ≥ idSequence.length)
  current position := idSequence[position]?

/-- The accessors and what they iterate over. The length of a `TupleIdSequence` is a `tuple_id`. -/
inductive IterableAccessor where
  | tupleVector (tuples : List Tuple)
  | columnVectors (columns : List ColumnVector)
  | tupleIdSequenceAdapter {n : Nat} (length : n < 2 ^ 31) (idSequence : TupleIdSequence n)
  | orderedTupleIdSequenceAdapter (idSequence : List Int)

namespace IterableAccessor

/-- The type of `current_position_`. -/
def Position : IterableAccessor → Type
  | tupleVector _ | columnVectors _ | orderedTupleIdSequenceAdapter _ => Nat
  | tupleIdSequenceAdapter _ idSequence => TupleIdSequence.ConstIterator idSequence

def cursor : (accessor : IterableAccessor) → Cursor accessor.Position Int
  | tupleVector tuples => TupleVectorValueAccessor.cursor tuples
  | columnVectors columns => ColumnVectorsValueAccessor.cursor columns
  | tupleIdSequenceAdapter _ idSequence => TupleIdSequenceAdapterValueAccessor.cursor idSequence
  | orderedTupleIdSequenceAdapter idSequence =>
    OrderedTupleIdSequenceAdapterValueAccessor.cursor idSequence

/-- `getNumTuples`, a `tuple_id`. -/
def getNumTuples : IterableAccessor → Int
  | tupleVector tuples => toTupleId tuples.length
  | columnVectors columns => toTupleId (columnLength columns)
  | tupleIdSequenceAdapter _ idSequence => toTupleId idSequence.internalBitvector.onesCount
  | orderedTupleIdSequenceAdapter idSequence => toTupleId idSequence.length

/-- The tuple ids of the accessible tuples, in the order of the iteration. -/
def accessible : IterableAccessor → List Int
  | tupleVector tuples => (List.range tuples.length).map Int.ofNat
  | columnVectors columns => (List.range (columnLength columns)).map Int.ofNat
  | tupleIdSequenceAdapter _ idSequence => idSequence.ids.map fun t => Int.ofNat t.val
  | orderedTupleIdSequenceAdapter idSequence => idSequence

/-- **The contract** of an iteration: every call answers as it has to, and as many tuples are
visited as `getNumTuples` says. -/
def Contract (accessor : IterableAccessor) (calls : List CursorCall) : Prop :=
  accessor.getNumTuples = accessor.accessible.length ∧
    accessor.cursor.RunRight accessor.accessible accessor.cursor.start calls

/-- The calls an accessor is made for, after some calls of `next` in this iteration. The adapter of
an ordered sequence must not be asked again once `next` has returned false, and a position must not
wrap a second time. -/
def Allowed (accessor : IterableAccessor) (advances : Nat) (call : CursorCall) : Prop :=
  match accessor with
  | tupleVector _ | columnVectors _ =>
    call = .next → advances < 2 ^ 64 ∨ accessor.accessible = []
  | tupleIdSequenceAdapter _ _ => True
  | orderedTupleIdSequenceAdapter idSequence =>
    call ≠ .beginIteration → advances ≤ idSequence.length

end IterableAccessor

/-! ## Counting positions -/

theorem toTupleId_eq_iff (position : Nat) : toTupleId position = position ↔ position < 2 ^ 31 := by
  rw [toTupleId, BitVec.toInt_eq_toNat_bmod, BitVec.toNat_ofNat, Int.bmod_def]
  omega

theorem maxPosition_next : nextPosition BitVector.maxPosition = 0 := rfl

theorem positionCursor_follows {size : Nat} (fits : size < 2 ^ 31) :
    (positionCursor size).Follows ((List.range size).map Int.ofNat)
      (fun k position => nextPosition position = k % 2 ^ 64 ∧ (k ≤ 2 ^ 64 ∨ size = 0))
      (fun k call => call = .next → k < 2 ^ 64 ∨ (List.range size).map Int.ofNat = []) := by
  simp only [List.map_eq_nil_iff, List.range_eq_nil]
  constructor
  · exact ⟨maxPosition_next, .inl (by omega)⟩
  · exact fun k position _ => ⟨nofun, maxPosition_next, .inl (by omega)⟩
  · rintro k position ⟨here, _⟩ permitted
    have inRange := permitted rfl
    simp only [positionCursor, here, List.length_map, List.length_range]
    refine ⟨decide_eq_decide.mpr (by omega), ⟨by rw [nextPosition]; omega, by omega⟩, fun inside => ?_⟩
    rw [Nat.mod_eq_of_lt (by omega), if_pos inside, (toTupleId_eq_iff k).mpr (by omega),
      List.getElem_map, List.getElem_range]
    rfl
  · rintro k position _ _
    simp only [positionCursor, decide_eq_true_eq, decide_eq_false_iff_not, Nat.not_lt,
      ge_iff_le]
  · rintro k position ⟨here, reached⟩ refused
    simp only [positionCursor, here, List.length_map, List.length_range]
    have wrapped : k = 2 ^ 64 ∧ size ≠ 0 := by
      constructor <;> by_contra other <;> exact refused fun _ => by omega
    rw [wrapped.1, ne_eq, decide_eq_decide]
    omega
  · exact fun k position _ refused => absurd nofun refused

theorem orderedCursor_follows {idSequence : List Int} (fits : idSequence.length < 2 ^ 31) :
    (OrderedTupleIdSequenceAdapterValueAccessor.cursor idSequence).Follows idSequence
      (fun k position => nextPosition position = k ∧ k ≤ idSequence.length + 1)
      (fun k call => call ≠ .beginIteration → k ≤ idSequence.length) := by
  constructor
  · exact ⟨maxPosition_next, by omega⟩
  · exact fun k position _ => ⟨fun other => absurd rfl other, maxPosition_next, by omega⟩
  · rintro k position ⟨here, _⟩ permitted
    have inRange := permitted nofun
    simp only [OrderedTupleIdSequenceAdapterValueAccessor.cursor, here]
    refine ⟨decide_eq_decide.mpr (by omega), ⟨by rw [nextPosition]; omega, by omega⟩, fun inside => ?_⟩
    exact List.getElem?_eq_getElem inside
  · rintro k position ⟨here, _⟩ permitted
    have inRange := permitted nofun
    simp only [OrderedTupleIdSequenceAdapterValueAccessor.cursor, here, decide_eq_true_eq,
      decide_eq_false_iff_not]
    omega
  · rintro k position ⟨here, reached⟩ refused
    have behind : ¬ k ≤ idSequence.length := fun inRange => refused fun _ => inRange
    simp only [OrderedTupleIdSequenceAdapterValueAccessor.cursor, here]
    rw [ne_eq, decide_eq_decide]
    omega
  · rintro k position ⟨here, reached⟩ refused
    have behind : ¬ k ≤ idSequence.length := fun inRange => refused fun _ => inRange
    simp only [OrderedTupleIdSequenceAdapterValueAccessor.cursor, here, decide_eq_true_eq,
      decide_eq_false_iff_not]
    omega

/-! ## The adapter of a TupleIdSequence -/

section Adapter

variable {n : Nat} {idSequence : TupleIdSequence n}

theorem onesCount_eq_length_ids (idSequence : TupleIdSequence n) :
    idSequence.internalBitvector.onesCount = idSequence.ids.length := by
  rw [BitVector.onesCount_eq idSequence.clean, BitVector.toList, List.count, List.countP_map,
    ← List.map_coe_finRange_eq_range, List.countP_map, TupleIdSequence.ids,
    ← List.countP_eq_length_filter]
  refine List.countP_congr fun t _ => ?_
  simp only [Function.comp_apply, beq_true]
  exact Iff.rfl

/-- Past the end, the iterator stays there. -/
theorem pastEnd_increment (length : n < 2 ^ 31) :
    idSequence.pastEnd.increment = idSequence.pastEnd := by
  have past : ¬ (n + 1) % 2 ^ 64 < n := by omega
  exact congrArg TupleIdSequence.ConstIterator.mk (if_neg past)

theorem adapterCursor_follows (length : n < 2 ^ 31) :
    (TupleIdSequenceAdapterValueAccessor.cursor idSequence).Follows
      (idSequence.ids.map fun t => Int.ofNat t.val)
      (fun k position => ∃ start, position.increment.IsFirstFrom start ∧
        idSequence.ids.filter (fun t => start ≤ t.val) = idSequence.ids.drop k)
      (fun _ _ => True) := by
  have isAtEnd (position : TupleIdSequence.ConstIterator idSequence) :
      position = idSequence.pastEnd ↔ position.currentPosition = n := by
    cases position
    simp [TupleIdSequence.pastEnd]
  constructor
  · refine ⟨0, ?_, by simp⟩
    exact TupleIdSequence.ConstIterator.beforeBegin_increment_isFirstFrom
  · exact fun _ _ _ => ⟨trivial, 0, TupleIdSequence.ConstIterator.beforeBegin_increment_isFirstFrom, by simp⟩
  · rintro k position ⟨start, found, rest⟩ _
    simp only [TupleIdSequenceAdapterValueAccessor.cursor, ne_eq, isAtEnd, List.length_map]
    by_cases inside : position.increment.currentPosition < n
    · rw [TupleIdSequence.ids_from_found inside found] at rest
      have remains : k < idSequence.ids.length := by
        by_contra none
        rw [List.drop_eq_nil_of_le (by omega)] at rest
        cases rest
      rw [List.drop_eq_getElem_cons remains] at rest
      obtain ⟨here, later⟩ := List.cons_eq_cons.mp rest
      refine ⟨decide_eq_decide.mpr (by omega),
        ⟨_, TupleIdSequence.ConstIterator.increment_isFirstFrom length inside, later⟩, fun _ => ?_⟩
      rw [if_pos inside, (toTupleId_eq_iff _).mpr (by omega), List.getElem_map, ← here]
      rfl
    · have missing : position.increment.currentPosition = n :=
        Nat.le_antisymm found.le_stop (Nat.le_of_not_lt inside)
      have stays : position.increment.increment = idSequence.pastEnd := by
        rw [(isAtEnd _).mpr missing]
        exact pastEnd_increment length
      rw [TupleIdSequence.ConstIterator.IsFirstFrom, missing] at found
      rw [TupleIdSequence.ids_from_missing found] at rest
      have none : idSequence.ids.length ≤ k := List.drop_eq_nil_iff.mp rest.symm
      refine ⟨decide_eq_decide.mpr (by omega), ⟨n, ?_, ?_⟩, fun some => by omega⟩
      · rw [stays]
        exact .inr ⟨rfl, fun i lower upper => by omega⟩
      · rw [List.drop_eq_nil_of_le (by omega)]
        exact List.filter_eq_nil_iff.mpr fun t _ => by simp
  · rintro k position _ _
    simp only [TupleIdSequenceAdapterValueAccessor.cursor, decide_eq_true_eq,
      decide_eq_false_iff_not, not_not]
    constructor
    · rintro (rfl | next)
      · exact pastEnd_increment length
      · exact next
    · exact .inr
  · exact fun _ _ _ refused => absurd trivial refused
  · exact fun _ _ _ refused => absurd trivial refused

end Adapter

/-! ## The contract -/

theorem length_accessible_positions (size : Nat) :
    ((List.range size).map Int.ofNat).length = size := by
  rw [List.length_map, List.length_range]

/-- The iteration of an accessor that evaluation reads columns from. -/
def ValueAccessor.iterable {n : Nat} (accessor : ValueAccessor n) (length : n < 2 ^ 31) :
    IterableAccessor :=
  match accessor.tupleIdSequence, accessor.store with
  | some idSequence, _ => .tupleIdSequenceAdapter length idSequence
  | none, .tupleVector tuples => .tupleVector tuples.toList
  | none, .columnVectors columns _ => .columnVectors columns

/-- The positions whose values make up a column are those the iteration delivers. -/
theorem ValueAccessor.accessible_iterable {n : Nat} (accessor : ValueAccessor n)
    (length : n < 2 ^ 31) :
    (accessor.iterable length).accessible = accessor.positions.map fun t => Int.ofNat t.val := by
  have everyPosition :
      (List.range n).map Int.ofNat = (List.finRange n).map fun t => Int.ofNat t.val := by
    rw [← List.map_coe_finRange_eq_range, List.map_map]
    rfl
  obtain ⟨store, idSequence⟩ := accessor
  cases idSequence with
  | some idSequence => rfl
  | none =>
    cases store with
    | tupleVector tuples =>
      simp only [iterable, IterableAccessor.accessible, Vector.length_toList]
      exact everyPosition
    | columnVectors columns columnLength =>
      simp only [iterable, IterableAccessor.accessible, columnLength]
      exact everyPosition

/-- **The contract of iteration** holds of a run exactly if the tuples can be counted by a
`tuple_id` and every call is one the accessor is made for. -/
theorem contract_iff (accessor : IterableAccessor) (calls : List CursorCall) :
    accessor.Contract calls ↔
      accessor.accessible.length < 2 ^ 31 ∧ RunAllowed accessor.Allowed 0 calls := by
  have counted (size : Nat) (run : Prop) (allowed : Prop) (same : size < 2 ^ 31 → (run ↔ allowed)) :
      toTupleId size = size ∧ run ↔ size < 2 ^ 31 ∧ allowed := by
    rw [toTupleId_eq_iff]
    exact and_congr_right same
  cases accessor with
  | tupleVector tuples =>
    simp only [IterableAccessor.Contract, IterableAccessor.getNumTuples,
      IterableAccessor.accessible, length_accessible_positions]
    exact counted _ _ _ fun fits => (positionCursor_follows fits).runRight_iff calls
  | columnVectors columns =>
    simp only [IterableAccessor.Contract, IterableAccessor.getNumTuples,
      IterableAccessor.accessible, length_accessible_positions]
    exact counted _ _ _ fun fits => (positionCursor_follows fits).runRight_iff calls
  | tupleIdSequenceAdapter length idSequence =>
    simp only [IterableAccessor.Contract, IterableAccessor.getNumTuples,
      IterableAccessor.accessible, List.length_map, onesCount_eq_length_ids]
    exact counted _ _ _ fun _ => (adapterCursor_follows length).runRight_iff calls
  | orderedTupleIdSequenceAdapter idSequence =>
    exact counted _ _ _ fun fits => (orderedCursor_follows fits).runRight_iff calls

/-- The second `next` over an empty ordered sequence returns true. -/
theorem not_contract_emptyOrdered :
    ¬ (IterableAccessor.orderedTupleIdSequenceAdapter []).Contract [.next, .next] := by
  rintro ⟨_, _, second, _⟩
  have answer := second.1
  revert answer
  decide

end Quickstep.Types
