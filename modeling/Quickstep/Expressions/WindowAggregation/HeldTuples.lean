import Quickstep.Expressions.WindowAggregation.RangeEmission

/-!
# The deque as a stretch of the stream

What the loops test depends on how many tuples have been received, how many of them have left the
deque, the current tuple index and the current value. The accumulators do not matter.
-/

namespace Quickstep.Expressions.WindowAggregation
open Quickstep.Lib

/-- A state of the handle `start` after `received` tuples, of which `dropped` have left the deque. -/
structure Held (start : Handle) (stream : List Tuple) (received dropped index : Nat)
    (value : Option ℚ) (h : Handle) : Prop where
  handle : SameHandle start h
  window : h.window = (stream.take received).drop dropped
  index : h.currentTupleIndex = index
  value : h.currentValue = value

theorem held_create (streamingId : Nat) (argument : Argument) (emitDuration startValue : Option ℚ)
    (frame : Frame) (operators : Operators) (stream : List Tuple) :
    Held (Handle.create streamingId argument emitDuration startValue frame operators) stream 0 0 0
      startValue (Handle.create streamingId argument emitDuration startValue frame operators) :=
  ⟨SameHandle.refl _, rfl, rfl, rfl⟩

section Positions

variable {start h : Handle} {stream : List Tuple} {received dropped index : Nat} {value : Option ℚ}
  (held : Held start stream received dropped index value h)
include held

theorem Held.length (size : received ≤ stream.length) : h.window.length = received - dropped := by
  rw [held.window, List.length_drop, List.length_take_of_le size]

theorem Held.tupleAt (size : received ≤ stream.length) {k : Nat} (inside : k + dropped < received) :
    h.tupleAt k = .ok (stream.getD (k + dropped) []) := by
  rw [Handle.tupleAt, held.window, List.getElem?_drop, Nat.add_comm dropped k,
    List.getElem?_take_of_lt inside, List.getElem?_eq_getElem (by omega),
    List.getD_eq_getElem _ _ (by omega)]

theorem Held.tupleAt_error {k : Nat} (outside : received ≤ k + dropped) :
    h.tupleAt k = .error .undefinedBehaviour := by
  rw [Handle.tupleAt, held.window, List.getElem?_eq_none]
  rw [List.length_drop, List.length_take]
  omega

/-- The new tuple stands at the back. -/
theorem Held.push (size : received < stream.length) (kept : dropped ≤ received) :
    Held start stream (received + 1) dropped index value
      { h with window := h.window ++ [stream[received]] } := by
  refine ⟨held.handle.trans ⟨rfl, rfl, rfl, rfl, rfl⟩, ?_, held.index, held.value⟩
  show h.window ++ _ = _
  rw [held.window, List.take_succ_eq_append_getElem size, List.drop_append_of_le_length]
  rw [List.length_take_of_le (by omega)]
  exact kept

theorem Held.addBack (argumentId : Nat) (t : Tuple) :
    Held start stream received dropped index value (h.addBack argumentId t) := by
  refine ⟨held.handle.trans (SameHandle.addBack h argumentId t), ?_, ?_, ?_⟩
  · rw [addBack_window, held.window]
  · rw [addBack_currentTupleIndex, held.index]
  · rw [addBack_currentValue, held.value]

theorem Held.getLast? (size : received < stream.length + 1) (kept : dropped < received) :
    h.window.getLast? = some (stream.getD (received - 1) []) := by
  rw [List.getLast?_eq_getElem?, held.length (by omega)]
  have last := held.tupleAt (by omega) (k := received - dropped - 1) (by omega)
  unfold Handle.tupleAt at last
  split at last
  · rename_i t found
    rw [found, Except.ok.inj last]
    congr 2
    omega
  · cases last

theorem Held.dropFront (argumentId : Nat) (size : received ≤ stream.length)
    (inside : dropped < received) :
    ∃ h', Handle.dropFront argumentId h = .ok h' ∧
      Held start stream received (dropped + 1) index value h' := by
  obtain ⟨front, window⟩ : ∃ front,
      h.window = front :: (stream.take received).drop (dropped + 1) := by
    refine ⟨_, held.window.trans (List.drop_eq_getElem_cons ?_)⟩
    rw [List.length_take_of_le size]
    exact inside
  have drop : Handle.dropFront argumentId h = .ok { h.subtractFront argumentId front with
      window := (stream.take received).drop (dropped + 1) } := by
    unfold Handle.dropFront
    rw [window]
    rfl
  refine ⟨_, drop, held.handle.trans (SameHandle.dropFront drop), rfl, ?_, ?_⟩
  · show (h.subtractFront argumentId _).currentTupleIndex = index
    unfold Handle.subtractFront
    split <;> exact held.index
  · show (h.subtractFront argumentId _).currentValue = value
    unfold Handle.subtractFront
    split <;> exact held.value

end Positions

/-! ## Moving forward -/

section MoveForward

variable {start h : Handle} {stream : List Tuple} {received dropped index : Nat} {value : Option ℚ}
  (held : Held start stream received dropped index value h)
include held

theorem Held.moveForward_tuple (emit : start.emitDuration = none) :
    ∃ moved, h.moveForward = .ok moved ∧ Held start stream received dropped (index + 1) value moved := by
  have move := WindowAggregation.moveForward_tuple (held.handle.emitDuration.trans emit)
  exact ⟨_, move, held.handle.trans (SameHandle.moveForward move), held.window,
    congrArg (· + 1) held.index, held.value⟩

theorem Held.getOutput (size : received ≤ stream.length) (inside : index + dropped < received) :
    ∃ row, h.getOutput = .ok row := by
  unfold Handle.getOutput
  cases h.emitDuration with
  | some _ => exact ⟨_, rfl⟩
  | none =>
    rw [held.index, held.tupleAt size inside]
    exact ⟨_, rfl⟩

end MoveForward

/-! ## The drop loop -/

section DropLoop

variable {argumentId : Nat} {h h' : Handle}

theorem dropLoop_next (out : h.inWindow 0 = .ok false)
    (drop : Handle.dropFront argumentId h = .ok h') :
    h.dropLoop argumentId = h'.dropLoop argumentId := by
  have shorter : h.window.length = h'.window.length + 1 := by
    unfold Handle.dropFront at drop
    split at drop
    · cases drop
    · rename_i front rest window
      cases drop
      rw [window, List.length_cons]
  unfold Handle.dropLoop
  rw [whileLoop_round (by rw [out]; rfl) drop, shorter]

/-- A round of the emission loop, by its two steps. -/
theorem emitRound_of {s : Handle × List Emission} {row : List TypedValue} {moved : Handle}
    (output : s.1.getOutput = .ok row) (move : s.1.moveForward = .ok moved)
    (drop : moved.dropLoop argumentId = .ok h) :
    Handle.emitRound argumentId s = .ok (h, s.2 ++ [⟨row, s.1.sum, s.1.count⟩]) := by
  unfold Handle.emitRound
  rw [output, Exec.ok_bind, move, Exec.ok_bind, drop, Exec.ok_bind]
  rfl

end DropLoop

/-! ## The frame test of RANGE mode -/

/-- What the test computes: a value below the lower bound is out without a look at the upper one. -/
theorem inRange_eq_ok_iff {operators : Operators} {preceding : Option ℚ} {following current test : ℚ}
    {inside : Bool} :
    Handle.inRange operators preceding following (some current) (some test) = .ok inside ↔
      ((∀ p ∈ preceding, ∃ low, operators.rangeSubtract current p = .ok low ∧ low ≤ test) ∧
        ∃ high, operators.rangeAdd current following = .ok high ∧ decide (test ≤ high) = inside) ∨
      inside = false ∧
        ∃ p ∈ preceding, ∃ low, operators.rangeSubtract current p = .ok low ∧ test < low := by
  have upper : (do
      let high ← operators.rangeAdd current following
      pure (decide (test ≤ high)) : Exec Bool) = .ok inside ↔
        ∃ high, operators.rangeAdd current following = .ok high ∧ decide (test ≤ high) = inside := by
    cases operators.rangeAdd current following <;> simp [pure, Except.pure, bind, Except.bind]
  cases preceding with
  | none => simpa [Handle.inRange] using upper
  | some p =>
    simp only [Option.mem_def, Option.some.injEq, forall_eq', exists_eq_left']
    rw [Handle.inRange]
    cases subtract : operators.rangeSubtract current p with
    | error fault => simp [bind, Except.bind]
    | ok low =>
      simp only [Exec.ok_bind, pure_bind, decide_eq_true_eq]
      by_cases above : low ≤ test
      · rw [if_pos above, upper]
        simp [above]
      · rw [if_neg above]
        simp [above, not_le.mp above, pure, Except.pure, eq_comm]

theorem inRange_iff {operators : Operators} {preceding : Option ℚ} {following current test : ℚ} :
    Handle.inRange operators preceding following (some current) (some test) = .ok true ↔
      (∀ p ∈ preceding, ∃ low, operators.rangeSubtract current p = .ok low ∧ low ≤ test) ∧
        ∃ high, operators.rangeAdd current following = .ok high ∧ test ≤ high := by
  rw [inRange_eq_ok_iff]
  simp

section InWindow

variable {start h : Handle} {stream : List Tuple} {received dropped index : Nat} {value : Option ℚ}
  {preceding : Option ℚ} {following : ℚ}
  (held : Held start stream received dropped index value h)
include held

theorem Held.inWindow_current : h.inWindow index = .ok true := by
  unfold Handle.inWindow
  rw [held.index, if_pos rfl]
  rfl

/-- The frame test of another tuple than the current one. Without a start value it reads the
current tuple too. -/
theorem Held.inWindow_range (frame : start.frame = .range preceding following)
    (ordered : NonDecreasing start.streamingAttributeId stream) (size : received ≤ stream.length)
    {k : Nat} (other : k ≠ index) (inside : k + dropped < received)
    (current : value = none → index + dropped < received) :
    h.inWindow k = Handle.inRange start.operators preceding following
      (some (value.getD (valueAt start.streamingAttributeId stream (index + dropped))))
      (some (valueAt start.streamingAttributeId stream (k + dropped))) := by
  have number {i : Nat} (lt : i < received) : getNumber (stream.getD i []) start.streamingAttributeId =
      some (valueAt start.streamingAttributeId stream i) := by
    rw [valueAt]
    refine ordered.nonNull _ ?_
    rw [List.getD_eq_getElem _ _ (by omega)]
    exact List.getElem_mem _
  unfold Handle.inWindow
  rw [held.index, if_neg other, held.handle.frame, frame, held.value,
    held.handle.streamingAttributeId, held.handle.operators, held.tupleAt size inside]
  cases value with
  | none =>
    simp only [held.tupleAt size (current rfl), Exec.ok_bind, pure_bind]
    rw [number inside, number (current rfl)]
    rfl
  | some value =>
    simp only [Exec.ok_bind, pure_bind]
    rw [number inside]
    rfl

/-- A tuple that is not in the deque is read nevertheless. -/
theorem Held.inWindow_error (frame : start.frame = .range preceding following)
    (size : received ≤ stream.length) {k : Nat} (other : k ≠ index)
    (outside : received ≤ k + dropped ∨ value = none ∧ received ≤ index + dropped) :
    h.inWindow k = .error .undefinedBehaviour := by
  unfold Handle.inWindow
  rw [held.index, if_neg other, held.handle.frame, frame, held.value]
  cases value with
  | none =>
    by_cases current : received ≤ index + dropped
    · simp only [held.tupleAt_error current]
      rfl
    · simp only [held.tupleAt_error (outside.resolve_right fun both => current both.2),
        held.tupleAt size (Nat.lt_of_not_le current)]
      rfl
  | some value =>
    simp only [held.tupleAt_error (outside.resolve_right fun both => by cases both.1)]
    rfl

end InWindow

end Quickstep.Expressions.WindowAggregation
