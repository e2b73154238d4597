import Mathlib.Data.Rat.Defs
import Mathlib.Algebra.Order.Ring.Rat
import Quickstep.Lib.WhileLoop

/-!
# Window aggregation handles

`WindowAggregationHandle` and `WindowAggregationHandleAvg`, over the operators that are made for the
types. A handle keeps a deque of tuples, the accumulators of AVG, and the position of the current
window: a tuple index in window aggregation, a streaming value when an emit duration is given.
-/

namespace Quickstep.Expressions.WindowAggregation
open Quickstep.Lib

/-- An attribute value; numbers, dates and intervals stand as numbers. -/
inductive TypedValue where
  | null
  | number (value : ℚ)
  | text (value : String)
  deriving DecidableEq

namespace TypedValue

/-- A number, if the value is one and is not NULL. -/
def number? : TypedValue → Option ℚ
  | number value => some value
  | null | text _ => none

def ofNumber? : Option ℚ → TypedValue
  | some value => number value
  | none => null

end TypedValue

abbrev Tuple := List TypedValue

/-- `getAttributeValue` of a numeric attribute. -/
def getNumber (t : Tuple) (attributeId : Nat) : Option ℚ := (t.getD attributeId .null).number?

/-- The frame of a window. ROWS bounds are `int` literals; `none` is UNBOUNDED PRECEDING. -/
inductive Frame where
  | rows (valuePreceding : Option Int) (valueFollowing : Int)
  | range (valuePreceding : Option ℚ) (valueFollowing : ℚ)

/-- The argument of the aggregate: an attribute of the input, or a scalar computed from it. -/
inductive Argument where
  | ofAttribute (attributeId : Nat)
  | computed (value : Tuple → TypedValue)

/-- The operators that the constructors make. Those of the range bounds have no defined result where an
integer or a date overflows, and round over floating point. So do those of the accumulators; a sum that
overflows a LONG, which is undefined as well, is some number here. -/
structure Operators where
  rangeAdd : ℚ → ℚ → Exec ℚ
  rangeSubtract : ℚ → ℚ → Exec ℚ
  fastAdd : ℚ → ℚ → ℚ
  fastSubtract : ℚ → ℚ → ℚ
  divide : ℚ → Nat → ℚ

namespace Operators

/-- Arithmetic without rounding and overflow. -/
def exact : Operators where
  rangeAdd current offset := .ok (current + offset)
  rangeSubtract current offset := .ok (current - offset)
  fastAdd sum argument := sum + argument
  fastSubtract sum argument := sum - argument
  divide sum count := sum / count

/-- INT as the type of the streaming attribute and of the bounds. -/
def int : Operators :=
  { exact with
    rangeAdd := fun current offset =>
      if current + offset < 2 ^ 31 then .ok (current + offset) else .error .undefinedBehaviour
    rangeSubtract := fun current offset =>
      if -2 ^ 31 ≤ current - offset then .ok (current - offset) else .error .undefinedBehaviour }

/-- What the range operators keep for offsets that are not negative: a bound lies on its side of the
value, and the order of values. A bound that can be computed can be computed for the values on its
other side, too. Adding a year-month interval to a date keeps no order, as the day may be clamped. -/
structure Monotone (operators : Operators) : Prop where
  le_rangeAdd : ∀ {current offset bound}, 0 ≤ offset → operators.rangeAdd current offset = .ok bound →
    current ≤ bound
  rangeSubtract_le : ∀ {current offset bound}, 0 ≤ offset →
    operators.rangeSubtract current offset = .ok bound → bound ≤ current
  rangeAdd_mono : ∀ {current later offset bound}, 0 ≤ offset → current ≤ later →
    operators.rangeAdd later offset = .ok bound →
    ∃ lower, operators.rangeAdd current offset = .ok lower ∧ lower ≤ bound
  rangeSubtract_mono : ∀ {current later offset bound}, 0 ≤ offset → current ≤ later →
    operators.rangeSubtract current offset = .ok bound →
    ∃ higher, operators.rangeSubtract later offset = .ok higher ∧ bound ≤ higher

theorem exact_monotone : exact.Monotone where
  le_rangeAdd nonneg add := by
    cases add
    exact le_add_of_nonneg_right nonneg
  rangeSubtract_le nonneg subtract := by
    cases subtract
    exact sub_le_self _ nonneg
  rangeAdd_mono _ le add := by
    cases add
    exact ⟨_, rfl, add_le_add_left le _⟩
  rangeSubtract_mono _ le subtract := by
    cases subtract
    exact ⟨_, rfl, sub_le_sub_right le _⟩

theorem int_rangeAdd_iff {current offset bound : ℚ} :
    int.rangeAdd current offset = .ok bound ↔ current + offset < 2 ^ 31 ∧ current + offset = bound := by
  show (if current + offset < 2 ^ 31 then (.ok (current + offset) : Exec ℚ)
    else .error .undefinedBehaviour) = .ok bound ↔ _
  split <;> simp_all

theorem int_rangeSubtract_iff {current offset bound : ℚ} :
    int.rangeSubtract current offset = .ok bound ↔
      -2 ^ 31 ≤ current - offset ∧ current - offset = bound := by
  show (if -2 ^ 31 ≤ current - offset then (.ok (current - offset) : Exec ℚ)
    else .error .undefinedBehaviour) = .ok bound ↔ _
  split <;> simp_all

theorem int_monotone : int.Monotone where
  le_rangeAdd nonneg add := by
    obtain ⟨-, rfl⟩ := int_rangeAdd_iff.mp add
    exact le_add_of_nonneg_right nonneg
  rangeSubtract_le nonneg subtract := by
    obtain ⟨-, rfl⟩ := int_rangeSubtract_iff.mp subtract
    exact sub_le_self _ nonneg
  rangeAdd_mono {current later offset bound} _ le add := by
    obtain ⟨fits, rfl⟩ := int_rangeAdd_iff.mp add
    have lower : current + offset ≤ later + offset := add_le_add_left le _
    exact ⟨_, int_rangeAdd_iff.mpr ⟨lt_of_le_of_lt lower fits, rfl⟩, lower⟩
  rangeSubtract_mono {current later offset bound} _ le subtract := by
    obtain ⟨fits, rfl⟩ := int_rangeSubtract_iff.mp subtract
    have higher : current - offset ≤ later - offset := sub_le_sub_right le _
    exact ⟨_, int_rangeSubtract_iff.mpr ⟨le_trans fits higher, rfl⟩, higher⟩

/-- The average held by the accumulators: NULL when they have counted nothing. -/
def average (operators : Operators) (sum : ℚ) (count : Nat) : TypedValue :=
  if count = 0 then .null else .number (operators.divide sum count)

end Operators

/-- The state of a `WindowAggregationHandleAvg`. A NULL emit duration selects window aggregation. -/
structure Handle where
  streamingAttributeId : Nat
  argument : Argument
  emitDuration : Option ℚ
  frame : Frame
  operators : Operators
  currentValue : Option ℚ
  window : List Tuple := []
  currentTupleIndex : Nat := 0
  sum : ℚ := 0
  count : Nat := 0

/-- A `size_t` plus an `int`: negative results wrap around. No deque is long enough for the sum to
pass the largest `size_t`. -/
def sizeTAdd (position : Nat) (offset : Int) : Nat :=
  (if (position : Int) + offset < 0 then (position : Int) + offset + 2 ^ 64
   else (position : Int) + offset).toNat

namespace Handle

/-- The constructor. The values of the streaming attribute are those of `range_compare_type_`. -/
def create (streamingAttributeId : Nat) (argument : Argument) (emitDuration startValue : Option ℚ)
    (frame : Frame) (operators : Operators := .exact) : Handle :=
  { streamingAttributeId, argument, emitDuration, frame, operators, currentValue := startValue }

/-- `operator[]` of the deque, without a bounds check. -/
def tupleAt (h : Handle) (index : Nat) : Exec Tuple :=
  match h.window[index]? with
  | some t => .ok t
  | none => .error .undefinedBehaviour

/-- The frame test of ROWS mode, on deque positions. -/
def inRows (valuePreceding : Option Int) (valueFollowing : Int)
    (currentTupleIndex testTupleIndex : Nat) : Bool :=
  if valuePreceding.any (fun preceding => testTupleIndex < sizeTAdd currentTupleIndex (-preceding)) then
    false
  else decide (¬ testTupleIndex > sizeTAdd currentTupleIndex valueFollowing)

/-- The frame test of RANGE mode, on streaming values; NULL is not in range. -/
def inRange (operators : Operators) (valuePreceding : Option ℚ) (valueFollowing : ℚ) :
    (currentValue testValue : Option ℚ) → Exec Bool
  | some current, some test => do
    let inside ← match valuePreceding with
      | some preceding => do
        let startBoundary ← operators.rangeSubtract current preceding
        pure (decide (startBoundary ≤ test))
      | none => pure true
    if inside then do
      let endBoundary ← operators.rangeAdd current valueFollowing
      pure (decide (test ≤ endBoundary))
    else pure false
  | _, _ => pure false

def inWindow (h : Handle) (testTupleIndex : Nat) : Exec Bool :=
  if testTupleIndex = h.currentTupleIndex then pure true
  else match h.frame with
    | .rows preceding following =>
      pure (inRows preceding following h.currentTupleIndex testTupleIndex)
    | .range preceding following => do
      let currentValue ← match h.currentValue with
        | some value => pure (some value)
        | none => do
          let current ← h.tupleAt h.currentTupleIndex
          pure (getNumber current h.streamingAttributeId)
      let test ← h.tupleAt testTupleIndex
      inRange h.operators preceding following currentValue (getNumber test h.streamingAttributeId)

/-- A NULL value stays NULL. In ROWS mode the handle has no operator to move a value. -/
def moveForward (h : Handle) : Exec Handle :=
  match h.emitDuration, h.frame, h.currentValue with
  | none, _, _ => pure { h with currentTupleIndex := h.currentTupleIndex + 1 }
  | some _, .rows _ _, _ => .error .undefinedBehaviour
  | some _, .range _ _, none => pure h
  | some emitDuration, .range _ _, some value => do
    let value ← h.operators.rangeAdd value emitDuration
    pure { h with currentValue := some value }

/-- The average by exact arithmetic. -/
def average (sum : ℚ) (count : Nat) : TypedValue :=
  if count = 0 then .null else .number (sum / count)

/-- `getOutput`: the current tuple, or the current value, and the average. -/
def getOutput (h : Handle) : Exec (List TypedValue) :=
  match h.emitDuration with
  | none => do
    let current ← h.tupleAt h.currentTupleIndex
    pure (current ++ [h.operators.average h.sum h.count])
  | some _ => pure [.ofNumber? h.currentValue, h.operators.average h.sum h.count]

/-- A tuple leaves the window: `count_--` wraps at zero. -/
def subtractFront (h : Handle) (argumentId : Nat) (front : Tuple) : Handle :=
  match getNumber front argumentId with
  | some value =>
    { h with
      sum := h.operators.fastSubtract h.sum value
      count := if h.count = 0 then 2 ^ 64 - 1 else h.count - 1 }
  | none => h

/-- A tuple joins the window. -/
def addBack (h : Handle) (argumentId : Nat) (back : Tuple) : Handle :=
  match getNumber back argumentId with
  | some value => { h with sum := h.operators.fastAdd h.sum value, count := h.count + 1 }
  | none => h

/-- Drop one tuple from the queue front; `front()` of an empty deque is undefined. -/
def dropFront (argumentId : Nat) (h : Handle) : Exec Handle :=
  match h.window with
  | [] => .error .undefinedBehaviour
  | front :: rest => pure { h.subtractFront argumentId front with window := rest }

/-- Drop the tuples that are not in the window any more. Every round takes one tuple. -/
def dropLoop (argumentId : Nat) (h : Handle) : Exec Handle :=
  whileLoop (fun h => do pure !(← h.inWindow 0)) (dropFront argumentId) (h.window.length + 1) h

end Handle

/-- An emitted row, with the accumulators it was computed from. -/
structure Emission where
  row : List TypedValue
  sum : ℚ
  count : Nat

namespace Handle

/-- The test of the emission loop: the newest tuple is out of the current window. -/
def newestOut (s : Handle × List Emission) : Exec Bool := do
  pure !(← s.1.inWindow (s.1.window.length - 1))

/-- One round of the emission loop. -/
def emitRound (argumentId : Nat) (s : Handle × List Emission) : Exec (Handle × List Emission) := do
  let row ← s.1.getOutput
  let h ← s.1.moveForward
  let h ← dropLoop argumentId h
  pure (h, s.2 ++ [⟨row, s.1.sum, s.1.count⟩])

/-- One iteration of the loop over the input: a new tuple arrives. -/
def processTuple (fuel argumentId : Nat) (s : Handle × List Emission) (t : Tuple) :
    Exec (Handle × List Emission) := do
  let s ← whileLoop newestOut (emitRound argumentId) fuel
    ({ s.1 with window := s.1.window ++ [t] }, s.2)
  match s.1.window.getLast? with
  | some back => pure (s.1.addBack argumentId back, s.2)
  | none => .error .undefinedBehaviour

/-- `calculate`: one batch of input. With a computed argument the accessor is asked for its current
tuple while it stands before the first or behind the last one. -/
def calculate (fuel : Nat) (s : Handle × List Emission) (input : List Tuple) :
    Exec (Handle × List Emission) :=
  match s.1.argument with
  | .ofAttribute argumentId => input.foldlM (processTuple fuel argumentId) s
  | .computed _ => .error .undefinedBehaviour

/-- Successive calls of `calculate`, collecting what they emit. -/
def calculateAll (fuel : Nat) (h : Handle) (batches : List (List Tuple)) :
    Exec (Handle × List Emission) :=
  batches.foldlM (calculate fuel) (h, [])

/-- The calls return with this handle and these emissions. -/
def Returns (h : Handle) (batches : List (List Tuple)) (h' : Handle) (emissions : List Emission) :
    Prop :=
  ∃ fuel, calculateAll fuel h batches = .ok (h', emissions)

end Handle

end Quickstep.Expressions.WindowAggregation
