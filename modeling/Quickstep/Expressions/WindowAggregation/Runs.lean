import Mathlib.Algebra.BigOperators.Group.List.Basic
import Mathlib.Data.List.GetD
import Mathlib.Tactic.Linarith
import Quickstep.Expressions.WindowAggregation.WindowAggregationHandle

/-!
# Runs of a window aggregation handle

Batches do not matter: a run over any batching is a run over the stream. A run over the stream is a
chain of arrivals, and one arrival is the emission loop followed by the update of the accumulators.
-/

namespace Quickstep.Expressions.WindowAggregation
open Quickstep.Lib

/-! ## What no call changes -/

/-- Two states of one handle: the fields set by the constructor agree. -/
structure SameHandle (h h' : Handle) : Prop where
  streamingAttributeId : h'.streamingAttributeId = h.streamingAttributeId
  argument : h'.argument = h.argument
  emitDuration : h'.emitDuration = h.emitDuration
  frame : h'.frame = h.frame
  operators : h'.operators = h.operators

namespace SameHandle

theorem refl (h : Handle) : SameHandle h h := ⟨rfl, rfl, rfl, rfl, rfl⟩

theorem trans {h₁ h₂ h₃ : Handle} (first : SameHandle h₁ h₂) (second : SameHandle h₂ h₃) :
    SameHandle h₁ h₃ where
  streamingAttributeId := second.streamingAttributeId.trans first.streamingAttributeId
  argument := second.argument.trans first.argument
  emitDuration := second.emitDuration.trans first.emitDuration
  frame := second.frame.trans first.frame
  operators := second.operators.trans first.operators

theorem moveForward {h h' : Handle} (moved : h.moveForward = .ok h') : SameHandle h h' := by
  unfold Handle.moveForward at moved
  split at moved
  · cases moved
    exact ⟨rfl, rfl, rfl, rfl, rfl⟩
  · cases moved
  · cases moved
    exact refl h
  · obtain ⟨value, _, done⟩ := Exec.bind_ok moved
    cases done
    exact ⟨rfl, rfl, rfl, rfl, rfl⟩

theorem addBack (h : Handle) (argumentId : Nat) (back : Tuple) :
    SameHandle h (h.addBack argumentId back) := by
  simp only [Handle.addBack]
  split <;> exact ⟨rfl, rfl, rfl, rfl, rfl⟩

theorem dropFront {argumentId : Nat} {h h' : Handle} (drop : Handle.dropFront argumentId h = .ok h') :
    SameHandle h h' := by
  simp only [Handle.dropFront] at drop
  split at drop
  · cases drop
  · cases drop
    simp only [Handle.subtractFront]
    split <;> exact ⟨rfl, rfl, rfl, rfl, rfl⟩

theorem dropLoop {argumentId : Nat} {h h' : Handle} (drop : h.dropLoop argumentId = .ok h') :
    SameHandle h h' :=
  (Ends.invariant _ ⟨_, drop⟩ (refl h)
    fun _ _ _ round same => same.trans (dropFront round)).1

end SameHandle

/-- What a round of the emission loop does: it emits a row, advances, and drops from the front. -/
theorem emitRound_ok {argumentId : Nat} {s s' : Handle × List Emission}
    (round : Handle.emitRound argumentId s = .ok s') :
    ∃ row moved, s.1.getOutput = .ok row ∧ s.1.moveForward = .ok moved ∧
      moved.dropLoop argumentId = .ok s'.1 ∧ s'.2 = s.2 ++ [⟨row, s.1.sum, s.1.count⟩] := by
  obtain ⟨row, output, rest⟩ := Exec.bind_ok round
  obtain ⟨moved, move, rest⟩ := Exec.bind_ok rest
  obtain ⟨h, drop, done⟩ := Exec.bind_ok rest
  cases done
  exact ⟨row, moved, output, move, drop, rfl⟩

theorem SameHandle.emitRound {argumentId : Nat} {s s' : Handle × List Emission}
    (round : Handle.emitRound argumentId s = .ok s') : SameHandle s.1 s'.1 := by
  obtain ⟨_, _, _, move, drop, _⟩ := emitRound_ok round
  exact (SameHandle.moveForward move).trans (SameHandle.dropLoop drop)

/-! ## One arrival -/

/-- The new tuple at the back of the deque. -/
def pushBack (s : Handle × List Emission) (t : Tuple) : Handle × List Emission :=
  ({ s.1 with window := s.1.window ++ [t] }, s.2)

/-- The tuple `t` is processed, with whatever fuel that takes. -/
def Arrives (argumentId : Nat) (s : Handle × List Emission) (t : Tuple)
    (s' : Handle × List Emission) : Prop :=
  ∃ fuel, Handle.processTuple fuel argumentId s t = .ok s'

theorem processTuple_ok {fuel argumentId : Nat} {s s' : Handle × List Emission} {t : Tuple}
    (run : Handle.processTuple fuel argumentId s t = .ok s') :
    ∃ e back, whileLoop Handle.newestOut (Handle.emitRound argumentId) fuel (pushBack s t) = .ok e ∧
      e.1.window.getLast? = some back ∧ s' = (e.1.addBack argumentId back, e.2) := by
  obtain ⟨e, loop, rest⟩ := Exec.bind_ok run
  refine ⟨e, ?_⟩
  cases last : e.1.window.getLast? with
  | none =>
    rw [last] at rest
    cases rest
  | some back =>
    rw [last] at rest
    cases rest
    exact ⟨back, loop, rfl, rfl⟩

theorem processTuple_of_loop {fuel argumentId : Nat} {s e : Handle × List Emission} {t back : Tuple}
    (loop : whileLoop Handle.newestOut (Handle.emitRound argumentId) fuel (pushBack s t) = .ok e)
    (last : e.1.window.getLast? = some back) :
    Handle.processTuple fuel argumentId s t = .ok (e.1.addBack argumentId back, e.2) := by
  unfold Handle.processTuple
  show (whileLoop Handle.newestOut (Handle.emitRound argumentId) fuel (pushBack s t)).bind _ = _
  rw [loop]
  simp only [Except.bind, last]
  rfl

theorem processTuple_mono {fuel fuel' argumentId : Nat} {s s' : Handle × List Emission} {t : Tuple}
    (le : fuel ≤ fuel') (run : Handle.processTuple fuel argumentId s t = .ok s') :
    Handle.processTuple fuel' argumentId s t = .ok s' := by
  obtain ⟨e, back, loop, last, rfl⟩ := processTuple_ok run
  exact processTuple_of_loop (whileLoop_mono le loop) last

/-- **One arrival** is the emission loop and the update for the new tuple. -/
theorem arrives_iff {argumentId : Nat} {s s' : Handle × List Emission} {t : Tuple} :
    Arrives argumentId s t s' ↔
      ∃ e back, Ends Handle.newestOut (Handle.emitRound argumentId) (pushBack s t) e ∧
        e.1.window.getLast? = some back ∧ s' = (e.1.addBack argumentId back, e.2) := by
  constructor
  · rintro ⟨fuel, run⟩
    obtain ⟨e, back, loop, last, result⟩ := processTuple_ok run
    exact ⟨e, back, ⟨fuel, loop⟩, last, result⟩
  · rintro ⟨e, back, ⟨fuel, loop⟩, last, rfl⟩
    exact ⟨fuel, processTuple_of_loop loop last⟩

theorem SameHandle.arrives {argumentId : Nat} {s s' : Handle × List Emission} {t : Tuple}
    (arrives : Arrives argumentId s t s') : SameHandle s.1 s'.1 := by
  obtain ⟨e, back, loop, _, rfl⟩ := arrives_iff.mp arrives
  have pushed : SameHandle s.1 (pushBack s t).1 := ⟨rfl, rfl, rfl, rfl, rfl⟩
  have ended := loop.invariant (fun e => SameHandle s.1 e.1) pushed
    fun _ _ _ round same => same.trans (SameHandle.emitRound round)
  exact ended.1.trans (SameHandle.addBack e.1 argumentId back)

/-! ## The frame test of RANGE mode -/

section InRange

variable {operators : Operators} {preceding following current test low high : ℚ}

theorem inRange_unbounded (add : operators.rangeAdd current following = .ok high) :
    Handle.inRange operators none following (some current) (some test) = .ok (decide (test ≤ high)) := by
  simp only [Handle.inRange, pure_bind, if_pos, add]
  rfl

theorem inRange_bounded (subtract : operators.rangeSubtract current preceding = .ok low)
    (add : operators.rangeAdd current following = .ok high) :
    Handle.inRange operators (some preceding) following (some current) (some test) =
      .ok (decide (low ≤ test ∧ test ≤ high)) := by
  simp only [Handle.inRange, subtract, Exec.ok_bind, pure_bind]
  by_cases above : low ≤ test
  · simp only [above, true_and, add]
    rfl
  · simp only [above, decide_false, false_and]
    rfl

end InRange

/-! ## Whole streams -/

/-- The tuples of a stream are processed one after the other. -/
def Received (argumentId : Nat) : Handle × List Emission → List Tuple → Handle × List Emission → Prop :=
  Folds (Arrives argumentId)

theorem SameHandle.received {argumentId : Nat} {s s' : Handle × List Emission} {ts : List Tuple}
    (received : Received argumentId s ts s') : SameHandle s.1 s'.1 :=
  received.invariant (fun e => SameHandle s.1 e.1) (SameHandle.refl s.1)
    fun _ _ _ same arrives => same.trans (SameHandle.arrives arrives)

theorem Received.unique {argumentId : Nat} {s s₁ s₂ : Handle × List Emission} {ts : List Tuple}
    (first : Received argumentId s ts s₁) (second : Received argumentId s ts s₂) : s₁ = s₂ :=
  Folds.unique (fun _ _ _ _ ⟨_, run₁⟩ ⟨_, run₂⟩ =>
    fuel_unique (fun fuel => Handle.processTuple fuel argumentId)
      (fun _ _ _ _ _ => processTuple_mono) run₁ run₂) first second

theorem calculate_mono {fuel fuel' : Nat} {s s' : Handle × List Emission} {input : List Tuple}
    (le : fuel ≤ fuel') (run : Handle.calculate fuel s input = .ok s') :
    Handle.calculate fuel' s input = .ok s' := by
  simp only [Handle.calculate] at run ⊢
  split at run
  · next argumentId _ =>
    exact foldlM_mono (fun fuel => Handle.processTuple fuel argumentId)
      (fun _ _ _ _ _ => processTuple_mono) le run
  · cases run

/-- **Batches do not matter**: with an attribute as argument, successive calls return what one pass
over the whole stream leaves. -/
theorem returns_iff {h h' : Handle} {argumentId : Nat} (plain : h.argument = .ofAttribute argumentId)
    {batches : List (List Tuple)} {emissions : List Emission} :
    h.Returns batches h' emissions ↔
      Received argumentId (h, []) batches.flatten (h', emissions) := by
  have calls : h.Returns batches h' emissions ↔ _ :=
    foldlM_iff_folds Handle.calculate fun _ _ _ _ _ => calculate_mono
  rw [calls, Received, ← Folds.flatten_iff]
  refine Folds.congr (fun s => s.1.argument = .ofAttribute argumentId) plain ?_ ?_
  · intro s input s' same received
    exact (SameHandle.received received).argument.trans same
  · intro s input s' same
    simp only [Handle.calculate, same]
    exact foldlM_iff_folds (fun fuel => Handle.processTuple fuel argumentId)
      fun _ _ _ _ _ => processTuple_mono

/-- With a computed argument no call returns. -/
theorem returns_computed_iff {h h' : Handle} {value : Tuple → TypedValue}
    (computed : h.argument = .computed value) {batches : List (List Tuple)}
    {emissions : List Emission} :
    h.Returns batches h' emissions ↔ batches = [] ∧ h' = h ∧ emissions = [] := by
  cases batches with
  | nil =>
    constructor
    · rintro ⟨_, run⟩
      cases run
      exact ⟨rfl, rfl, rfl⟩
    · rintro ⟨_, rfl, rfl⟩
      exact ⟨0, rfl⟩
  | cons input batches =>
    constructor
    · rintro ⟨fuel, run⟩
      rw [Handle.calculateAll, List.foldlM_cons] at run
      obtain ⟨_, first, _⟩ := Exec.bind_ok run
      rw [Handle.calculate, computed] at first
      cases first
    · rintro ⟨empty, _⟩
      cases empty

/-- Calls return if no call is made, or if the argument is an attribute and the stream is received. -/
theorem exists_returns_iff {streamingId : Nat} {argument : Argument}
    {emitDuration startValue : Option ℚ} {frame : Frame} {operators : Operators}
    {batches : List (List Tuple)} {streams : Prop}
    (received : ∀ argumentId, (∃ s : Handle × List Emission, Received argumentId
      (Handle.create streamingId (.ofAttribute argumentId) emitDuration startValue frame operators, [])
      batches.flatten s) ↔ streams) :
    (∃ h emissions, (Handle.create streamingId argument emitDuration startValue frame operators).Returns
      batches h emissions) ↔
      (batches = [] ∨ ∃ argumentId, argument = .ofAttribute argumentId) ∧ streams := by
  cases argument with
  | ofAttribute argumentId =>
    refine Iff.trans ?_ ((received argumentId).trans (and_iff_right (.inr ⟨argumentId, rfl⟩)).symm)
    rw [Prod.exists]
    exact exists_congr fun h => exists_congr fun emissions => returns_iff rfl
  | computed value =>
    constructor
    · rintro ⟨h, emissions, returns⟩
      obtain ⟨rfl, -, -⟩ := (returns_computed_iff rfl).mp returns
      exact ⟨.inl rfl, (received 0).mp ⟨_, .nil _⟩⟩
    · rintro ⟨rfl | ⟨_, other⟩, _⟩
      · exact ⟨_, [], (returns_computed_iff rfl).mpr ⟨rfl, rfl, rfl⟩⟩
      · cases other

/-- A sequence of calls has at most one result. -/
theorem returns_unique {h h₁ h₂ : Handle} {batches : List (List Tuple)}
    {emissions₁ emissions₂ : List Emission} (first : h.Returns batches h₁ emissions₁)
    (second : h.Returns batches h₂ emissions₂) : h₁ = h₂ ∧ emissions₁ = emissions₂ := by
  have folds (h' emissions) : h.Returns batches h' emissions ↔ _ :=
    foldlM_iff_folds Handle.calculate fun _ _ _ _ _ => calculate_mono
  have same := Folds.unique (fun _ _ _ _ ⟨_, run₁⟩ ⟨_, run₂⟩ =>
      fuel_unique Handle.calculate (fun _ _ _ _ _ => calculate_mono) run₁ run₂)
    ((folds h₁ emissions₁).mp first) ((folds h₂ emissions₂).mp second)
  simpa using same

/-! ## Accumulators -/

/-- The non-NULL arguments of some tuples. -/
def arguments (argumentId : Nat) (ts : List Tuple) : List ℚ := ts.filterMap (getNumber · argumentId)

/-- The average of the non-NULL arguments of some tuples, NULL when there are none. -/
def averageOf (argumentId : Nat) (ts : List Tuple) : TypedValue :=
  Handle.average (arguments argumentId ts).sum (arguments argumentId ts).length

/-- The sum of the non-NULL arguments of some tuples, as the operator adds them up. -/
def Operators.sumOf (operators : Operators) (argumentId : Nat) (ts : List Tuple) : ℚ :=
  (arguments argumentId ts).foldl operators.fastAdd 0

/-- The average of the non-NULL arguments of some tuples, as the operators compute it. -/
def Operators.averageOf (operators : Operators) (argumentId : Nat) (ts : List Tuple) : TypedValue :=
  operators.average (operators.sumOf argumentId ts) (arguments argumentId ts).length

theorem exact_sumOf (argumentId : Nat) (ts : List Tuple) :
    Operators.exact.sumOf argumentId ts = (arguments argumentId ts).sum :=
  List.sum_eq_foldl.symm

theorem exact_averageOf (argumentId : Nat) (ts : List Tuple) :
    Operators.exact.averageOf argumentId ts = averageOf argumentId ts := by
  rw [Operators.averageOf, exact_sumOf]
  rfl

/-- The deque holds exactly the tuples `ts`, and the accumulators count all of them. -/
structure Intact (argumentId : Nat) (h : Handle) (ts : List Tuple) : Prop where
  window : h.window = ts
  sum : h.sum = h.operators.sumOf argumentId ts
  count : h.count = (arguments argumentId ts).length

section AddBack

variable (h : Handle) (argumentId : Nat) (t : Tuple)

@[simp] theorem addBack_window : (h.addBack argumentId t).window = h.window := by
  simp only [Handle.addBack]
  split <;> rfl

@[simp] theorem addBack_currentTupleIndex :
    (h.addBack argumentId t).currentTupleIndex = h.currentTupleIndex := by
  simp only [Handle.addBack]
  split <;> rfl

@[simp] theorem addBack_currentValue : (h.addBack argumentId t).currentValue = h.currentValue := by
  simp only [Handle.addBack]
  split <;> rfl

@[simp] theorem addBack_operators : (h.addBack argumentId t).operators = h.operators :=
  (SameHandle.addBack h argumentId t).operators

/-- The new tuple is counted. -/
theorem addBack_accumulators {ts : List Tuple} (sum : h.sum = h.operators.sumOf argumentId ts)
    (count : h.count = (arguments argumentId ts).length) :
    (h.addBack argumentId t).sum = h.operators.sumOf argumentId (ts ++ [t]) ∧
      (h.addBack argumentId t).count = (arguments argumentId (ts ++ [t])).length := by
  simp only [Handle.addBack]
  cases value : getNumber t argumentId with
  | none => simp [Operators.sumOf, arguments, value, sum, count]
  | some v => simp [Operators.sumOf, arguments, value, sum, count]

end AddBack

/-- A tuple that joins the window of an intact handle is counted. -/
theorem Intact.addBack {argumentId : Nat} {h : Handle} {ts : List Tuple} {t : Tuple}
    (intact : Intact argumentId h ts) :
    Intact argumentId (({ h with window := h.window ++ [t] } : Handle).addBack argumentId t)
      (ts ++ [t]) := by
  obtain ⟨sum, count⟩ := addBack_accumulators { h with window := h.window ++ [t] } argumentId t
    intact.sum intact.count
  refine ⟨?_, ?_, count⟩
  · rw [addBack_window, intact.window]
  · rw [addBack_operators, sum]

theorem intact_create (argumentId streamingId : Nat) (emitDuration startValue : Option ℚ)
    (frame : Frame) (operators : Operators) :
    Intact argumentId
      (Handle.create streamingId (.ofAttribute argumentId) emitDuration startValue frame operators) [] :=
  ⟨rfl, rfl, rfl⟩

/-- A loop that finds the front of the queue in the window drops nothing. -/
theorem dropLoop_stay {argumentId : Nat} {h : Handle} (front : h.inWindow 0 = .ok true) :
    h.dropLoop argumentId = .ok h := by
  refine whileLoop_exit ?_
  rw [front]
  rfl

/-- The test of the emission loop, for a deque of `n + 1` tuples. -/
theorem newestOut_eq {s : Handle × List Emission} {n : Nat} {inside : Bool}
    (length : s.1.window.length = n + 1) (test : s.1.inWindow n = .ok inside) :
    Handle.newestOut s = .ok !inside := by
  rw [Handle.newestOut, length, Nat.add_sub_cancel, test]
  rfl

/-- A round of the emission loop that drops nothing. -/
theorem emitRound_stay {argumentId : Nat} {s : Handle × List Emission} {row : List TypedValue}
    {moved : Handle} (output : s.1.getOutput = .ok row) (move : s.1.moveForward = .ok moved)
    (front : moved.inWindow 0 = .ok true) :
    Handle.emitRound argumentId s = .ok (moved, s.2 ++ [⟨row, s.1.sum, s.1.count⟩]) := by
  rw [Handle.emitRound, output, Exec.ok_bind, move, Exec.ok_bind, dropLoop_stay front, Exec.ok_bind]
  rfl

/-- Window aggregation moves to the next tuple. -/
theorem moveForward_tuple {h : Handle} (emit : h.emitDuration = none) :
    h.moveForward = .ok { h with currentTupleIndex := h.currentTupleIndex + 1 } := by
  simp only [Handle.moveForward, emit]
  rfl

/-- Streaming aggregation moves to the next value. -/
theorem moveForward_value {h : Handle} {emitDuration value next : ℚ} {preceding : Option ℚ}
    {following : ℚ} (emit : h.emitDuration = some emitDuration)
    (frame : h.frame = .range preceding following) (current : h.currentValue = some value)
    (add : h.operators.rangeAdd value emitDuration = .ok next) :
    h.moveForward = .ok { h with currentValue := some next } := by
  simp only [Handle.moveForward, emit, frame, current, add]
  rfl

/-- The newest tuple is in the window, and joins the accumulators without an emission. -/
theorem Arrives.joins {argumentId : Nat} {h : Handle} {emissions : List Emission} {t : Tuple}
    (inside : ({ h with window := h.window ++ [t] } : Handle).inWindow h.window.length = .ok true) :
    Arrives argumentId (h, emissions) t
      (({ h with window := h.window ++ [t] } : Handle).addBack argumentId t, emissions) := by
  refine arrives_iff.mpr ⟨pushBack (h, emissions) t, t, Ends.exit ?_, by simp [pushBack], rfl⟩
  exact newestOut_eq (s := pushBack (h, emissions) t) (by simp [pushBack]) inside

/-! ## Streams -/

/-- The streaming value of a tuple. -/
def streamingValue (streamingId : Nat) (t : Tuple) : ℚ := (getNumber t streamingId).getD 0

/-- A stream whose streaming attribute is never NULL and never decreases. -/
structure NonDecreasing (streamingId : Nat) (stream : List Tuple) : Prop where
  nonNull : ∀ t ∈ stream, getNumber t streamingId = some (streamingValue streamingId t)
  ordered : stream.Pairwise fun t u => streamingValue streamingId t ≤ streamingValue streamingId u

theorem NonDecreasing.le {streamingId : Nat} {stream : List Tuple}
    (h : NonDecreasing streamingId stream) {i j : Nat} (le : i ≤ j) (bound : j < stream.length) :
    streamingValue streamingId (stream.getD i []) ≤ streamingValue streamingId (stream.getD j []) := by
  rw [List.getD_eq_getElem _ _ (by omega), List.getD_eq_getElem _ _ bound]
  rcases Nat.eq_or_lt_of_le le with rfl | lt
  · exact le_refl _
  · exact List.pairwise_iff_getElem.mp h.ordered i j (by omega) bound lt

/-- A tuple with a time and a value. -/
def reading (time value : ℚ) : Tuple := [.number time, .number value]

/-- The tuples at the positions that satisfy `keep`, in stream order. -/
def atPositions (keep : Nat → Bool) (stream : List Tuple) : List Tuple :=
  (stream.zipIdx.filter fun entry => keep entry.2).map Prod.fst

/-- Positions that form a prefix select that prefix. -/
theorem atPositions_prefix {keep : Nat → Bool} {stream : List Tuple} {m : Nat}
    (inside : ∀ j, j < stream.length → (keep j = true ↔ j < m)) :
    atPositions keep stream = stream.take m := by
  have split : stream.zipIdx =
      (stream.take m).zipIdx ++ (stream.drop m).zipIdx (min m stream.length) := by
    conv_lhs => rw [← List.take_append_drop m stream]
    rw [List.zipIdx_append, Nat.zero_add, List.length_take]
  rw [atPositions, split, List.filter_append, List.map_append, List.filter_eq_self.mpr,
    List.filter_eq_nil_iff.mpr]
  · simp
  · rintro ⟨t, j⟩ mem
    have bounds := List.mem_zipIdx mem
    simp only [List.length_drop] at bounds
    rw [inside j (by omega)]
    omega
  · rintro ⟨t, j⟩ mem
    have bounds := List.mem_zipIdx mem
    simp only [List.length_take] at bounds
    exact (inside j (by omega)).mpr (by omega)

end Quickstep.Expressions.WindowAggregation
