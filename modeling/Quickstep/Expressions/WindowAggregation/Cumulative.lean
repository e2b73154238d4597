import Quickstep.Expressions.WindowAggregation.Runs
import Quickstep.Types.CalendarArithmetic

/-!
# Cumulative frames

Window aggregation with UNBOUNDED PRECEDING, in ROWS and in RANGE mode. A tuple's frame is closed
by the first later tuple behind it. Nothing is dropped, so the accumulators always describe the
whole deque, and a row is emitted at the moment its frame is closed.
-/

namespace Quickstep.Expressions.WindowAggregation
open Quickstep.Lib

/-- UNBOUNDED PRECEDING frames. RANGE frames of window aggregation have no start value. -/
def Cumulative (startValue : Option ℚ) : Frame → Prop
  | .rows none following => 0 ≤ following
  | .range none following => 0 ≤ following ∧ startValue = none
  | .rows (some _) _ | .range (some _) _ => False

/-- In RANGE mode the streaming attribute orders the stream; in ROWS mode nothing is asked of it. -/
def Ordered (streamingId : Nat) (stream : List Tuple) : Frame → Prop
  | .rows _ _ => True
  | .range _ _ => NonDecreasing streamingId stream

instance (bound : Exec ℚ) (value : ℚ) : Decidable (∃ b, bound = .ok b ∧ b < value) :=
  match bound with
  | .ok b => decidable_of_iff (b < value) (by simp)
  | .error _ => isFalse (by simp)

/-- Tuple `j` lies behind the frame of tuple `i`, by position or by streaming value. -/
def Behind (operators : Operators) (streamingId : Nat) (stream : List Tuple) (i j : Nat) : Frame → Prop
  | .rows _ following => (i : Int) + following < j
  | .range _ following => ∃ bound,
    operators.rangeAdd (streamingValue streamingId (stream.getD i [])) following = .ok bound ∧
      bound < streamingValue streamingId (stream.getD j [])

instance (operators : Operators) (streamingId : Nat) (stream : List Tuple) (i j : Nat) :
    (frame : Frame) → Decidable (Behind operators streamingId stream i j frame)
  | .rows _ following => inferInstanceAs (Decidable ((i : Int) + following < j))
  | .range _ following =>
    inferInstanceAs (Decidable (∃ bound, operators.rangeAdd _ following = .ok bound ∧ bound < _))

/-- The upper bounds of the frames do not overflow. -/
def Bounded (operators : Operators) (streamingId : Nat) (stream : List Tuple) : Frame → Prop
  | .rows _ _ => True
  | .range _ following => ∀ t ∈ stream,
    (operators.rangeAdd (streamingValue streamingId t) following).Returns

theorem behind_range_iff {operators : Operators} {streamingId : Nat} {stream : List Tuple} {i j : Nat}
    {preceding : Option ℚ} {following bound : ℚ}
    (add : operators.rangeAdd (streamingValue streamingId (stream.getD i [])) following = .ok bound) :
    Behind operators streamingId stream i j (.range preceding following) ↔
      bound < streamingValue streamingId (stream.getD j []) := by
  constructor
  · rintro ⟨bound', add', below⟩
    obtain rfl := Except.ok.inj (add.symm.trans add')
    exact below
  · intro below
    exact ⟨bound, add, below⟩

section ClosingRange

variable {operators : Operators} {streamingId : Nat} {stream : List Tuple} {i i' j : Nat}
  {preceding : Option ℚ} {following : ℚ} (ordered : NonDecreasing streamingId stream)
  (monotone : operators.Monotone) (nonneg : 0 ≤ following)
  (behind : Behind operators streamingId stream i j (.range preceding following))
include ordered monotone nonneg behind

theorem Behind.earlier_range (le : i' ≤ i) (bound : i < stream.length) :
    Behind operators streamingId stream i' j (.range preceding following) := by
  obtain ⟨high, add, below⟩ := behind
  obtain ⟨lower, add', le'⟩ := monotone.rangeAdd_mono nonneg (ordered.le le bound) add
  exact ⟨lower, add', lt_of_le_of_lt le' below⟩

theorem Behind.lt_range (bound : i < stream.length) : i < j := by
  by_contra le
  obtain ⟨high, add, below⟩ := behind
  have rise := ordered.le (Nat.le_of_not_lt le) bound
  exact absurd (le_trans rise (monotone.le_rangeAdd nonneg add)) (not_le.mpr below)

end ClosingRange

section Closing

variable {operators : Operators} {streamingId : Nat} {startValue : Option ℚ} {frame : Frame}
  {stream : List Tuple} (ordered : Ordered streamingId stream frame)
include ordered

/-- A frame closed by a tuple is closed for every later one. -/
theorem Behind.later {i j k : Nat} (behind : Behind operators streamingId stream i j frame)
    (le : j ≤ k) (bound : k < stream.length) : Behind operators streamingId stream i k frame := by
  cases frame with
  | rows preceding following =>
    simp only [Behind] at *
    omega
  | range preceding following =>
    obtain ⟨high, add, below⟩ := behind
    exact ⟨high, add, lt_of_lt_of_le below (NonDecreasing.le ordered le bound)⟩

variable (monotone : operators.Monotone) (cumulative : Cumulative startValue frame)
include monotone cumulative

/-- A tuple that closes a frame has closed the frames before it. -/
theorem Behind.earlier {i i' j : Nat} (behind : Behind operators streamingId stream i j frame)
    (le : i' ≤ i) (bound : i < stream.length) : Behind operators streamingId stream i' j frame := by
  cases frame with
  | rows preceding following =>
    simp only [Behind] at *
    omega
  | range preceding following =>
    cases preceding with
    | none => exact behind.earlier_range ordered monotone cumulative.1 le bound
    | some _ => exact absurd cumulative id

/-- Only a later tuple closes a frame. -/
theorem Behind.lt {i j : Nat} (behind : Behind operators streamingId stream i j frame)
    (bound : i < stream.length) : i < j := by
  cases frame with
  | rows preceding following =>
    cases preceding with
    | none =>
      simp only [Behind, Cumulative] at *
      omega
    | some _ => exact absurd cumulative id
  | range preceding following =>
    cases preceding with
    | none => exact behind.lt_range ordered monotone cumulative.1 bound
    | some _ => exact absurd cumulative id

end Closing

/-! ## The loop invariant -/

/-- The row of tuple `i`, emitted when tuple `m` closed its frame. -/
structure ClosedRow (operators : Operators) (streamingId argumentId : Nat) (frame : Frame)
    (stream : List Tuple) (i m : Nat) (row : List TypedValue) : Prop where
  closes : Behind operators streamingId stream i m frame
  first : ∀ j, j < m → ¬ Behind operators streamingId stream i j frame
  row : row = stream.getD i [] ++ [operators.averageOf argumentId (stream.take m)]

/-- The handle has received `received` tuples and its accumulators count the first `counted`. -/
structure CumulativeState (operators : Operators) (streamingId argumentId : Nat)
    (startValue : Option ℚ) (frame : Frame) (stream : List Tuple) (received counted : Nat)
    (s : Handle × List Emission) : Prop where
  handle : SameHandle
    (Handle.create streamingId (.ofAttribute argumentId) none startValue frame operators) s.1
  currentValue : s.1.currentValue = startValue
  window : s.1.window = stream.take received
  sum : s.1.sum = operators.sumOf argumentId (stream.take counted)
  count : s.1.count = (arguments argumentId (stream.take counted)).length
  index : s.1.currentTupleIndex = s.2.length
  bound : s.2.length ≤ counted
  notClosed : ∀ j, j < counted → ¬ Behind operators streamingId stream s.2.length j frame
  rows : ∀ i, (h : i < s.2.length) → ∃ m, m < received ∧
    ClosedRow operators streamingId argumentId frame stream i m s.2[i].row

section Invariant

variable {operators : Operators} {streamingId argumentId : Nat} {startValue : Option ℚ}
  {frame : Frame} {stream : List Tuple} {n counted : Nat} {s : Handle × List Emission}
  (monotone : operators.Monotone) (cumulative : Cumulative startValue frame)
  (ordered : Ordered streamingId stream frame) (bounded : Bounded operators streamingId stream frame)

theorem CumulativeState.start :
    CumulativeState operators streamingId argumentId startValue frame stream 0 0
      (Handle.create streamingId (.ofAttribute argumentId) none startValue frame operators, []) where
  handle := SameHandle.refl _
  currentValue := rfl
  window := rfl
  sum := rfl
  count := rfl
  index := rfl
  bound := Nat.le_refl 0
  notClosed := fun _ h => absurd h (Nat.not_lt_zero _)
  rows := fun _ h => absurd h (Nat.not_lt_zero _)

theorem sizeTAdd_natCast (position offset : Nat) : sizeTAdd position offset = position + offset := by
  simp only [sizeTAdd]
  rw [if_neg (by omega)]
  omega

include cumulative ordered bounded

/-- The frame test of a cumulative frame, on the tuples received so far. -/
theorem CumulativeState.inWindow
    (state : CumulativeState operators streamingId argumentId startValue frame stream (n + 1) counted s)
    (size : n < stream.length) (index : s.2.length ≤ n) {k : Nat} (received : k ≤ n) :
    s.1.inWindow k =
      .ok (decide (k = s.2.length ∨ ¬ Behind operators streamingId stream s.2.length k frame)) := by
  have frame_eq : s.1.frame = frame := state.handle.frame
  have id_eq : s.1.streamingAttributeId = streamingId := state.handle.streamingAttributeId
  have at_ (i : Nat) (h : i ≤ n) : s.1.tupleAt i = .ok (stream.getD i []) := by
    rw [Handle.tupleAt, state.window, List.getElem?_take_of_lt (by omega),
      List.getElem?_eq_getElem (by omega), List.getD_eq_getElem _ _ (by omega)]
  simp only [Handle.inWindow, state.index, frame_eq]
  by_cases current : k = s.2.length
  · simp [current]
    rfl
  rw [if_neg current]
  cases frame with
  | rows preceding following =>
    cases preceding with
    | some _ => exact absurd cumulative id
    | none =>
      obtain ⟨f, rfl⟩ := Int.eq_ofNat_of_zero_le (show 0 ≤ following from cumulative)
      simp only [Handle.inRows, sizeTAdd_natCast, Behind, current, false_or]
      refine congrArg Except.ok ?_
      rw [if_neg (by simp)]
      congr 1
      apply propext
      omega
  | range preceding following =>
    cases preceding with
    | some _ => exact absurd cumulative id
    | none =>
      obtain ⟨_, rfl⟩ := cumulative
      have operators_eq : s.1.operators = operators := state.handle.operators
      have number (i : Nat) (h : i ≤ n) : getNumber (stream.getD i []) streamingId =
          some (streamingValue streamingId (stream.getD i [])) := by
        refine NonDecreasing.nonNull ordered _ ?_
        rw [List.getD_eq_getElem _ _ (by omega)]
        exact List.getElem_mem _
      obtain ⟨high, add⟩ := bounded (stream.getD s.2.length []) (by
        rw [List.getD_eq_getElem _ _ (by omega)]
        exact List.getElem_mem _)
      simp only [state.currentValue, id_eq, operators_eq, at_ _ index, at_ _ received, Exec.ok_bind,
        pure_bind]
      rw [number _ index, number _ received, inRange_unbounded add]
      simp only [behind_range_iff add, current, false_or, not_lt]

include monotone

/-- One round of the emission loop emits the row whose frame the newest tuple closes. -/
theorem CumulativeState.emits
    (state : CumulativeState operators streamingId argumentId startValue frame stream (n + 1) n s)
    (size : n < stream.length) (closes : Behind operators streamingId stream s.2.length n frame) :
    ∃ next, Handle.emitRound argumentId s = .ok next ∧ next.2.length = s.2.length + 1 ∧
      CumulativeState operators streamingId argumentId startValue frame stream (n + 1) n next := by
  have before : s.2.length < n :=
    closes.lt ordered monotone cumulative (by have := state.bound; omega)
  have emit : s.1.emitDuration = none := state.handle.emitDuration
  have current : s.1.tupleAt s.1.currentTupleIndex = .ok (stream.getD s.2.length []) := by
    rw [Handle.tupleAt, state.window, state.index, List.getElem?_take_of_lt (by omega),
      List.getElem?_eq_getElem (by omega), List.getD_eq_getElem _ _ (by omega)]
  have output : s.1.getOutput =
      .ok (stream.getD s.2.length [] ++ [operators.averageOf argumentId (stream.take n)]) := by
    rw [Handle.getOutput, emit, state.handle.operators, Operators.averageOf, ← state.sum, ← state.count]
    simp only [current]
    rfl
  let row : Emission :=
    ⟨stream.getD s.2.length [] ++ [operators.averageOf argumentId (stream.take n)], s.1.sum, s.1.count⟩
  let next : Handle × List Emission :=
    ({ s.1 with currentTupleIndex := s.1.currentTupleIndex + 1 }, s.2 ++ [row])
  have move := moveForward_tuple emit
  have after : CumulativeState operators streamingId argumentId startValue frame stream (n + 1) n next := by
    refine ⟨state.handle.trans (SameHandle.moveForward move), state.currentValue, state.window,
      state.sum, state.count, ?_, ?_, ?_, ?_⟩
    · simp only [next, state.index, List.length_append, List.length_singleton]
    · simp only [next, List.length_append, List.length_singleton]
      omega
    · intro j lt behind
      simp only [next, List.length_append, List.length_singleton] at behind
      exact state.notClosed j lt
        (behind.earlier ordered monotone cumulative (by omega) (by omega))
    · intro i h
      simp only [next, List.length_append, List.length_singleton] at h
      rcases Nat.lt_succ_iff_lt_or_eq.mp h with old | rfl
      · obtain ⟨m, lt, closed⟩ := state.rows i old
        refine ⟨m, lt, ?_⟩
        simpa only [next, List.getElem_append_left old] using closed
      · refine ⟨n, Nat.lt_succ_self n, closes, state.notClosed, ?_⟩
        simp only [next, List.getElem_append_right (Nat.le_refl _), Nat.sub_self,
          List.getElem_singleton, row]
  have stay : next.1.inWindow 0 = .ok true := by
    have length : next.2.length = s.2.length + 1 := by simp [next]
    rw [after.inWindow cumulative ordered bounded size (by omega) (Nat.zero_le n)]
    refine congrArg Except.ok (decide_eq_true (.inr fun behind => ?_))
    have := behind.lt ordered monotone cumulative (by omega)
    omega
  exact ⟨next, emitRound_stay output move stay, by simp [next], after⟩

/-- The emission loop ends, at a frame the newest tuple does not close. -/
theorem CumulativeState.loop
    (state : CumulativeState operators streamingId argumentId startValue frame stream (n + 1) n s)
    (size : n < stream.length) :
    ∃ e, Ends Handle.newestOut (Handle.emitRound argumentId) s e ∧
      ¬ Behind operators streamingId stream e.2.length n frame ∧
      CumulativeState operators streamingId argumentId startValue frame stream (n + 1) n e := by
  have length : s.1.window.length = n + 1 := by rw [state.window, List.length_take_of_le size]
  have test := newestOut_eq length
    (state.inWindow cumulative ordered bounded size state.bound (Nat.le_refl n))
  -- Every round moves the current frame one tuple closer to the newest one.
  induction k : n - s.2.length generalizing s with
  | zero =>
    have here : n = s.2.length := by have := state.bound; omega
    rw [decide_eq_true (.inl here)] at test
    refine ⟨s, Ends.exit test, fun behind => ?_, state⟩
    have := behind.lt ordered monotone cumulative (by omega)
    omega
  | succ k ih =>
    by_cases closes : Behind operators streamingId stream s.2.length n frame
    · obtain ⟨next, round, emitted, after⟩ :=
        state.emits monotone cumulative ordered bounded size closes
      have length' : next.1.window.length = n + 1 := by
        rw [after.window, List.length_take_of_le size]
      obtain ⟨e, ends, final⟩ := ih after length' (newestOut_eq length'
        (after.inWindow cumulative ordered bounded size after.bound (Nat.le_refl n))) (by omega)
      have before : n ≠ s.2.length := by omega
      rw [decide_eq_false (by simp [before, closes])] at test
      exact ⟨e, Ends.round test round ends, final⟩
    · rw [decide_eq_true (.inr closes)] at test
      exact ⟨s, Ends.exit test, closes, state⟩

/-- **One arrival**: the frames the new tuple closes are emitted, and the tuple is counted. -/
theorem CumulativeState.arrives
    (state : CumulativeState operators streamingId argumentId startValue frame stream n n s)
    (size : n < stream.length) :
    ∃ s', Arrives argumentId s stream[n] s' ∧
      CumulativeState operators streamingId argumentId startValue frame stream (n + 1) (n + 1) s' := by
  have taken : stream.take (n + 1) = stream.take n ++ [stream[n]] :=
    List.take_succ_eq_append_getElem size
  have pushed : CumulativeState operators streamingId argumentId startValue frame stream (n + 1) n
      (pushBack s stream[n]) := by
    refine ⟨state.handle.trans ⟨rfl, rfl, rfl, rfl, rfl⟩, state.currentValue, ?_, state.sum, state.count,
      state.index, state.bound, state.notClosed, fun i h => ?_⟩
    · rw [taken, ← state.window]
      rfl
    · obtain ⟨m, lt, closed⟩ := state.rows i h
      exact ⟨m, Nat.lt_succ_of_lt lt, closed⟩
  obtain ⟨e, ends, notClosed, final⟩ := pushed.loop monotone cumulative ordered bounded size
  have operators_eq : e.1.operators = operators := final.handle.operators
  obtain ⟨sum, count⟩ := addBack_accumulators e.1 argumentId stream[n]
    (by rw [operators_eq, final.sum]) final.count
  refine ⟨_, arrives_iff.mpr ⟨e, stream[n], ends, ?_, rfl⟩, ?_⟩
  · rw [final.window, taken, List.getLast?_concat]
  · refine ⟨final.handle.trans (SameHandle.addBack e.1 argumentId stream[n]), ?_, ?_, ?_, ?_, ?_,
      Nat.le_succ_of_le final.bound, ?_, final.rows⟩
    · rw [addBack_currentValue, final.currentValue]
    · rw [addBack_window, final.window]
    · rw [sum, taken, operators_eq]
    · rw [count, taken]
    · rw [addBack_currentTupleIndex, final.index]
    · intro j lt
      rcases Nat.lt_succ_iff_lt_or_eq.mp lt with before | rfl
      · exact final.notClosed j before
      · exact notClosed

/-- The state after a prefix of the stream. -/
theorem CumulativeState.received (argumentId : Nat) (size : n ≤ stream.length) :
    ∃ s, Received argumentId
        (Handle.create streamingId (.ofAttribute argumentId) none startValue frame operators, [])
        (stream.take n) s ∧
      CumulativeState operators streamingId argumentId startValue frame stream n n s := by
  induction n with
  | zero => exact ⟨_, by rw [List.take_zero]; exact .nil _, CumulativeState.start⟩
  | succ n ih =>
    obtain ⟨mid, before, state⟩ := ih (Nat.le_of_succ_le size)
    obtain ⟨s, arrives, after⟩ := state.arrives monotone cumulative ordered bounded size
    refine ⟨s, ?_, after⟩
    rw [List.take_succ_eq_append_getElem size]
    exact Folds.append_iff.mpr ⟨mid, before, .cons arrives (.nil s)⟩

end Invariant

/-- What cumulative frames are to deliver after successive calls: the deque holds the whole stream,
counted by the accumulators, and there is one row for each tuple whose frame a later tuple closed,
in stream order, with the average over the tuples before it or in its frame. -/
def CumulativeAverages (operators : Operators) (streamingId argumentId : Nat) (startValue : Option ℚ)
    (frame : Frame) (batches : List (List Tuple)) : Prop :=
  let stream := batches.flatten
  ∃ h emissions,
    (Handle.create streamingId (.ofAttribute argumentId) none startValue frame operators).Returns batches
      h emissions ∧
    Intact argumentId h stream ∧
    (∀ i, i < emissions.length ↔
      ∃ j, i < j ∧ j < stream.length ∧ Behind operators streamingId stream i j frame) ∧
    ∀ i, (_ : i < emissions.length) → emissions[i].row = stream.getD i [] ++
      [operators.averageOf argumentId
        (atPositions (fun j => j ≤ i ∨ ¬ Behind operators streamingId stream i j frame) stream)]

theorem reading_nonDecreasing {t₁ t₂ v₁ v₂ : ℚ} (le : t₁ ≤ t₂) :
    NonDecreasing 0 [reading t₁ v₁, reading t₂ v₂] := by
  constructor
  · simp [reading, getNumber, streamingValue, TypedValue.number?]
  · simpa [reading, getNumber, streamingValue, TypedValue.number?] using le

/-- With a start value the RANGE test looks at that value and not at the current tuple, so the first
reading has no row although the second one closes its frame. -/
theorem start_value_delays_rows :
    ¬ CumulativeAverages .exact 0 1 (some 100) (.range none 0) [[reading 0 1, reading 1 2]] := by
  rintro ⟨h, emissions, returns, -, rows, -⟩
  have first : Arrives 1 (Handle.create 0 (.ofAttribute 1) none (some 100) (.range none 0), [])
      (reading 0 1) _ := Arrives.joins rfl
  have second : Arrives 1 (({ Handle.create 0 (.ofAttribute 1) none (some 100) (.range none 0) with
      window := [reading 0 1] } : Handle).addBack 1 (reading 0 1), []) (reading 1 2) _ := .joins (by
    simp [Handle.addBack, Handle.inWindow, Handle.inRange, Handle.create, Handle.tupleAt, reading,
      getNumber, TypedValue.number?, Operators.exact, pure, Except.pure, bind, Except.bind])
  have empty := (returns_unique returns ((returns_iff rfl).mpr
    (Folds.cons first (Folds.cons second (.nil _))))).2
  subst empty
  have closed := (rows 0).mpr ⟨1, by decide, by decide, _, rfl, by
    simp [reading, getNumber, streamingValue, TypedValue.number?]⟩
  exact Nat.not_lt_zero 0 closed

/-- The upper bound of the frame of the first reading overflows when the second one is tested. -/
theorem overflow_has_no_result :
    ¬ CumulativeAverages .int 0 1 none (.range none 10)
      [[reading 2147483645 1, reading 2147483646 2]] := by
  rintro ⟨h, emissions, returns, -⟩
  obtain ⟨mid, first, rest⟩ := Folds.cons_iff.mp ((returns_iff rfl).mp returns)
  obtain ⟨_, second, _⟩ := Folds.cons_iff.mp rest
  have joins : Arrives 1 (Handle.create 0 (.ofAttribute 1) none none (.range none 10) .int, [])
      (reading 2147483645 1) _ := Arrives.joins rfl
  obtain rfl := Received.unique (.cons first (.nil mid)) (.cons joins (.nil _))
  obtain ⟨e, back, ends, -⟩ := arrives_iff.mp second
  have fault : Handle.newestOut (pushBack (({ Handle.create 0 (.ofAttribute 1) none none
      (.range none 10) .int with window := [reading 2147483645 1] } : Handle).addBack 1
      (reading 2147483645 1), []) (reading 2147483646 2)) = .error .undefinedBehaviour := by
    have add : Operators.int.rangeAdd 2147483645 10 = .error .undefinedBehaviour := if_neg (by norm_num)
    simp [Handle.newestOut, pushBack, Handle.addBack, Handle.inWindow, Handle.inRange, Handle.create,
      Handle.tupleAt, reading, getNumber, TypedValue.number?, add, pure, Except.pure, bind, Except.bind]
  rcases ends.cases_first with ⟨done, -⟩ | ⟨next, again, -⟩
  · cases fault.symm.trans done
  · cases fault.symm.trans again

/-- Datetimes and months: values are ticks, and the operators are those of the calendar, which clamp the
day of the month. -/
def Operators.yearMonth (platform : Types.Platform) : Operators :=
  { exact with
    rangeAdd := fun current offset => do
      let ticks ← Types.operatorPlus platform (BitVec.ofInt 64 current.num) (BitVec.ofInt 64 offset.num)
      pure (ticks : ℚ)
    rangeSubtract := fun current offset => do
      let ticks ← Types.operatorMinus platform (BitVec.ofInt 64 current.num) (BitVec.ofInt 64 offset.num)
      pure (ticks : ℚ) }

/-- 23:00 of January 30, 1:00 of January 31 and noon of February 28, 1970. -/
def endOfJanuary : List Tuple :=
  [reading 2588400000000 1, reading 2595600000000 2, reading 5054400000000 3]

theorem endOfJanuary_nonDecreasing : NonDecreasing 0 endOfJanuary := by
  constructor
  · simp [endOfJanuary, reading, getNumber, streamingValue, TypedValue.number?]
  · norm_num [endOfJanuary, reading, getNumber, streamingValue, TypedValue.number?]

/-- A month later the first bound is 23:00 of February 28, and the second one 1:00 of that day. The third
reading closes the second frame alone, and no row is emitted. -/
theorem clamped_day_delays_row :
    ¬ CumulativeAverages (.yearMonth Types.utcPlatform) 0 1 none (.range none 1) [endOfJanuary] := by
  have add (current bound : Int) (ticks : Types.operatorPlus Types.utcPlatform (BitVec.ofInt 64 current) 1 =
      .ok bound) : (Operators.yearMonth Types.utcPlatform).rangeAdd current 1 = .ok (bound : ℚ) := by
    show (do
      let ticks ← Types.operatorPlus Types.utcPlatform (BitVec.ofInt 64 (current : ℚ).num) 1
      pure (ticks : ℚ) : Exec ℚ) = _
    rw [Rat.num_intCast, ticks]
    rfl
  have bound : (Operators.yearMonth Types.utcPlatform).rangeAdd 2588400000000 1 = .ok 5094000000000 :=
    add 2588400000000 5094000000000 (by decide +kernel)
  have bound' : (Operators.yearMonth Types.utcPlatform).rangeAdd 2595600000000 1 = .ok 5014800000000 :=
    add 2595600000000 5014800000000 (by decide +kernel)
  rintro ⟨h, emissions, returns, -, rows, -⟩
  let start := Handle.create 0 (.ofAttribute 1) none none (.range none 1)
    (.yearMonth Types.utcPlatform)
  let one := ({ start with window := [reading 2588400000000 1] } : Handle).addBack 1
    (reading 2588400000000 1)
  let two := ({ one with window := one.window ++ [reading 2595600000000 2] } : Handle).addBack 1
    (reading 2595600000000 2)
  have first : Arrives 1 (start, []) (reading 2588400000000 1) (one, []) := Arrives.joins rfl
  have second : Arrives 1 (one, []) (reading 2595600000000 2) (two, []) := .joins (by
    norm_num [one, start, Handle.addBack, Handle.inWindow, Handle.inRange, Handle.create, Handle.tupleAt,
      reading, getNumber, TypedValue.number?, bound, pure, Except.pure, bind, Except.bind])
  have third : Arrives 1 (two, []) (reading 5054400000000 3) _ := .joins (by
    norm_num [two, one, start, Handle.addBack, Handle.inWindow, Handle.inRange, Handle.create,
      Handle.tupleAt, reading, getNumber, TypedValue.number?, bound, pure, Except.pure, bind, Except.bind])
  have empty := (returns_unique returns ((returns_iff rfl).mpr
    (Folds.cons first (Folds.cons second (Folds.cons third (.nil _)))))).2
  subst empty
  have closed := (rows 1).mpr ⟨2, by decide, by decide, _, bound', by
    norm_num [endOfJanuary, reading, getNumber, streamingValue, TypedValue.number?]⟩
  exact Nat.not_lt_zero 1 closed

end Quickstep.Expressions.WindowAggregation
