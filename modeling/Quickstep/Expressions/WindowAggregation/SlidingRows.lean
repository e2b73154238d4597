import Quickstep.Expressions.WindowAggregation.Runs

/-!
# Sliding frames in ROWS mode

Window aggregation with a bounded number of preceding rows. The difference of the current tuple
index and the bound wraps around near the start of the stream, and the index is not adjusted when
tuples leave the deque: as soon as the front is found outside the window, the whole deque is
dropped and `front()` is called on an empty deque. Before that happens at most one row is emitted.
-/

namespace Quickstep.Expressions.WindowAggregation
open Quickstep.Lib

/-- The frame of `p` preceding and `f` following rows. -/
def rowsFrame (p f : Nat) : Frame := .rows (some (p : Int)) (f : Int)

/-- The wrapped lower end of the frame. -/
theorem sizeTAdd_neg {position p : Nat} (small : p < 2 ^ 64) :
    sizeTAdd position (-p) = if p ≤ position then position - p else 2 ^ 64 + position - p := by
  simp only [sizeTAdd]
  split <;> split <;> omega

/-- The frame test of ROWS mode with exact bounds in place of `size_t` arithmetic. -/
theorem inRows_eq {p f position k : Nat} (small : p < 2 ^ 64) :
    Handle.inRows (some (p : Int)) f position k =
      decide ((if p ≤ position then position - p else 2 ^ 64 + position - p) ≤ k ∧ k ≤ position + f) := by
  have upper : sizeTAdd position f = position + f := by
    simp only [sizeTAdd]
    rw [if_neg (by omega)]
    omega
  simp only [Handle.inRows, Option.any_some, sizeTAdd_neg small, upper, decide_eq_true_eq]
  by_cases low : k < if p ≤ position then position - p else 2 ^ 64 + position - p
  · rw [if_pos low, eq_comm, decide_eq_false_iff_not]
    omega
  · rw [if_neg low]
    congr 1
    apply propext
    omega

section Rows

variable {streamingId argumentId p f : Nat} {startValue : Option ℚ} {operators : Operators}

/-- The state of a ROWS handle that has received the tuples `ts` and still holds all of them. -/
structure RowsState (streamingId argumentId p f : Nat) (startValue : Option ℚ) (operators : Operators)
    (ts : List Tuple) (index : Nat) (h : Handle) : Prop where
  handle : SameHandle
    (Handle.create streamingId (.ofAttribute argumentId) none startValue (rowsFrame p f) operators) h
  intact : Intact argumentId h ts
  index : h.currentTupleIndex = index

theorem RowsState.start :
    RowsState streamingId argumentId p f startValue operators [] 0
      (Handle.create streamingId (.ofAttribute argumentId) none startValue (rowsFrame p f) operators) :=
  ⟨SameHandle.refl _, intact_create argumentId streamingId none startValue _ _, rfl⟩

theorem inWindow_rows {h : Handle} {preceding : Option Int} {following : Int}
    (frame : h.frame = .rows preceding following) (k : Nat) :
    h.inWindow k = .ok (decide (k = h.currentTupleIndex)
      || Handle.inRows preceding following h.currentTupleIndex k) := by
  by_cases current : k = h.currentTupleIndex
  · simp [Handle.inWindow, current, pure, Except.pure]
  · simp [Handle.inWindow, current, frame, pure, Except.pure]

/-- A tuple inside the window of the current tuple joins it. -/
theorem RowsState.joins {ts : List Tuple} {index : Nat} {h : Handle}
    (state : RowsState streamingId argumentId p f startValue operators ts index h) (emissions : List Emission)
    (t : Tuple) (inside : ts.length = index ∨ Handle.inRows (some (p : Int)) f index ts.length = true) :
    ∃ h', Arrives argumentId (h, emissions) t (h', emissions) ∧
      RowsState streamingId argumentId p f startValue operators (ts ++ [t]) index h' := by
  have arrives : Arrives argumentId (h, emissions) t _ := Arrives.joins (by
    rw [inWindow_rows (h := { h with window := h.window ++ [t] }) state.handle.frame]
    simp only [state.index, state.intact.window]
    rcases inside with current | inside
    · rw [decide_eq_true current, Bool.true_or]
    · rw [inside, Bool.or_true])
  refine ⟨_, arrives, ?_, state.intact.addBack, ?_⟩
  · exact state.handle.trans (SameHandle.arrives arrives)
  · rw [addBack_currentTupleIndex]
    exact state.index

/-- Tuples inside the window of the current tuple join it one after the other. -/
theorem RowsState.joinAll {ts : List Tuple} {index : Nat} {h : Handle}
    (state : RowsState streamingId argumentId p f startValue operators ts index h) (us : List Tuple)
    (emissions : List Emission)
    (inside : ∀ k, ts.length ≤ k → k < ts.length + us.length →
      k = index ∨ Handle.inRows (some (p : Int)) f index k = true) :
    ∃ h', Received argumentId (h, emissions) us (h', emissions) ∧
      RowsState streamingId argumentId p f startValue operators (ts ++ us) index h' := by
  induction us generalizing ts h with
  | nil => exact ⟨h, .nil _, by rwa [List.append_nil]⟩
  | cons u us ih =>
    simp only [List.length_cons] at inside
    obtain ⟨mid, first, joined⟩ :=
      state.joins emissions u (inside ts.length (Nat.le_refl _) (by omega))
    obtain ⟨h', rest, final⟩ := ih joined fun k lower upper => by
      simp only [List.length_append, List.length_singleton] at lower upper
      exact inside k (by omega) (by omega)
    refine ⟨h', .cons first rest, ?_⟩
    rwa [List.append_assoc, List.singleton_append] at final

/-- Once the front of the deque is outside the window, no number of drops ends the loop. -/
theorem dropLoop_rows_fails {h h' : Handle} {preceding : Option Int} {following : Int}
    (frame : h.frame = .rows preceding following) (index : h.currentTupleIndex ≠ 0)
    (front : Handle.inRows preceding following h.currentTupleIndex 0 = false) :
    h.dropLoop argumentId ≠ .ok h' := fun drop => by
  refine not_ends_of_forever
    (fun s => s.frame = h.frame ∧ s.currentTupleIndex = h.currentTupleIndex) ⟨rfl, rfl⟩
    ?_ ?_ ⟨_, drop⟩
  · intro s next round inv
    simp only [Handle.dropFront] at round
    split at round
    · cases round
    · cases round
      simp only [Handle.subtractFront]
      split <;> exact inv
  · rintro s ⟨sameFrame, sameIndex⟩
    rw [inWindow_rows (sameFrame.trans frame), sameIndex, decide_eq_false (Ne.symm index), front]
    intro done
    cases done

/-- A tuple behind the window does not arrive when the next window excludes the front. -/
theorem RowsState.not_arrives {ts : List Tuple} {index : Nat} {h : Handle}
    (state : RowsState streamingId argumentId p f startValue operators ts index h) {emissions : List Emission}
    {t : Tuple} {s' : Handle × List Emission} (other : ts.length ≠ index)
    (outside : Handle.inRows (some (p : Int)) f index ts.length = false)
    (front : Handle.inRows (some (p : Int)) f (index + 1) 0 = false) :
    ¬ Arrives argumentId (h, emissions) t s' := fun arrives => by
  obtain ⟨e, back, ends, -, -⟩ := arrives_iff.mp arrives
  have test := newestOut_eq (s := pushBack (h, emissions) t) (n := ts.length)
    (by simp [pushBack, state.intact.window])
    (inWindow_rows (h := (pushBack (h, emissions) t).1) state.handle.frame ts.length)
  rw [show (pushBack (h, emissions) t).1.currentTupleIndex = index from state.index, outside,
    decide_eq_false other] at test
  rcases ends.cases_first with ⟨done, -⟩ | ⟨next, -, round, -⟩
  · rw [test] at done
    cases done
  · obtain ⟨_, moved, -, move, drop, -⟩ := emitRound_ok round
    rw [moveForward_tuple (h := (pushBack (h, emissions) t).1) state.handle.emitDuration] at move
    obtain rfl := Except.ok.inj move
    refine @dropLoop_rows_fails _ _ _ (some (p : Int)) f ?_ ?_ ?_ drop
    · exact state.handle.frame
    · simp
    · simp only [pushBack, state.index]
      exact front

/-- With one preceding row the second tuple is taken to be behind the first window: the first row is
emitted at once, with the average of the first tuple alone. -/
theorem RowsState.second {first : Tuple} {h : Handle}
    (state : RowsState streamingId argumentId 1 f startValue operators [first] 0 h) (t : Tuple) :
    ∃ h' emission, Arrives argumentId (h, []) t (h', [emission]) ∧
      emission.row = first ++ [operators.averageOf argumentId [first]] ∧
      RowsState streamingId argumentId 1 f startValue operators [first, t] 1 h' := by
  let pushed := pushBack (h, []) t
  have emit : pushed.1.emitDuration = none := state.handle.emitDuration
  have window : pushed.1.window = [first, t] := by simp [pushed, pushBack, state.intact.window]
  have index : pushed.1.currentTupleIndex = 0 := state.index
  have out := newestOut_eq (s := pushed) (n := 1) (by rw [window]; rfl)
    (inWindow_rows (h := pushed.1) state.handle.frame 1)
  rw [index, inRows_eq (by norm_num), decide_eq_false (by decide), decide_eq_false (by norm_num)] at out
  have output : pushed.1.getOutput = .ok (first ++ [operators.averageOf argumentId [first]]) := by
    have same : pushed.1.operators = operators := state.handle.operators
    have sum : pushed.1.sum = pushed.1.operators.sumOf argumentId [first] := state.intact.sum
    have count : pushed.1.count = (arguments argumentId [first]).length := state.intact.count
    rw [Handle.getOutput, emit, sum, count, same]
    simp only [Handle.tupleAt, index, window]
    rfl
  let moved : Handle := { pushed.1 with currentTupleIndex := pushed.1.currentTupleIndex + 1 }
  have move : pushed.1.moveForward = .ok moved := moveForward_tuple emit
  have frame : moved.frame = rowsFrame 1 f := state.handle.frame
  have index' : moved.currentTupleIndex = 1 := congrArg (· + 1) index
  have window' : moved.window = [first, t] := window
  have front : moved.inWindow 0 = .ok true := by
    rw [inWindow_rows frame, index', inRows_eq (by norm_num)]
    simp
  have inside : moved.inWindow 1 = .ok true := by
    rw [inWindow_rows frame, index']
    simp
  have round : Handle.emitRound argumentId pushed = _ := emitRound_stay output move front
  have stop (emissions : List Emission) :=
    newestOut_eq (s := (moved, emissions)) (n := 1) (by rw [window']; rfl) inside
  have arrives : Arrives argumentId (h, []) t _ :=
    arrives_iff.mpr ⟨_, t, Ends.round out round (Ends.exit (stop _)), by rw [window']; rfl, rfl⟩
  obtain ⟨sum, count⟩ :=
    @addBack_accumulators moved argumentId t [first] state.intact.sum state.intact.count
  refine ⟨_, _, arrives, rfl, state.handle.trans (SameHandle.arrives arrives), ⟨?_, ?_, count⟩, ?_⟩
  · rw [addBack_window, window']
  · rw [addBack_operators]
    exact sum
  · rw [addBack_currentTupleIndex]
    exact index'

/-! ## Streams that do not arrive -/

/-- A run that reaches a tuple which does not arrive has no result. -/
theorem RowsState.not_received {stream : List Tuple} {m index : Nat} {h : Handle}
    {emissions : List Emission} (bound : m < stream.length)
    (reached : Received argumentId
      (Handle.create streamingId (.ofAttribute argumentId) none startValue (rowsFrame p f) operators, [])
      (stream.take m) (h, emissions))
    (state : RowsState streamingId argumentId p f startValue operators (stream.take m) index h)
    (other : m ≠ index) (outside : Handle.inRows (some (p : Int)) f index m = false)
    (front : Handle.inRows (some (p : Int)) f (index + 1) 0 = false) :
    ¬ ∃ s, Received argumentId
      (Handle.create streamingId (.ofAttribute argumentId) none startValue (rowsFrame p f) operators, []) stream s := by
  rintro ⟨s, received⟩
  rw [← List.take_append_drop m stream, List.drop_eq_getElem_cons bound] at received
  obtain ⟨mid, before, rest⟩ := Folds.append_iff.mp received
  obtain rfl := Received.unique before reached
  obtain ⟨s', arrives, -⟩ := Folds.cons_iff.mp rest
  have length : (stream.take m).length = m := List.length_take_of_le (by omega)
  exact state.not_arrives (by rwa [length]) (by rwa [length]) front arrives

/-- Without preceding rows every tuple up to position `f` joins. -/
theorem RowsState.joinAll_zero {stream : List Tuple} (short : stream.length ≤ f + 1) :
    ∃ h', Received argumentId
        (Handle.create streamingId (.ofAttribute argumentId) none startValue (rowsFrame 0 f) operators, [])
        stream (h', []) ∧
      RowsState streamingId argumentId 0 f startValue operators stream 0 h' := by
  refine RowsState.start.joinAll stream [] fun k _ upper => ?_
  simp only [List.length_nil] at upper
  rw [inRows_eq (by norm_num), decide_eq_true_eq, if_pos (by omega)]
  omega

/-- The tuple after those fails. -/
theorem not_received_zero {stream : List Tuple} (long : f + 1 < stream.length) :
    ¬ ∃ s, Received argumentId
      (Handle.create streamingId (.ofAttribute argumentId) none startValue (rowsFrame 0 f) operators, []) stream s := by
  obtain ⟨h, received, state⟩ := RowsState.joinAll_zero (List.length_take_le (f + 1) stream)
  refine RowsState.not_received long received state (by omega) ?_ ?_
  · rw [inRows_eq (by norm_num), decide_eq_false_iff_not]
    omega
  · rw [inRows_eq (by norm_num), decide_eq_false_iff_not, if_pos (by omega)]
    omega

/-- Streams of at most one tuple emit nothing. -/
theorem RowsState.joinAll_short {stream : List Tuple} (short : stream.length ≤ 1) :
    ∃ h', Received argumentId
        (Handle.create streamingId (.ofAttribute argumentId) none startValue (rowsFrame p f) operators, [])
        stream (h', []) ∧
      RowsState streamingId argumentId p f startValue operators stream 0 h' := by
  refine RowsState.start.joinAll stream [] fun k _ upper => .inl ?_
  simp only [List.length_nil] at upper
  omega

/-- With two or more preceding rows the second tuple fails. -/
theorem not_received_two {stream : List Tuple} (two : 2 ≤ p) (small : p < 2 ^ 31)
    (long : 2 ≤ stream.length) :
    ¬ ∃ s, Received argumentId
      (Handle.create streamingId (.ofAttribute argumentId) none startValue (rowsFrame p f) operators, []) stream s := by
  obtain ⟨h, received, state⟩ := RowsState.joinAll_short (p := p) (List.length_take_le 1 stream)
  refine RowsState.not_received (by omega) received state (by omega) ?_ ?_
  · rw [inRows_eq (by omega), decide_eq_false_iff_not, if_neg (by omega)]
    omega
  · rw [inRows_eq (by omega), decide_eq_false_iff_not, if_neg (by omega)]
    omega

/-- With one preceding row, `f` tuples after the second one join without another emission. -/
theorem received_one (first second : Tuple) {rest : List Tuple} (short : rest.length ≤ f) :
    ∃ h emission, Received argumentId
        (Handle.create streamingId (.ofAttribute argumentId) none startValue (rowsFrame 1 f) operators, [])
        (first :: second :: rest) (h, [emission]) ∧
      emission.row = first ++ [operators.averageOf argumentId [first]] ∧
      RowsState streamingId argumentId 1 f startValue operators (first :: second :: rest) 1 h := by
  obtain ⟨h₁, one, state₁⟩ := RowsState.start.joins (p := 1) (f := f) [] first (.inl rfl)
  obtain ⟨h₂, emission, two, row, state₂⟩ := state₁.second second
  obtain ⟨h₃, others, state₃⟩ := state₂.joinAll rest [emission] fun k lower upper => by
    rw [inRows_eq (by norm_num), decide_eq_true_eq]
    simp only [List.length_cons, List.length_nil] at lower upper
    right
    rw [if_pos (by omega)]
    omega
  exact ⟨h₃, emission, .cons one (.cons two others), row, state₃⟩

/-- The tuple after those fails. -/
theorem not_received_one {first second : Tuple} {rest : List Tuple} (long : f < rest.length) :
    ¬ ∃ s, Received argumentId
      (Handle.create streamingId (.ofAttribute argumentId) none startValue (rowsFrame 1 f) operators, [])
      (first :: second :: rest) s := by
  obtain ⟨h, emission, received, -, state⟩ := received_one (f := f) first second
    (List.length_take_le f rest)
  refine RowsState.not_received (m := f + 2) ?_ received state (by omega) ?_ ?_
  · simp only [List.length_cons]
    omega
  · rw [inRows_eq (by norm_num), decide_eq_false_iff_not]
    omega
  · rw [inRows_eq (by norm_num), decide_eq_false_iff_not, if_pos (by omega)]
    omega

theorem exists_two_tuples {stream : List Tuple} (long : 2 ≤ stream.length) :
    ∃ first second rest, stream = first :: second :: rest := by
  cases stream with
  | nil => simp at long
  | cons first tail =>
    cases tail with
    | nil => simp at long
    | cons second rest => exact ⟨first, second, rest, rfl⟩

/-- **Sliding ROWS frames**: the calls return exactly on the streams that are too short to leave the
first windows. -/
theorem received_rows_iff {stream : List Tuple} (small : p < 2 ^ 31) :
    (∃ s, Received argumentId
      (Handle.create streamingId (.ofAttribute argumentId) none startValue (rowsFrame p f) operators, []) stream s) ↔
      stream.length ≤ 1 ∨ p ≤ 1 ∧ stream.length ≤ p + f + 1 := by
  by_cases short : stream.length ≤ 1
  · obtain ⟨h, received, -⟩ := RowsState.joinAll_short (p := p) (f := f) short
    exact iff_of_true ⟨_, received⟩ (.inl short)
  rcases (by omega : p = 0 ∨ p = 1 ∨ 2 ≤ p) with rfl | rfl | two
  · by_cases fits : stream.length ≤ f + 1
    · obtain ⟨h, received, -⟩ := RowsState.joinAll_zero fits
      exact iff_of_true ⟨_, received⟩ (.inr (by omega))
    · exact iff_of_false (not_received_zero (by omega)) (by omega)
  · obtain ⟨first, second, rest, rfl⟩ := exists_two_tuples (Nat.lt_of_not_le short)
    simp only [List.length_cons] at short ⊢
    by_cases fits : rest.length ≤ f
    · obtain ⟨h, emission, received, -, -⟩ := received_one first second fits
      exact iff_of_true ⟨_, received⟩ (.inr (by omega))
    · exact iff_of_false (not_received_one (by omega)) (by omega)
  · exact iff_of_false (not_received_two two small (by omega)) (by omega)

end Rows

/-- What sliding ROWS frames are to deliver after successive calls: the row of every tuple whose
frame has been completed and followed by another tuple. -/
def SlidingAverages (streamingId argumentId p f : Nat) (startValue : Option ℚ)
    (batches : List (List Tuple)) : Prop :=
  let stream := batches.flatten
  ∃ h emissions,
    (Handle.create streamingId (.ofAttribute argumentId) none startValue (rowsFrame p f)).Returns
      batches h emissions ∧
    ∀ i, i + f + 1 < stream.length → (emissions[i]?).map Emission.row = some (stream.getD i [] ++
      [averageOf argumentId (atPositions (fun j => i ≤ j + p ∧ j ≤ i + f) stream)])

section Rows

variable {streamingId argumentId p f : Nat} {startValue : Option ℚ} {batches : List (List Tuple)}

/-- A run without a result delivers nothing. -/
theorem not_slidingAverages
    (stuck : ¬ ∃ s, Received argumentId
      (Handle.create streamingId (.ofAttribute argumentId) none startValue (rowsFrame p f), [])
      batches.flatten s) :
    ¬ SlidingAverages streamingId argumentId p f startValue batches := by
  rintro ⟨h, emissions, returns, -⟩
  exact stuck ⟨_, (returns_iff rfl).mp returns⟩

/-- A run that emits nothing is right as long as nothing is due. -/
theorem slidingAverages_of_none {stream : List Tuple} {h : Handle} (same : batches.flatten = stream)
    (received : Received argumentId
      (Handle.create streamingId (.ofAttribute argumentId) none startValue (rowsFrame p f), [])
      stream (h, [])) (short : stream.length ≤ f + 1) :
    SlidingAverages streamingId argumentId p f startValue batches :=
  ⟨h, [], (returns_iff rfl).mpr (same ▸ received), fun i due => by rw [same] at due; omega⟩

/-- Without preceding rows every tuple up to position `f` joins, and the next one fails. -/
theorem slidingAverages_zero_iff :
    SlidingAverages streamingId argumentId 0 f startValue batches ↔
      batches.flatten.length ≤ f + 1 := by
  by_cases short : batches.flatten.length ≤ f + 1
  · obtain ⟨h, received, -⟩ := RowsState.joinAll_zero short
    exact iff_of_true (slidingAverages_of_none rfl received short) short
  · exact iff_of_false (not_slidingAverages (not_received_zero (by omega))) short

/-- Streams of at most one tuple emit nothing. -/
theorem slidingAverages_short (short : batches.flatten.length ≤ 1) :
    SlidingAverages streamingId argumentId p f startValue batches := by
  obtain ⟨h, received, -⟩ := RowsState.joinAll_short (p := p) (f := f) short
  exact slidingAverages_of_none rfl received (by omega)

/-- The only row emitted with one preceding row: right when it is not due, or when it does not
matter that the following tuples are missing. -/
theorem slidingAverages_one_iff {first second : Tuple} {rest : List Tuple}
    (stream : batches.flatten = first :: second :: rest) (short : rest.length ≤ f) :
    SlidingAverages streamingId argumentId 1 f startValue batches ↔
      rest.length < f ∨ averageOf argumentId [first] =
        averageOf argumentId (batches.flatten.take (f + 1)) := by
  obtain ⟨h₃, emission, received, row, -⟩ :=
    @received_one streamingId argumentId f startValue .exact first second rest short
  rw [exact_averageOf] at row
  rw [← stream] at received
  have due : atPositions (fun j => decide (0 ≤ j + 1 ∧ j ≤ 0 + f)) batches.flatten =
      batches.flatten.take (f + 1) := by
    refine atPositions_prefix fun j _ => ?_
    rw [decide_eq_true_eq]
    omega
  constructor
  · rintro ⟨h', emissions', returns, rows⟩
    obtain ⟨-, rfl⟩ := returns_unique returns ((returns_iff rfl).mpr received)
    by_cases full : rest.length < f
    · exact .inl full
    · have first_row := rows 0 (by rw [stream, List.length_cons, List.length_cons]; omega)
      rw [due] at first_row
      simp only [List.getElem?_cons_zero, Option.map_some, row, stream, List.getD_cons_zero,
        Option.some.injEq, List.append_cancel_left_eq, List.cons.injEq, and_true] at first_row
      rw [stream]
      exact .inr first_row
  · intro same
    refine ⟨h₃, [emission], (returns_iff rfl).mpr received, fun i due_i => ?_⟩
    rw [stream, List.length_cons, List.length_cons] at due_i
    obtain rfl : i = 0 := by omega
    rw [due, ← same.resolve_left (by omega), stream]
    simp [row]

/-- With one preceding row the tuple at position `f + 2` fails. -/
theorem slidingAverages_one (long : 2 ≤ batches.flatten.length) :
    SlidingAverages streamingId argumentId 1 f startValue batches ↔
      batches.flatten.length ≤ f + 1 ∨ (batches.flatten.length = f + 2 ∧
        averageOf argumentId (batches.flatten.take 1) =
          averageOf argumentId (batches.flatten.take (f + 1))) := by
  obtain ⟨first, second, rest, stream⟩ := exists_two_tuples long
  have length : batches.flatten.length = rest.length + 2 := by simp [stream]
  by_cases short : rest.length ≤ f
  · rw [slidingAverages_one_iff stream short, length]
    have head : batches.flatten.take 1 = [first] := by simp [stream]
    rw [head]
    constructor
    · rintro (early | same)
      · exact .inl (by omega)
      · rcases Nat.lt_or_eq_of_le short with early | full
        · exact .inl (by omega)
        · exact .inr ⟨by omega, same⟩
    · rintro (early | ⟨-, same⟩)
      · exact .inl (by omega)
      · exact .inr same
  · refine iff_of_false (not_slidingAverages ?_) (by omega)
    rw [stream]
    exact not_received_one (by omega)

/-- **Sliding ROWS frames**: the rows are right exactly for the streams that are too short to leave
the first windows, or where the one row emitted too early has the right average anyway. -/
theorem slidingAverages_iff (small : p < 2 ^ 31) :
    SlidingAverages streamingId argumentId p f startValue batches ↔
      batches.flatten.length ≤ 1 ∨ (p ≤ 1 ∧ batches.flatten.length ≤ f + 1) ∨
      (p = 1 ∧ batches.flatten.length = f + 2 ∧
        averageOf argumentId (batches.flatten.take 1) =
          averageOf argumentId (batches.flatten.take (f + 1))) := by
  by_cases short : batches.flatten.length ≤ 1
  · exact iff_of_true (slidingAverages_short short) (.inl short)
  rcases (by omega : p = 0 ∨ p = 1 ∨ 2 ≤ p) with rfl | rfl | two
  · rw [slidingAverages_zero_iff]
    omega
  · rw [slidingAverages_one (by omega)]
    simp only [short, Nat.le_refl, false_or, true_and]
  · have fails : ¬ SlidingAverages streamingId argumentId p f startValue batches :=
      not_slidingAverages (not_received_two two small (by omega))
    exact iff_of_false fails (by omega)

end Rows

/-- Three readings of one attribute, in two batches. -/
def threeReadings : List (List Tuple) := [[[.number 10], [.number 20]], [[.number 30]]]

/-- One row before and one after, as in the sliding ROWS test. -/
theorem slidingAverages_iff_threeReadings :
    1 < 2 ^ 31 ∧ (SlidingAverages 0 0 1 1 none threeReadings ↔
      threeReadings.flatten.length ≤ 1 ∨ (1 ≤ 1 ∧ threeReadings.flatten.length ≤ 1 + 1) ∨
      (1 = 1 ∧ threeReadings.flatten.length = 1 + 2 ∧
        averageOf 0 (threeReadings.flatten.take 1) =
          averageOf 0 (threeReadings.flatten.take (1 + 1)))) :=
  ⟨by norm_num, slidingAverages_iff (by norm_num)⟩

/-- The first row is emitted with the average 10 and not 15: it leaves out the second reading. -/
theorem not_slidingAverages_threeReadings : ¬ SlidingAverages 0 0 1 1 none threeReadings := by
  rw [slidingAverages_one (by decide)]
  rintro (short | ⟨-, same⟩)
  · exact absurd short (by decide)
  · have ten : averageOf 0 (threeReadings.flatten.take 1) = .number 10 := by
      simp [averageOf, Handle.average, arguments, threeReadings, getNumber, TypedValue.number?]
    have fifteen : averageOf 0 (threeReadings.flatten.take (1 + 1)) = .number 15 := by
      simp [averageOf, Handle.average, arguments, threeReadings, getNumber, TypedValue.number?]
      norm_num
    rw [ten, fifteen, TypedValue.number.injEq] at same
    norm_num at same

end Quickstep.Expressions.WindowAggregation
