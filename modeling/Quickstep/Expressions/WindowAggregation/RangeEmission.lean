import Mathlib.Tactic.Ring
import Quickstep.Expressions.WindowAggregation.Runs

/-!
# Streaming aggregation in RANGE mode

With an emit duration the window moves over values of the streaming attribute, while the current
tuple index stays at zero. The front of the deque is therefore always the current tuple, nothing is
ever dropped, and every tuple received so far contributes to each emitted row.
-/

namespace Quickstep.Expressions.WindowAggregation
open Quickstep.Lib

/-- The non-NULL argument of a tuple. -/
def Argument.number? : Argument → Tuple → Option ℚ
  | .ofAttribute attributeId, t => getNumber t attributeId
  | .computed value, t => (value t).number?

/-- The parameters of a streaming aggregation: window `k` belongs to the value `start + k * emit`. -/
structure Schedule where
  start : ℚ
  emit : ℚ
  preceding : ℚ
  following : ℚ
  emit_pos : 0 < emit
  preceding_nonneg : 0 ≤ preceding
  following_nonneg : 0 ≤ following

namespace Schedule

variable (w : Schedule)

/-- The value window `k` belongs to. -/
def value (k : Nat) : ℚ := w.start + k * w.emit

/-- The streaming value lies in window `k`. -/
def Covers (k : Nat) (s : ℚ) : Prop := w.value k - w.preceding ≤ s ∧ s ≤ w.value k + w.following

instance (k : Nat) (s : ℚ) : Decidable (w.Covers k s) := inferInstanceAs (Decidable (_ ∧ _))

/-- The streaming value lies behind window `k`. -/
def Passed (k : Nat) (s : ℚ) : Prop := w.value k + w.following < s

theorem value_le {k m : Nat} (le : k ≤ m) : w.value k ≤ w.value m := by
  have cast : (k : ℚ) ≤ m := Nat.cast_le.mpr le
  have pos := w.emit_pos
  simp only [value]
  nlinarith

theorem value_succ (k : Nat) : w.value k + w.emit = w.value (k + 1) := by
  simp only [value, Nat.cast_add, Nat.cast_one]
  ring

/-- A value that a later window covers and an earlier one does not has passed the earlier one. -/
theorem passed_of_covers {k m : Nat} {s : ℚ} (le : k ≤ m) (later : w.Covers m s)
    (not_earlier : ¬ w.Covers k s) : w.Passed k s := by
  have order := w.value_le le
  by_contra inside
  exact not_earlier ⟨by linarith [later.1], le_of_not_gt inside⟩

theorem not_passed_of_le {k m : Nat} {s : ℚ} (le : k ≤ m) (inside : ¬ w.Passed k s) :
    ¬ w.Passed m s := by
  have order := w.value_le le
  simp only [Passed, not_lt] at *
  linarith

theorem not_passed_of_covers {k : Nat} {s : ℚ} (covers : w.Covers k s) : ¬ w.Passed k s :=
  not_lt_of_ge covers.2

/-- The handle of a streaming aggregation. -/
def handle (streamingId : Nat) (argument : Argument) : Handle :=
  Handle.create streamingId argument (some w.emit) (some w.start)
    (.range (some w.preceding) w.following)

end Schedule

/-! ## The loop invariant -/

/-- The emission of window `k` when the accumulators count the tuples `ts`. -/
def emissionOf (w : Schedule) (argumentId k : Nat) (ts : List Tuple) : Emission :=
  ⟨[.number (w.value k), averageOf argumentId ts], (arguments argumentId ts).sum,
    (arguments argumentId ts).length⟩

/-- The handle holds the tuples `held`, counts the tuples `ts`, and has emitted `k` windows. -/
structure EmissionState (w : Schedule) (streamingId argumentId : Nat) (held ts : List Tuple)
    (s : Handle × List Emission) : Prop where
  handle : SameHandle (w.handle streamingId (.ofAttribute argumentId)) s.1
  window : s.1.window = held
  sum : s.1.sum = (arguments argumentId ts).sum
  count : s.1.count = (arguments argumentId ts).length
  index : s.1.currentTupleIndex = 0
  current : s.1.currentValue = some (w.value s.2.length)

section Rounds

variable {w : Schedule} {streamingId argumentId : Nat} {held ts : List Tuple}
  {s : Handle × List Emission}

theorem EmissionState.start :
    EmissionState w streamingId argumentId [] [] (w.handle streamingId (.ofAttribute argumentId), []) := by
  refine ⟨SameHandle.refl _, rfl, rfl, rfl, rfl, ?_⟩
  simp [Schedule.handle, Handle.create, Schedule.value]

/-- The frame test asks whether the current window covers the tuple. -/
theorem EmissionState.inWindow (state : EmissionState w streamingId argumentId held ts s) {n : Nat}
    {t : Tuple} (tuple : held[n]? = some t)
    (nonNull : getNumber t streamingId = some (streamingValue streamingId t)) (later : n ≠ 0) :
    s.1.inWindow n = .ok (decide (w.Covers s.2.length (streamingValue streamingId t))) := by
  have frame : s.1.frame = .range (some w.preceding) w.following := state.handle.frame
  have id_eq : s.1.streamingAttributeId = streamingId := state.handle.streamingAttributeId
  have operators : s.1.operators = .exact := state.handle.operators
  simp only [Handle.inWindow, state.index, if_neg later, frame, state.current, Handle.tupleAt,
    state.window, tuple, id_eq, operators]
  rw [pure_bind, Exec.ok_bind, nonNull]
  exact inRange_bounded rfl rfl

/-- A round emits the current window and moves to the next one; the front is never dropped. -/
theorem EmissionState.emits (state : EmissionState w streamingId argumentId held ts s) :
    ∃ next, Handle.emitRound argumentId s = .ok next ∧
      next.2 = s.2 ++ [emissionOf w argumentId s.2.length ts] ∧
      EmissionState w streamingId argumentId held ts next := by
  have emit : s.1.emitDuration = some w.emit := state.handle.emitDuration
  have operators : s.1.operators = .exact := state.handle.operators
  let moved : Handle := { s.1 with currentValue := some (w.value (s.2.length + 1)) }
  have move : s.1.moveForward = .ok moved := by
    refine moveForward_value emit state.handle.frame state.current ?_
    rw [operators, ← w.value_succ]
    rfl
  have output : s.1.getOutput =
      .ok [.number (w.value s.2.length), averageOf argumentId ts] := by
    rw [Handle.getOutput, emit, averageOf, ← state.sum, ← state.count, state.current, operators]
    rfl
  have front : moved.inWindow 0 = .ok true := by
    simp only [Handle.inWindow, moved, state.index, if_pos]
    rfl
  refine ⟨_, emitRound_stay output move front, ?_, ?_⟩
  · simp only [emissionOf, state.sum, state.count]
  · refine ⟨state.handle.trans ⟨rfl, rfl, rfl, rfl, rfl⟩, state.window, state.sum, state.count,
      state.index, ?_⟩
    simp only [moved, List.length_append, List.length_singleton]

/-- What the emission loop has done so far for a tuple with value `v`: the windows emitted do not
cover it. -/
structure Advanced (w : Schedule) (argumentId : Nat) (ts : List Tuple) (v : ℚ)
    (s e : Handle × List Emission) : Prop where
  le : s.2.length ≤ e.2.length
  old : ∀ k, (h : k < s.2.length) → e.2[k]? = some s.2[k]
  new : ∀ k, s.2.length ≤ k → (h : k < e.2.length) →
    ¬ w.Covers k v ∧ e.2[k] = emissionOf w argumentId k ts

theorem Advanced.refl (v : ℚ) (s : Handle × List Emission) : Advanced w argumentId ts v s s where
  le := Nat.le_refl _
  old := fun _ h => List.getElem?_eq_getElem h
  new := fun _ lower upper => absurd upper (Nat.not_lt_of_ge lower)

/-- The loop of a tuple that is not the first: where it ends, the current window covers the tuple. -/
theorem EmissionState.loop_result (state : EmissionState w streamingId argumentId held ts s) {n : Nat}
    {t : Tuple} (tuple : held[n]? = some t) (length : held.length = n + 1)
    (nonNull : getNumber t streamingId = some (streamingValue streamingId t)) (later : n ≠ 0)
    {e : Handle × List Emission} (ends : Ends Handle.newestOut (Handle.emitRound argumentId) s e) :
    EmissionState w streamingId argumentId held ts e ∧
      Advanced w argumentId ts (streamingValue streamingId t) s e ∧
      w.Covers e.2.length (streamingValue streamingId t) := by
  have test {s} (state : EmissionState w streamingId argumentId held ts s) :=
    newestOut_eq (by rw [state.window, length]) (state.inWindow tuple nonNull later)
  have final := ends.invariant
    (fun e => EmissionState w streamingId argumentId held ts e ∧
      Advanced w argumentId ts (streamingValue streamingId t) s e)
    ⟨state, Advanced.refl _ s⟩ ?_
  · refine ⟨final.1.1, final.1.2, ?_⟩
    have exit := (test final.1.1).symm.trans final.2
    simpa using exit
  · rintro e next again round ⟨here, advanced⟩
    obtain ⟨next', round', emitted, after⟩ := here.emits
    obtain rfl : next' = next := by simpa using round'.symm.trans round
    have uncovered : ¬ w.Covers e.2.length (streamingValue streamingId t) := by
      have out := (test here).symm.trans again
      simpa using out
    refine ⟨after, ?_, fun k h => ?_, fun k lower upper => ?_⟩
    · simp only [emitted, List.length_append, List.length_singleton]
      have := advanced.le
      omega
    · have within : k < e.2.length := Nat.lt_of_lt_of_le h advanced.le
      rw [emitted, List.getElem?_append_left within]
      exact advanced.old k h
    · simp only [emitted, List.length_append, List.length_singleton] at upper
      rcases Nat.lt_succ_iff_lt_or_eq.mp upper with before | rfl
      · simp only [emitted, List.getElem_append_left before]
        exact advanced.new k lower before
      · simp only [emitted, List.getElem_append_right (Nat.le_refl _), Nat.sub_self,
          List.getElem_singleton, and_true]
        exact uncovered

/-- The loop ends when some window from the current one on covers the tuple. -/
theorem EmissionState.loop_ends (state : EmissionState w streamingId argumentId held ts s) {n m : Nat}
    {t : Tuple} (tuple : held[n]? = some t) (length : held.length = n + 1)
    (nonNull : getNumber t streamingId = some (streamingValue streamingId t)) (later : n ≠ 0)
    (le : s.2.length ≤ m) (covers : w.Covers m (streamingValue streamingId t)) :
    ∃ e, Ends Handle.newestOut (Handle.emitRound argumentId) s e := by
  have test {s} (state : EmissionState w streamingId argumentId held ts s) :=
    newestOut_eq (by rw [state.window, length]) (state.inWindow tuple nonNull later)
  induction k : m - s.2.length generalizing s with
  | zero =>
    obtain rfl : m = s.2.length := by omega
    have stop := test state
    rw [decide_eq_true covers] at stop
    exact ⟨s, Ends.exit stop⟩
  | succ k ih =>
    by_cases now : w.Covers s.2.length (streamingValue streamingId t)
    · have stop := test state
      rw [decide_eq_true now] at stop
      exact ⟨s, Ends.exit stop⟩
    · obtain ⟨next, round, emitted, after⟩ := state.emits
      have grown : next.2.length = s.2.length + 1 := by simp [emitted]
      obtain ⟨e, ends⟩ := ih after (by omega) (by omega)
      have again := test state
      rw [decide_eq_false now] at again
      exact ⟨e, Ends.round again round ends⟩

end Rounds

/-! ## Runs -/

/-- The streaming value at a position of the stream. -/
def valueAt (streamingId : Nat) (stream : List Tuple) (i : Nat) : ℚ :=
  streamingValue streamingId (stream.getD i [])

/-- The handle has received the first `n` tuples; each emitted window was emitted at the first later
tuple that has passed it. -/
structure EmissionRun (w : Schedule) (streamingId argumentId : Nat) (stream : List Tuple) (n : Nat)
    (s : Handle × List Emission) : Prop where
  state : EmissionState w streamingId argumentId (stream.take n) (stream.take n) s
  covered : ∀ i, 0 < i → i < n → ∃ k, w.Covers k (valueAt streamingId stream i)
  last : 1 < n → w.Covers s.2.length (valueAt streamingId stream (n - 1))
  fresh : n ≤ 1 → s.2.length = 0
  rows : ∀ k, (h : k < s.2.length) → ∃ j, 0 < j ∧ j < n ∧
    w.Passed k (valueAt streamingId stream j) ∧
    (∀ i, 0 < i → i < j → ¬ w.Passed k (valueAt streamingId stream i)) ∧
    s.2[k] = emissionOf w argumentId k (stream.take j)

section Runs

variable {w : Schedule} {streamingId argumentId n : Nat} {stream : List Tuple}
  {s s' : Handle × List Emission} (ordered : NonDecreasing streamingId stream)

theorem EmissionRun.start :
    EmissionRun w streamingId argumentId stream 0 (w.handle streamingId (.ofAttribute argumentId), []) where
  state := EmissionState.start
  covered := fun _ _ h => absurd h (Nat.not_lt_zero _)
  last := fun h => absurd h (by omega)
  fresh := fun _ => rfl
  rows := fun _ h => absurd h (Nat.not_lt_zero _)

/-- The pushed state of an arrival. -/
theorem EmissionRun.pushed (run : EmissionRun w streamingId argumentId stream n s)
    (size : n < stream.length) :
    EmissionState w streamingId argumentId (stream.take (n + 1)) (stream.take n)
      (pushBack s stream[n]) := by
  have state := run.state
  refine ⟨state.handle.trans ⟨rfl, rfl, rfl, rfl, rfl⟩, ?_, state.sum, state.count, state.index,
    state.current⟩
  rw [List.take_succ_eq_append_getElem size, ← state.window]
  rfl

/-- The first tuple is the current one and joins at once. -/
theorem EmissionState.first_stays {held ts : List Tuple} {t : Tuple}
    (state : EmissionState w streamingId argumentId held ts s) (only : held = [t])
    {e : Handle × List Emission} (ends : Ends Handle.newestOut (Handle.emitRound argumentId) s e) :
    e = s := by
  have stop := newestOut_eq (s := s) (n := 0) (by rw [state.window, only]; rfl) (by
    simp only [Handle.inWindow, state.index, if_pos]
    rfl)
  rcases ends.cases_first with ⟨-, same⟩ | ⟨_, again, -⟩
  · exact same
  · rw [stop] at again
    cases again

/-- The tuple that has been in the deque is counted. -/
theorem EmissionState.counted (size : n < stream.length)
    (state : EmissionState w streamingId argumentId (stream.take (n + 1)) (stream.take n) s) :
    EmissionState w streamingId argumentId (stream.take (n + 1)) (stream.take (n + 1))
      (s.1.addBack argumentId stream[n], s.2) := by
  have operators : s.1.operators = .exact := state.handle.operators
  obtain ⟨sum, count⟩ := addBack_accumulators s.1 argumentId stream[n]
    (by rw [operators, exact_sumOf, state.sum]) state.count
  rw [operators, exact_sumOf] at sum
  rw [← List.take_succ_eq_append_getElem size] at sum count
  refine ⟨state.handle.trans (SameHandle.addBack s.1 argumentId stream[n]), ?_, sum, count, ?_, ?_⟩
  · rw [addBack_window, state.window]
  · rw [addBack_currentTupleIndex, state.index]
  · rw [addBack_currentValue, state.current]

include ordered

/-- No tuple after the first has passed the current window. -/
theorem EmissionRun.notPassed (run : EmissionRun w streamingId argumentId stream n s)
    (size : n ≤ stream.length) {i : Nat} (pos : 0 < i) (lt : i < n) :
    ¬ w.Passed s.2.length (valueAt streamingId stream i) := by
  have covers := run.last (by omega)
  have rise : valueAt streamingId stream i ≤ valueAt streamingId stream (n - 1) :=
    ordered.le (by omega) (by omega)
  exact fun passed => w.not_passed_of_covers covers (lt_of_lt_of_le passed rise)

/-- **One arrival**: the windows the new tuple has passed are emitted, and the current one covers it. -/
theorem EmissionRun.arrives (run : EmissionRun w streamingId argumentId stream n s)
    (size : n < stream.length) (arrives : Arrives argumentId s stream[n] s') :
    EmissionRun w streamingId argumentId stream (n + 1) s' := by
  obtain ⟨e, back, ends, last, rfl⟩ := arrives_iff.mp arrives
  have pushed := run.pushed size
  have tuple : (stream.take (n + 1))[n]? = some stream[n] := by
    rw [List.getElem?_take_of_lt (by omega), List.getElem?_eq_getElem size]
  have value : streamingValue streamingId stream[n] = valueAt streamingId stream n := by
    rw [valueAt, List.getD_eq_getElem _ _ size]
  have newest {e} (state : EmissionState w streamingId argumentId (stream.take (n + 1))
      (stream.take n) e) : e.1.window.getLast? = some stream[n] := by
    rw [state.window, List.take_succ_eq_append_getElem size, List.getLast?_concat]
  by_cases first : n = 0
  · subst first
    obtain rfl := pushed.first_stays (t := stream[0]) (by simp [List.take_succ_eq_append_getElem size]) ends
    obtain rfl := Option.some.inj (last.symm.trans (newest pushed))
    have none := run.fresh (by omega)
    refine ⟨pushed.counted size, ?_, ?_, fun _ => none, fun k h => ?_⟩
    · intro i pos lt
      omega
    · intro two
      omega
    · exact absurd h (by simp only [pushBack, none]; omega)
  · have nonNull := ordered.nonNull stream[n] (List.getElem_mem size)
    obtain ⟨state, advanced, covers⟩ := pushed.loop_result tuple (List.length_take_of_le size) nonNull
      first ends
    obtain rfl := Option.some.inj (last.symm.trans (newest state))
    rw [value] at covers advanced
    refine ⟨state.counted size, ?_, fun _ => covers, fun one => by omega, fun k h => ?_⟩
    · intro i pos lt
      rcases Nat.lt_succ_iff_lt_or_eq.mp lt with before | rfl
      · exact run.covered i pos before
      · exact ⟨_, covers⟩
    · by_cases old : k < s.2.length
      · obtain ⟨j, pos, lt, passed, firstPassed, row⟩ := run.rows k old
        refine ⟨j, pos, Nat.lt_succ_of_lt lt, passed, firstPassed, ?_⟩
        have kept := advanced.old k old
        rw [List.getElem?_eq_getElem h] at kept
        exact (Option.some.inj kept).trans row
      · obtain ⟨uncovered, row⟩ := advanced.new k (by simpa [pushBack] using old) h
        refine ⟨n, by omega, Nat.lt_succ_self n, w.passed_of_covers (Nat.le_of_lt h) covers uncovered,
          fun i pos lt => ?_, row⟩
        exact w.not_passed_of_le (by omega) (run.notPassed ordered (by omega) pos lt)

/-- A tuple arrives if it is the first one or some window covers it. -/
theorem EmissionRun.exists_arrives (run : EmissionRun w streamingId argumentId stream n s)
    (size : n < stream.length) (covered : n ≠ 0 → ∃ k, w.Covers k (valueAt streamingId stream n)) :
    ∃ s', Arrives argumentId s stream[n] s' := by
  have pushed := run.pushed size
  have tuple : (stream.take (n + 1))[n]? = some stream[n] := by
    rw [List.getElem?_take_of_lt (by omega), List.getElem?_eq_getElem size]
  have value : streamingValue streamingId stream[n] = valueAt streamingId stream n := by
    rw [valueAt, List.getD_eq_getElem _ _ size]
  have result {e} (ends : Ends Handle.newestOut (Handle.emitRound argumentId) (pushBack s stream[n]) e)
      (window : e.1.window = stream.take (n + 1)) : ∃ s', Arrives argumentId s stream[n] s' := by
    refine ⟨_, arrives_iff.mpr ⟨e, stream[n], ends, ?_, rfl⟩⟩
    rw [window, List.take_succ_eq_append_getElem size, List.getLast?_concat]
  by_cases first : n = 0
  · refine result (Ends.exit ?_) pushed.window
    subst first
    refine newestOut_eq (n := 0) ?_ (?_ : _ = Except.ok true)
    · rw [pushed.window, List.length_take_of_le size]
    · simp only [Handle.inWindow, pushed.index, if_pos]
      rfl
  · have nonNull := ordered.nonNull stream[n] (List.getElem_mem size)
    have length := List.length_take_of_le (l := stream) (Nat.succ_le_of_lt size)
    obtain ⟨k, covers⟩ := covered first
    -- A window that covers the tuple and is already emitted leaves the current one to cover it.
    obtain ⟨m, le, covers⟩ : ∃ m, s.2.length ≤ m ∧ w.Covers m (valueAt streamingId stream n) := by
      by_cases le : s.2.length ≤ k
      · exact ⟨k, le, covers⟩
      · have two : 1 < n := by
          by_contra one
          have := run.fresh (by omega)
          omega
        have rise : valueAt streamingId stream (n - 1) ≤ valueAt streamingId stream n :=
          ordered.le (Nat.sub_le n 1) size
        have current := run.last two
        have bound := w.value_le (Nat.le_of_not_le le)
        exact ⟨_, Nat.le_refl _, by linarith [current.1], by linarith [covers.2]⟩
    obtain ⟨e, ends⟩ := pushed.loop_ends tuple length nonNull first le (by rwa [value])
    exact result ends (pushed.loop_result tuple length nonNull first ends).1.window

/-- Every run over a prefix of the stream keeps the invariant. -/
theorem EmissionRun.of_received (size : n ≤ stream.length)
    (received : Received argumentId (w.handle streamingId (.ofAttribute argumentId), [])
      (stream.take n) s) : EmissionRun w streamingId argumentId stream n s := by
  induction n generalizing s with
  | zero =>
    rw [List.take_zero] at received
    obtain rfl := Folds.nil_iff.mp received
    exact EmissionRun.start
  | succ n ih =>
    rw [List.take_succ_eq_append_getElem size] at received
    obtain ⟨mid, before, rest⟩ := Folds.append_iff.mp received
    obtain ⟨s', arrives, done⟩ := Folds.cons_iff.mp rest
    obtain rfl := Folds.nil_iff.mp done
    exact (ih (Nat.le_of_succ_le size) before).arrives ordered size arrives

/-- A run returns if every tuple after the first is covered by some window. -/
theorem exists_received (size : n ≤ stream.length)
    (covered : ∀ i, 0 < i → i < stream.length → ∃ k, w.Covers k (valueAt streamingId stream i)) :
    ∃ s, Received argumentId (w.handle streamingId (.ofAttribute argumentId), []) (stream.take n) s := by
  induction n with
  | zero => exact ⟨_, by rw [List.take_zero]; exact .nil _⟩
  | succ n ih =>
    obtain ⟨mid, before⟩ := ih (Nat.le_of_succ_le size)
    have run := EmissionRun.of_received ordered (Nat.le_of_succ_le size) before
    obtain ⟨s, arrives⟩ := run.exists_arrives ordered size fun later =>
      covered n (Nat.pos_of_ne_zero later) size
    refine ⟨s, ?_⟩
    rw [List.take_succ_eq_append_getElem size]
    exact Folds.append_iff.mpr ⟨mid, before, .cons arrives (.nil s)⟩

/-- No tuple from the first one that has passed a window is covered by it. -/
theorem filter_covers_eq_take {k j : Nat} (bound : j < stream.length)
    (passed : w.Passed k (valueAt streamingId stream j)) :
    stream.filter (fun t => w.Covers k (streamingValue streamingId t)) =
      (stream.take j).filter (fun t => w.Covers k (streamingValue streamingId t)) := by
  have none : (stream.drop j).filter (fun t => w.Covers k (streamingValue streamingId t)) = [] := by
    rw [List.filter_eq_nil_iff]
    intro t mem covers
    obtain ⟨i, h, rfl⟩ := List.mem_iff_getElem.mp mem
    rw [List.length_drop] at h
    have rise : valueAt streamingId stream j ≤ valueAt streamingId stream (j + i) :=
      ordered.le (Nat.le_add_right j i) (by omega)
    rw [List.getElem_drop, decide_eq_true_eq] at covers
    rw [valueAt, valueAt, List.getD_eq_getElem _ _ (show j + i < stream.length by omega)] at rise
    exact w.not_passed_of_covers covers (lt_of_lt_of_le passed rise)
  calc stream.filter _ = (stream.take j ++ stream.drop j).filter _ := by rw [List.take_append_drop]
    _ = _ := by rw [List.filter_append, none, List.append_nil]

end Runs

section Lists

variable {α β : Type} {p : α → Bool} {g : α → Option β} {l : List α}

/-- Filtering first loses nothing when every element with a value passes the filter. -/
theorem filterMap_filter_of_forall (all : ∀ a ∈ l, (g a).isSome → p a) :
    (l.filter p).filterMap g = l.filterMap g := by
  induction l with
  | nil => rfl
  | cons a l ih =>
    have tail := ih fun b mem => all b (List.mem_cons_of_mem a mem)
    cases value : g a with
    | none =>
      by_cases pass : p a
      · rw [List.filter_cons_of_pos pass, List.filterMap_cons_none value,
          List.filterMap_cons_none value, tail]
      · rw [List.filter_cons_of_neg pass, List.filterMap_cons_none value, tail]
    | some b =>
      have pass := all a List.mem_cons_self (by rw [value]; rfl)
      rw [List.filter_cons_of_pos pass, List.filterMap_cons_some value,
        List.filterMap_cons_some value, tail]

/-- Filtering first loses a value as soon as an element with a value fails the filter. -/
theorem forall_of_length_filterMap_filter
    (same : ((l.filter p).filterMap g).length = (l.filterMap g).length) :
    ∀ a ∈ l, (g a).isSome → p a := by
  have shorter (l : List α) : ((l.filter p).filterMap g).length ≤ (l.filterMap g).length :=
    ((List.filter_sublist (p := p) (l := l)).filterMap g).length_le
  induction l with
  | nil => exact fun a mem => absurd mem List.not_mem_nil
  | cons a l ih =>
    have bound := shorter l
    rw [List.forall_mem_cons]
    cases value : g a with
    | none =>
      refine ⟨fun some => absurd some (by simp), ih ?_⟩
      by_cases pass : p a
      · simpa [List.filter_cons_of_pos pass, List.filterMap_cons_none value] using same
      · simpa [List.filter_cons_of_neg pass, List.filterMap_cons_none value] using same
    | some b =>
      by_cases pass : p a
      · rw [List.filter_cons_of_pos pass, List.filterMap_cons_some value,
          List.filterMap_cons_some value, List.length_cons, List.length_cons,
          Nat.add_right_cancel_iff] at same
        exact ⟨fun _ => pass, ih same⟩
      · rw [List.filter_cons_of_neg pass, List.filterMap_cons_some value, List.length_cons] at same
        omega

end Lists

/-! ## The emitted averages -/

/-- The tuples a window covers. -/
def members (w : Schedule) (streamingId k : Nat) (stream : List Tuple) : List Tuple :=
  stream.filter fun t => w.Covers k (streamingValue streamingId t)

/-- The row of window `k` pairs its value with the average over its members, and the accumulators it
is computed from hold nothing else. -/
structure WindowRow (w : Schedule) (streamingId : Nat) (argument : Argument) (stream : List Tuple)
    (k : Nat) (emission : Emission) : Prop where
  row : emission.row = [.number (w.value k),
    Handle.average ((members w streamingId k stream).filterMap argument.number?).sum
      ((members w streamingId k stream).filterMap argument.number?).length]
  sum : emission.sum = ((members w streamingId k stream).filterMap argument.number?).sum
  count : emission.count = ((members w streamingId k stream).filterMap argument.number?).length

/-- What streaming aggregation is to deliver after successive calls: the `k`-th row emitted is that
of window `k`. -/
def EmittedAverages (w : Schedule) (streamingId : Nat) (argument : Argument)
    (batches : List (List Tuple)) : Prop :=
  ∃ h emissions, (w.handle streamingId argument).Returns batches h emissions ∧
    ∀ k, (h : k < emissions.length) →
      WindowRow w streamingId argument batches.flatten k emissions[k]

/-- The streams on which nothing ever had to be dropped: every tuple after the first is covered by
some window, and a window that such a tuple has passed covers the first tuple, and every other tuple
that has not passed it, as long as their arguments are not NULL. -/
structure NothingToDrop (w : Schedule) (streamingId : Nat) (argument : Argument)
    (stream : List Tuple) : Prop where
  covered : ∀ i, 0 < i → i < stream.length → ∃ k, w.Covers k (valueAt streamingId stream i)
  kept : ∀ k j, 0 < j → j < stream.length → w.Passed k (valueAt streamingId stream j) →
    ∀ i, i < stream.length → (i = 0 ∨ ¬ w.Passed k (valueAt streamingId stream i)) →
      (argument.number? (stream.getD i [])).isSome → w.Covers k (valueAt streamingId stream i)

section Averages

variable {w : Schedule} {streamingId argumentId : Nat} {stream : List Tuple}
  {s : Handle × List Emission}

/-- The row of a window is right exactly when all counted tuples are members of the window. -/
theorem windowRow_emissionOf_iff (ordered : NonDecreasing streamingId stream) {k j : Nat}
    (bound : j < stream.length) (passed : w.Passed k (valueAt streamingId stream j)) :
    WindowRow w streamingId (.ofAttribute argumentId) stream k
        (emissionOf w argumentId k (stream.take j)) ↔
      ∀ t ∈ stream.take j, (getNumber t argumentId).isSome →
        w.Covers k (streamingValue streamingId t) := by
  have taken : members w streamingId k stream = members w streamingId k (stream.take j) :=
    filter_covers_eq_take ordered bound passed
  constructor
  · intro right t mem some
    have count := right.count
    rw [taken] at count
    exact of_decide_eq_true (forall_of_length_filterMap_filter (Eq.symm count) t mem some)
  · intro all
    have same : (members w streamingId k stream).filterMap (Argument.ofAttribute argumentId).number? =
        arguments argumentId (stream.take j) := by
      rw [taken]
      exact filterMap_filter_of_forall fun t mem some => decide_eq_true (all t mem some)
    constructor
    · rw [same]
      rfl
    · rw [same]
      rfl
    · rw [same]
      rfl

/-- Where the rows are right, nothing had to be dropped. -/
theorem nothingToDrop_of_rows (ordered : NonDecreasing streamingId stream)
    (run : EmissionRun w streamingId argumentId stream stream.length s)
    (right : ∀ k, (h : k < s.2.length) → WindowRow w streamingId (.ofAttribute argumentId) stream k s.2[k]) :
    NothingToDrop w streamingId (.ofAttribute argumentId) stream := by
  refine ⟨run.covered, fun k j pos bound passed i size early some => ?_⟩
  have emitted : k < s.2.length := by
    by_contra late
    exact w.not_passed_of_le (Nat.le_of_not_lt late)
      (run.notPassed ordered (Nat.le_refl _) pos bound) passed
  obtain ⟨m, posM, boundM, passedM, firstM, row⟩ := run.rows k emitted
  have rowRight := right k emitted
  rw [row, windowRow_emissionOf_iff ordered boundM passedM] at rowRight
  have before : i < m := by
    rcases early with rfl | notPassed
    · exact posM
    · by_contra late
      exact notPassed (lt_of_lt_of_le passedM (ordered.le (Nat.le_of_not_lt late) size))
  have at_i : stream.getD i [] = stream[i] := List.getD_eq_getElem _ _ size
  rw [valueAt, at_i]
  rw [at_i] at some
  refine rowRight _ ?_ some
  exact List.mem_iff_getElem.mpr ⟨i, by rw [List.length_take]; omega, List.getElem_take ..⟩

/-- Where nothing had to be dropped, the rows are right. -/
theorem rows_of_nothingToDrop (ordered : NonDecreasing streamingId stream)
    (run : EmissionRun w streamingId argumentId stream stream.length s)
    (nothing : NothingToDrop w streamingId (.ofAttribute argumentId) stream) (k : Nat)
    (emitted : k < s.2.length) :
    WindowRow w streamingId (.ofAttribute argumentId) stream k s.2[k] := by
  obtain ⟨j, pos, bound, passed, first, row⟩ := run.rows k emitted
  rw [row, windowRow_emissionOf_iff ordered bound passed]
  intro t mem some
  obtain ⟨i, size, rfl⟩ := List.mem_iff_getElem.mp mem
  rw [List.length_take] at size
  rw [List.getElem_take] at some ⊢
  have at_i : stream.getD i [] = stream[i] := List.getD_eq_getElem _ _ (by omega)
  rw [← at_i] at some ⊢
  refine nothing.kept k j pos bound passed i (by omega) ?_ some
  rcases Nat.eq_zero_or_pos i with zero | later
  · exact .inl zero
  · exact .inr (first i later (by omega))

end Averages

/-- Windows of length 5, one every 5 from 10 on. -/
def everyFive : Schedule := ⟨10, 5, 5, 0, by norm_num, by norm_num, by norm_num⟩

/-- Readings at 0, 8 and 16, in two batches. -/
def earlyReadings : List (List Tuple) := [[reading 0 100, reading 8 2], [reading 16 3]]

theorem earlyReadings_nonDecreasing : NonDecreasing 0 earlyReadings.flatten := by
  constructor <;> simp [earlyReadings, reading, getNumber, streamingValue, TypedValue.number?]
  norm_num

end Quickstep.Expressions.WindowAggregation
