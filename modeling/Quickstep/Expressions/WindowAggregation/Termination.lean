import Quickstep.Expressions.WindowAggregation.Cumulative
import Quickstep.Expressions.WindowAggregation.SlidingRows
import Quickstep.Expressions.WindowAggregation.StartValue

/-!
# When the calls return

The emission loop tests a new tuple against both ends of the current window, so it does not stop
when the window has moved past the tuple. With an emit duration the streams on which it stops are
those whose tuples all lie in some window; the other modes are those of the modules before.
-/

namespace Quickstep.Expressions.WindowAggregation
open Quickstep.Lib

/-! ## Handles with an emit duration -/

/-- The current value after `k` moves. -/
def valueAfter (next : Option ℚ → Exec (Option ℚ)) (startValue : Option ℚ) : Nat → Exec (Option ℚ)
  | 0 => .ok startValue
  | k + 1 => do next (← valueAfter next startValue k)

/-- The test of tuple `n` after `k` moves. -/
def testAfter (next : Option ℚ → Exec (Option ℚ)) (startValue : Option ℚ)
    (test : Option ℚ → Nat → Exec Bool) (k n : Nat) : Exec Bool := do
  test (← valueAfter next startValue k) n

/-- Some window holds tuple `n`, and the windows before it can be tested. -/
def Found (next : Option ℚ → Exec (Option ℚ)) (startValue : Option ℚ)
    (test : Option ℚ → Nat → Exec Bool) (n : Nat) : Prop :=
  ∃ k, testAfter next startValue test k n = .ok true ∧
    ∀ k', k' < k → (testAfter next startValue test k' n).Returns

theorem valueAfter_earlier {next : Option ℚ → Exec (Option ℚ)} {startValue value : Option ℚ} {k K : Nat}
    (le : k ≤ K) (reached : valueAfter next startValue K = .ok value) :
    ∃ value, valueAfter next startValue k = .ok value := by
  induction K generalizing value with
  | zero =>
    obtain rfl := Nat.le_zero.mp le
    exact ⟨value, reached⟩
  | succ K ih =>
    rcases Nat.lt_succ_iff_lt_or_eq.mp (Nat.lt_succ_of_le le) with before | rfl
    · obtain ⟨_, earlier, _⟩ := Exec.bind_ok reached
      exact ih (Nat.le_of_lt_succ before) earlier
    · exact ⟨value, reached⟩

/-- The current tuple index of `start` stays zero and the emission loop goes through the values that
`next` leads to. `test` is what it finds for the newest tuple. -/
structure EmissionTests (start : Handle) (stream : List Tuple) (next : Option ℚ → Exec (Option ℚ))
    (test : Option ℚ → Nat → Exec Bool) : Prop where
  created : Held start stream 0 0 0 start.currentValue start
  moves : ∀ {n : Nat} {value : Option ℚ} {h : Handle}, Held start stream n 0 0 value h →
    h.moveForward = do
      let value ← next value
      pure { h with currentValue := value }
  newest : ∀ {n : Nat} {value : Option ℚ} {h : Handle}, 0 < n → n < stream.length →
    Held start stream (n + 1) 0 0 value h → h.inWindow n = test value n
  /-- A window that a later tuple lies in is not left before. -/
  persists : ∀ {n k K : Nat} {value later : Option ℚ}, n + 1 < stream.length → k ≤ K →
    valueAfter next start.currentValue k = .ok value →
    valueAfter next start.currentValue K = .ok later →
    test later n = .ok true → test value (n + 1) = .ok true → test later (n + 1) = .ok true
  /-- A window that is left behind for a tuple can be tested for the ones after it. -/
  leaves : ∀ {n m k K : Nat} {value later : Option ℚ}, k ≤ K →
    valueAfter next start.currentValue k = .ok value →
    valueAfter next start.currentValue K = .ok later →
    test value n = .ok false → test later n = .ok true → n ≤ m → m < stream.length →
    (test value m).Returns

section Emission

variable {start : Handle} {stream : List Tuple} {next : Option ℚ → Exec (Option ℚ)}
  {test : Option ℚ → Nat → Exec Bool} {argumentId n K : Nat} {value : Option ℚ}
  {s e : Handle × List Emission} (tests : EmissionTests start stream next test)
include tests

theorem EmissionTests.newestOut (later : 0 < n) (size : n < stream.length)
    (held : Held start stream (n + 1) 0 0 value s.1) :
    Handle.newestOut s = (do pure !(← test value n)) := by
  rw [Handle.newestOut, held.length size, Nat.sub_zero, Nat.add_sub_cancel,
    tests.newest later size held]

/-- A round moves to the next value, if it can be computed. -/
theorem EmissionTests.round {nextValue : Option ℚ} (size : n < stream.length)
    (held : Held start stream (n + 1) 0 0 value s.1) (move : next value = .ok nextValue) :
    ∃ s', Handle.emitRound argumentId s = .ok s' ∧
      Held start stream (n + 1) 0 0 nextValue s'.1 := by
  have moved := tests.moves held
  rw [move, Exec.ok_bind] at moved
  have held' : Held start stream (n + 1) 0 0 nextValue { s.1 with currentValue := nextValue } :=
    ⟨held.handle.trans (SameHandle.moveForward moved), held.window, held.index, rfl⟩
  obtain ⟨row, output⟩ := held.getOutput size (Nat.succ_pos n)
  exact ⟨_, emitRound_stay output moved held'.inWindow_current, held'⟩

theorem EmissionTests.of_round {s' : Handle × List Emission} (size : n < stream.length)
    (held : Held start stream (n + 1) 0 0 value s.1) (round : Handle.emitRound argumentId s = .ok s') :
    ∃ nextValue, next value = .ok nextValue ∧ Held start stream (n + 1) 0 0 nextValue s'.1 := by
  obtain ⟨_, _, _, move, _, _⟩ := emitRound_ok round
  obtain ⟨nextValue, step, _⟩ := Exec.bind_ok ((tests.moves held).symm.trans move)
  obtain ⟨s'', round', held'⟩ : ∃ s'', Handle.emitRound argumentId s = .ok s'' ∧ _ :=
    tests.round size held step
  obtain rfl := Except.ok.inj (round'.symm.trans round)
  exact ⟨nextValue, step, held'⟩

theorem EmissionTests.loop_ends {k : Nat} (later : 0 < n) (size : n < stream.length)
    (reached : valueAfter next start.currentValue K = .ok value)
    (held : Held start stream (n + 1) 0 0 value s.1) (le : K ≤ k)
    (stops : testAfter next start.currentValue test k n = .ok true)
    (before : ∀ k', k' < k → (testAfter next start.currentValue test k' n).Returns) :
    ∃ e, Ends Handle.newestOut (Handle.emitRound argumentId) s e := by
  obtain ⟨last, isLast, inside⟩ := Exec.bind_ok stops
  let Before (distance : Nat) (s : Handle × List Emission) : Prop :=
    ∃ K value, K + distance = k ∧ valueAfter next start.currentValue K = .ok value ∧
      Held start stream (n + 1) 0 0 value s.1
  have step : ∀ distance s, Before distance s → Handle.newestOut s = .ok false ∨
      ∃ s' lower, Handle.newestOut s = .ok true ∧ Handle.emitRound argumentId s = .ok s' ∧
        Before lower s' ∧ lower < distance := by
    rintro distance s ⟨K, value, between, reached, held⟩
    have out := tests.newestOut later size held
    rcases Nat.eq_zero_or_pos distance with rfl | more
    · obtain rfl : K = k := between
      obtain rfl := Except.ok.inj (reached.symm.trans isLast)
      rw [inside] at out
      exact .inl out
    · obtain ⟨found, tested⟩ := before K (by omega)
      obtain ⟨_, reached', tested⟩ := Exec.bind_ok tested
      obtain rfl := Except.ok.inj (reached.symm.trans reached')
      rw [tested] at out
      cases found with
      | true => exact .inl out
      | false =>
        obtain ⟨nextValue, further⟩ := valueAfter_earlier (show K + 1 ≤ k by omega) isLast
        obtain ⟨_, reached'', move⟩ := Exec.bind_ok further
        obtain rfl := Except.ok.inj (reached.symm.trans reached'')
        obtain ⟨s', round, held'⟩ : ∃ s', Handle.emitRound argumentId s = .ok s' ∧ _ :=
          tests.round size held move
        exact .inr ⟨s', distance - 1, out, round, ⟨K + 1, nextValue, by omega, further, held'⟩,
          by omega⟩
  have start : Before (k - K) s := ⟨K, value, Nat.add_sub_of_le le, reached, held⟩
  obtain ⟨e, ends, _⟩ := exists_ends_within Before step start
  exact ⟨e, ends⟩

/-- Where the loop ends, the newest tuple is in the current window and in none that was left. -/
theorem EmissionTests.loop_result (later : 0 < n) (size : n < stream.length)
    (reached : valueAfter next start.currentValue K = .ok value)
    (held : Held start stream (n + 1) 0 0 value s.1)
    (ends : Ends Handle.newestOut (Handle.emitRound argumentId) s e) :
    ∃ k value, K ≤ k ∧ valueAfter next start.currentValue k = .ok value ∧
      Held start stream (n + 1) 0 0 value e.1 ∧ test value n = .ok true ∧
      ∀ k' value, K ≤ k' → k' < k → valueAfter next start.currentValue k' = .ok value →
        test value n = .ok false := by
  have ended := ends.invariant (fun e => ∃ k value, K ≤ k ∧
    valueAfter next start.currentValue k = .ok value ∧ Held start stream (n + 1) 0 0 value e.1 ∧
    ∀ k' value, K ≤ k' → k' < k → valueAfter next start.currentValue k' = .ok value →
      test value n = .ok false)
    ⟨K, value, Nat.le_refl K, reached, held, fun k' _ le lt => absurd lt (Nat.not_lt_of_le le)⟩ ?_
  · obtain ⟨⟨k, value, le, reached, held, left⟩, exit⟩ := ended
    have tested := Exec.of_not_ok ((tests.newestOut later size held).symm.trans exit)
    exact ⟨k, value, le, reached, held, tested, left⟩
  · rintro e next' again round ⟨k, value, le, reached, held, left⟩
    have tested := Exec.of_not_ok ((tests.newestOut later size held).symm.trans again)
    obtain ⟨nextValue, move, held'⟩ := tests.of_round size held round
    have further : valueAfter next start.currentValue (k + 1) = .ok nextValue := by
      rw [valueAfter, reached, Exec.ok_bind, move]
    refine ⟨k + 1, nextValue, Nat.le_succ_of_le le, further, held', ?_⟩
    intro k' value' le' lt reached'
    rcases Nat.lt_succ_iff_lt_or_eq.mp lt with before | rfl
    · exact left k' value' le' before reached'
    · obtain rfl := Except.ok.inj (reached.symm.trans reached')
      exact tested

end Emission

/-- The state between two arrivals: the current window holds the newest tuple, and the windows left
behind can be tested for the tuples to come. -/
structure Stationary (start : Handle) (stream : List Tuple) (next : Option ℚ → Exec (Option ℚ))
    (test : Option ℚ → Nat → Exec Bool) (n k : Nat) (value : Option ℚ) (h : Handle) : Prop where
  held : Held start stream n 0 0 value h
  reached : valueAfter next start.currentValue k = .ok value
  first : n ≤ 1 → k = 0
  newest : 1 < n → test value (n - 1) = .ok true
  left : ∀ k', k' < k → ∀ m, n ≤ m → m < stream.length →
    (testAfter next start.currentValue test k' m).Returns

section EmissionRuns

variable {start : Handle} {stream : List Tuple} {next : Option ℚ → Exec (Option ℚ)}
  {test : Option ℚ → Nat → Exec Bool} {argumentId n K : Nat} {value : Option ℚ}
  {s s' : Handle × List Emission} (tests : EmissionTests start stream next test)

/-- The first tuple is the current one. -/
theorem Stationary.arrives_first (state : Stationary start stream next test 0 K value s.1)
    (size : 0 < stream.length) :
    ∃ s', Arrives argumentId s stream[0] s' ∧ Stationary start stream next test 1 K value s'.1 := by
  have pushed := state.held.push size (Nat.le_refl 0)
  have joins : Handle.newestOut (pushBack s stream[0]) = .ok !true :=
    newestOut_eq (pushed.length size) pushed.inWindow_current
  refine ⟨_, arrives_iff.mpr ⟨_, _, Ends.exit joins, pushed.getLast? (by omega) (by omega), rfl⟩, ?_⟩
  refine ⟨pushed.addBack argumentId _, state.reached, ?_, ?_, ?_⟩
  · intro _
    exact state.first (Nat.zero_le 1)
  · intro two
    omega
  · intro k' lt m _ inside
    exact state.left k' lt m (Nat.zero_le m) inside

include tests

theorem Stationary.arrives (state : Stationary start stream next test n K value s.1) (later : 0 < n)
    (size : n < stream.length) (arrives : Arrives argumentId s stream[n] s') :
    ∃ k value, Stationary start stream next test (n + 1) k value s'.1 ∧
      Found next start.currentValue test n := by
  obtain ⟨e, back, ends, _, rfl⟩ := arrives_iff.mp arrives
  obtain ⟨k, value, le, reached, held, stops, out⟩ :=
    tests.loop_result later size state.reached (state.held.push size (Nat.zero_le n)) ends
  have left (k' : Nat) (lt : k' < k) (m : Nat) (from' : n ≤ m) (inside : m < stream.length) :
      (testAfter next start.currentValue test k' m).Returns := by
    rcases Nat.lt_or_ge k' K with before | since
    · exact state.left k' before m from' inside
    · obtain ⟨value', reached'⟩ := valueAfter_earlier (Nat.le_of_lt lt) reached
      obtain ⟨found, tested⟩ := tests.leaves (Nat.le_of_lt lt) reached' reached
        (out k' value' since lt reached') stops from' inside
      exact ⟨found, by rw [testAfter, reached', Exec.ok_bind, tested]⟩
  refine ⟨k, value, ⟨held.addBack argumentId back, reached, ?_, fun _ => stops, ?_⟩, k, ?_, ?_⟩
  · intro one
    omega
  · intro k' lt m after inside
    exact left k' lt m (Nat.le_of_succ_le after) inside
  · rw [testAfter, reached, Exec.ok_bind, stops]
  · intro k' lt
    exact left k' lt n (Nat.le_refl n) size

/-- A tuple that lies in some window arrives: none of the windows left behind holds it alone. -/
theorem Stationary.exists_arrives (state : Stationary start stream next test n K value s.1)
    (later : 0 < n) (size : n < stream.length) (found : Found next start.currentValue test n) :
    ∃ s', Arrives argumentId s stream[n] s' := by
  have pushed : Held start stream (n + 1) 0 0 value (pushBack s stream[n]).1 :=
    state.held.push size (Nat.zero_le n)
  obtain ⟨k, stops, before⟩ := found
  obtain ⟨e, ends⟩ : ∃ e, Ends Handle.newestOut (Handle.emitRound argumentId) (pushBack s stream[n]) e := by
    rcases Nat.le_total K k with le | le
    · exact tests.loop_ends later size state.reached pushed le stops before
    · rcases Nat.lt_or_ge 1 n with two | one
      · obtain ⟨m, rfl⟩ : ∃ m, n = m + 1 := ⟨n - 1, by omega⟩
        obtain ⟨_, reached, inside⟩ := Exec.bind_ok stops
        have stays := tests.persists size le reached state.reached (state.newest two) inside
        have out := tests.newestOut later size pushed
        rw [stays] at out
        exact ⟨_, Ends.exit out⟩
      · have zero := state.first one
        exact tests.loop_ends later size state.reached pushed (by omega) stops before
  obtain ⟨_, _, _, _, held, _⟩ := tests.loop_result later size state.reached pushed ends
  exact ⟨_, arrives_iff.mpr ⟨e, _, ends, held.getLast? (by omega) (by omega), rfl⟩⟩

theorem Stationary.next_state (state : Stationary start stream next test n K value s.1)
    (size : n < stream.length) (arrives : Arrives argumentId s stream[n] s') :
    ∃ k value, Stationary start stream next test (n + 1) k value s'.1 := by
  rcases Nat.eq_zero_or_pos n with rfl | later
  · obtain ⟨s'', first, state'⟩ : ∃ s'', Arrives argumentId s stream[0] s'' ∧ _ :=
      state.arrives_first size
    obtain rfl := Received.unique (.cons first (.nil _)) (.cons arrives (.nil _))
    exact ⟨K, value, state'⟩
  · obtain ⟨k, value, state', _⟩ := state.arrives tests later size arrives
    exact ⟨k, value, state'⟩

/-- **Handles with an emit duration**: the calls return exactly when every tuple after the first lies
in some window. -/
theorem received_emission_iff :
    (∃ s : Handle × List Emission, Received argumentId (start, []) stream s) ↔
      ∀ n, 0 < n → n < stream.length → Found next start.currentValue test n := by
  let Between (n : Nat) (s : Handle × List Emission) : Prop :=
    ∃ k value, Stationary start stream next test n k value s.1
  have created : Between 0 (start, []) :=
    ⟨0, start.currentValue, tests.created, rfl, fun _ => rfl,
      fun two => absurd two (Nat.not_lt_zero 1), fun _ lt => absurd lt (Nat.not_lt_zero _)⟩
  constructor
  · rintro ⟨s, received⟩ n later size
    rw [← List.take_append_drop (n + 1) stream] at received
    obtain ⟨mid, before, _⟩ := Folds.append_iff.mp received
    rw [List.take_succ_eq_append_getElem size] at before
    obtain ⟨mid', before, rest⟩ := Folds.append_iff.mp before
    obtain ⟨_, arrives, _⟩ := Folds.cons_iff.mp rest
    have between : Between n mid' := before.invariant_take Between created
      (fun _ _ _ size state arrives => by
        obtain ⟨_, _, state⟩ := state
        exact state.next_state tests size arrives) (Nat.le_of_lt size)
    obtain ⟨K, value, state⟩ := between
    obtain ⟨_, _, _, found⟩ := state.arrives tests later size arrives
    exact found
  · intro inside
    have whole : ∃ s, Folds (Arrives argumentId) (start, []) (stream.take stream.length) s ∧
        Between stream.length s := by
      refine Folds.exists_take Between created ?_ (Nat.le_refl stream.length)
      rintro n s size ⟨k, value, state⟩
      obtain ⟨s', arrives⟩ : ∃ s', Arrives argumentId s stream[n] s' := by
        rcases Nat.eq_zero_or_pos n with rfl | later
        · obtain ⟨s', first, _⟩ := state.arrives_first size
          exact ⟨s', first⟩
        · exact state.exists_arrives tests later size (inside n later size)
      exact ⟨s', arrives, state.next_state tests size arrives⟩
    rw [List.take_length] at whole
    obtain ⟨s, received, _⟩ := whole
    exact ⟨s, received⟩

end EmissionRuns

/-! ## All modes -/

/-- The preceding bound of ROWS mode is an `int`. -/
def Frame.Nonneg : Frame → Prop
  | .rows preceding following => (∀ p ∈ preceding, 0 ≤ p ∧ p < 2 ^ 31) ∧ 0 ≤ following
  | .range preceding following => (∀ p ∈ preceding, 0 ≤ p) ∧ 0 ≤ following

/-- How `moveForward` moves the current value. -/
def moveValue (operators : Operators) (emitDuration : ℚ) : Frame → Option ℚ → Exec (Option ℚ)
  | .rows _ _, _ => .error .undefinedBehaviour
  | .range _ _, none => pure none
  | .range _ _, some value => do
    let value ← operators.rangeAdd value emitDuration
    pure (some value)

/-- The test of a tuple against the window of the current value. Without a value the first tuple takes
its place. -/
def testValue (operators : Operators) (streamingId : Nat) (stream : List Tuple) (preceding : Option ℚ)
    (following : ℚ) (value : Option ℚ) (n : Nat) : Exec Bool :=
  inFrame operators streamingId stream preceding following (value.getD (valueAt streamingId stream 0)) n

/-- The streams on which every call returns, in each mode. -/
def CallsReturn (operators : Operators) (streamingId : Nat) (emitDuration startValue : Option ℚ)
    (frame : Frame) (stream : List Tuple) : Prop :=
  match emitDuration, frame, startValue with
  | none, .rows none _, _ => True
  | none, .rows (some p) f, _ => stream.length ≤ 1 ∨ p ≤ 1 ∧ (stream.length : Int) ≤ p + f + 1
  | none, .range p f, none => KeepsUp operators streamingId stream p f
  | none, .range p f, some start => stream.length ≤ 1 ∨
    inFrame operators streamingId stream p f start 0 = .ok true ∨
      inFrame operators streamingId stream p f start 1 = .ok true
  | some _, .rows p f, _ => stream.length ≤ 1 ∨ (∀ q ∈ p, q = 0) ∧ (stream.length : Int) ≤ f + 1
  | some emit, .range p f, start => ∀ n, 0 < n → n < stream.length →
    Found (moveValue operators emit (.range p f)) start (testValue operators streamingId stream p f) n

section Modes

variable {operators : Operators} {streamingId argumentId : Nat} {stream : List Tuple} {emit : ℚ}
  {startValue : Option ℚ}

/-- A value never moves down. -/
theorem valueAfter_le (monotone : operators.Monotone) (nonneg : 0 ≤ emit) {preceding : Option ℚ}
    {following first : ℚ} {k K : Nat} {value later : Option ℚ} (le : k ≤ K)
    (reached : valueAfter (moveValue operators emit (.range preceding following)) startValue k = .ok value)
    (reached' : valueAfter (moveValue operators emit (.range preceding following)) startValue K = .ok later) :
    value.getD first ≤ later.getD first := by
  induction K generalizing later with
  | zero =>
    obtain rfl := Nat.le_zero.mp le
    obtain rfl := Except.ok.inj (reached.symm.trans reached')
    exact le_refl _
  | succ K ih =>
    rcases Nat.lt_succ_iff_lt_or_eq.mp (Nat.lt_succ_of_le le) with before | rfl
    · obtain ⟨middle, between, move⟩ := Exec.bind_ok reached'
      refine le_trans (ih (Nat.le_of_lt_succ before) between) ?_
      cases middle with
      | none =>
        cases move
        exact le_refl _
      | some middle =>
        obtain ⟨moved, add, done⟩ := Exec.bind_ok move
        cases done
        exact monotone.le_rangeAdd nonneg add
    · obtain rfl := Except.ok.inj (reached.symm.trans reached')
      exact le_refl _

/-- With exact arithmetic the windows are those of the multiples of the emit duration. -/
theorem valueAfter_exact {preceding : Option ℚ} {following start : ℚ} (k : Nat) :
    valueAfter (moveValue .exact emit (.range preceding following)) (some start) k =
      .ok (some (start + k * emit)) := by
  induction k with
  | zero =>
    rw [valueAfter]
    simp
  | succ k ih =>
    rw [valueAfter, ih, Exec.ok_bind, Nat.cast_add, Nat.cast_one, add_mul, one_mul, ← add_assoc]
    rfl

/-- A start value that is so large that it absorbs the emit duration does not move. -/
theorem found_absorbed_iff {preceding : Option ℚ} {following start : ℚ} {n : Nat}
    (absorbs : operators.rangeAdd start emit = .ok start) :
    Found (moveValue operators emit (.range preceding following)) (some start)
        (testValue operators streamingId stream preceding following) n ↔
      inFrame operators streamingId stream preceding following start n = .ok true := by
  have stays (k : Nat) :
      valueAfter (moveValue operators emit (.range preceding following)) (some start) k =
        .ok (some start) := by
    induction k with
    | zero => rfl
    | succ k ih =>
      rw [valueAfter, ih, Exec.ok_bind, moveValue, absorbs]
      rfl
  constructor
  · rintro ⟨k, inside, _⟩
    rw [testAfter, stays, Exec.ok_bind] at inside
    exact inside
  · intro inside
    exact ⟨0, inside, fun _ lt => absurd lt (Nat.not_lt_zero _)⟩

/-- RANGE mode. Without a start value the first tuple takes its place, and does not move. -/
theorem emissionTests_range {preceding : Option ℚ} {following : ℚ} (monotone : operators.Monotone)
    (positive : 0 < emit) (nonneg : (Frame.range preceding following).Nonneg)
    (ordered : NonDecreasing streamingId stream) :
    EmissionTests
      (Handle.create streamingId (.ofAttribute argumentId) (some emit) startValue
        (.range preceding following) operators)
      stream (moveValue operators emit (.range preceding following))
      (testValue operators streamingId stream preceding following) where
  created := held_create streamingId _ _ _ _ _ stream
  moves := by
    intro n value h held
    cases value with
    | none =>
      have stays : h.moveForward = .ok h := by
        unfold Handle.moveForward
        rw [held.handle.emitDuration, held.handle.frame, held.value]
        rfl
      rw [stays]
      show Except.ok h = .ok { h with currentValue := none }
      rw [← held.value]
    | some value =>
      unfold Handle.moveForward
      rw [held.handle.emitDuration, held.handle.frame, held.handle.operators, held.value]
      show (operators.rangeAdd value emit >>= fun next => _) =
        (operators.rangeAdd value emit >>= fun next => _) >>= _
      rw [bind_assoc]
      rfl
  newest later size held := held.inWindow_range rfl ordered size (by omega) (by omega) fun _ => by omega
  persists := by
    intro n k K value later size le reached reached' now soon
    have rise : valueAt streamingId stream n ≤ valueAt streamingId stream (n + 1) :=
      ordered.le (Nat.le_succ n) size
    obtain ⟨low, high', add', _⟩ := inRange_iff.mp now
    obtain ⟨_, high, add, below⟩ := inRange_iff.mp soon
    obtain ⟨_, same, le'⟩ := monotone.rangeAdd_mono nonneg.2
      (valueAfter_le monotone (le_of_lt positive) le reached reached') add'
    obtain rfl := Except.ok.inj (add.symm.trans same)
    refine inRange_iff.mpr ⟨?_, high', add', le_trans below le'⟩
    intro p isBound
    obtain ⟨bound, subtract, above⟩ := low p isBound
    exact ⟨bound, subtract, le_trans above rise⟩
  leaves := by
    intro n m k K value later le reached reached' out inside from' size
    have rise : valueAt streamingId stream n ≤ valueAt streamingId stream m := ordered.le from' size
    obtain ⟨low', _⟩ := inRange_iff.mp inside
    rcases inRange_eq_ok_iff.mp out with ⟨low, high, add, _⟩ | ⟨_, p, isBound, low, subtract, below⟩
    · refine ⟨_, inRange_eq_ok_iff.mpr (.inl ⟨?_, high, add, rfl⟩)⟩
      intro p isBound
      obtain ⟨bound, subtract, above⟩ := low p isBound
      exact ⟨bound, subtract, le_trans above rise⟩
    · obtain ⟨bound, subtract', above⟩ := low' p isBound
      obtain ⟨_, same, le'⟩ := monotone.rangeSubtract_mono (nonneg.1 p isBound)
        (valueAfter_le monotone (le_of_lt positive) le reached reached') subtract
      obtain rfl := Except.ok.inj (subtract'.symm.trans same)
      exact absurd (le_trans le' above) (not_le.mpr below)

/-- ROWS mode, where the handle has no operator to move forward. -/
theorem emissionTests_rows {preceding : Option Int} {following : Int} :
    EmissionTests
      (Handle.create streamingId (.ofAttribute argumentId) (some emit) startValue
        (.rows preceding following) operators)
      stream (moveValue operators emit (.rows preceding following))
      (fun _ n => .ok (Handle.inRows preceding following 0 n)) where
  created := held_create streamingId _ _ _ _ _ stream
  moves := by
    intro n value h held
    unfold Handle.moveForward
    rw [held.handle.emitDuration, held.handle.frame]
    rfl
  newest := by
    intro n value h later _ held
    unfold Handle.inWindow
    rw [held.index, if_neg (by omega), held.handle.frame]
    rfl
  persists _ _ _ _ _ soon := soon
  leaves _ _ _ _ _ _ _ := ⟨_, rfl⟩

/-- No window but the first one is reached. -/
theorem found_rows_iff {preceding : Option Int} {following : Int} {n : Nat} :
    Found (moveValue operators emit (.rows preceding following)) startValue
        (fun _ n => .ok (Handle.inRows preceding following 0 n)) n ↔
      Handle.inRows preceding following 0 n = true := by
  constructor
  · rintro ⟨k, inside, _⟩
    obtain ⟨_, _, test⟩ := Exec.bind_ok inside
    exact Except.ok.inj test
  · intro inside
    exact ⟨0, congrArg Except.ok inside, fun _ lt => absurd lt (Nat.not_lt_zero _)⟩

theorem inRows_zero_iff {preceding : Option Int} {following : Int} (nonneg : 0 ≤ following)
    (none : ∀ q ∈ preceding, q = 0) (n : Nat) :
    Handle.inRows preceding following 0 n = true ↔ (n : Int) ≤ following := by
  have low : (preceding.any fun q => decide (n < sizeTAdd 0 (-q))) = false := by
    cases preceding with
    | none => rfl
    | some q =>
      obtain rfl := none q rfl
      rfl
  unfold Handle.inRows
  rw [low, if_neg Bool.false_ne_true, decide_eq_true_eq]
  unfold sizeTAdd
  split <;> omega

/-- With preceding rows the bound of the first tuple wraps around. -/
theorem inRows_zero_one {preceding : Option Int} {following : Int}
    (nonneg : (Frame.rows preceding following).Nonneg)
    (inside : Handle.inRows preceding following 0 1 = true) : ∀ q ∈ preceding, q = 0 := by
  intro q mem
  obtain rfl := Option.mem_def.mp mem
  obtain ⟨pos, small⟩ := nonneg.1 q rfl
  by_contra other
  have low : 1 < sizeTAdd 0 (-q) := by
    unfold sizeTAdd
    split <;> omega
  unfold Handle.inRows at inside
  rw [Option.any_some, decide_eq_true low, if_pos rfl] at inside
  exact Bool.false_ne_true inside

/-- The tuples that lie in the frame of the first one. -/
theorem forall_inRows_zero_iff {preceding : Option Int} {following : Int}
    (nonneg : (Frame.rows preceding following).Nonneg) :
    (∀ n, 0 < n → n < stream.length → Handle.inRows preceding following 0 n = true) ↔
      stream.length ≤ 1 ∨ (∀ q ∈ preceding, q = 0) ∧ (stream.length : Int) ≤ following + 1 := by
  constructor
  · intro inside
    by_cases short : stream.length ≤ 1
    · exact .inl short
    · have none := inRows_zero_one nonneg (inside 1 Nat.one_pos (by omega))
      have bound := (inRows_zero_iff nonneg.2 none _).mp
        (inside (stream.length - 1) (by omega) (by omega))
      exact .inr ⟨none, by omega⟩
  · rintro (short | ⟨none, bound⟩) n later size
    · omega
    · exact (inRows_zero_iff nonneg.2 none n).mpr (by omega)

/-- The run over a stream in window aggregation. ROWS mode does not look at the streaming attribute. -/
theorem received_tuples_iff (argumentId : Nat) (monotone : operators.Monotone) {frame : Frame}
    (nonneg : frame.Nonneg) (ordered : Ordered streamingId stream frame) :
    (∃ s : Handle × List Emission, Received argumentId
      (Handle.create streamingId (.ofAttribute argumentId) none startValue frame operators, []) stream
      s) ↔ CallsReturn operators streamingId none startValue frame stream := by
  cases frame with
  | rows preceding following =>
    cases preceding with
    | none =>
      have cumulative : Cumulative startValue (.rows none following) := nonneg.2
      obtain ⟨s, received, _⟩ := CumulativeState.received monotone cumulative ordered trivial argumentId
        (Nat.le_refl stream.length)
      rw [List.take_length] at received
      exact iff_of_true ⟨s, received⟩ trivial
    | some p =>
      obtain ⟨bounds, following_nonneg⟩ := nonneg
      obtain ⟨p_nonneg, small⟩ := bounds p rfl
      obtain ⟨p, rfl⟩ := Int.eq_ofNat_of_zero_le p_nonneg
      obtain ⟨f, rfl⟩ := Int.eq_ofNat_of_zero_le following_nonneg
      refine Iff.trans (received_rows_iff (p := p) (f := f) (by omega)) ?_
      show _ ↔ stream.length ≤ 1 ∨ (p : Int) ≤ 1 ∧ (stream.length : Int) ≤ p + f + 1
      omega
  | range preceding following =>
    cases startValue with
    | some start => cases preceding <;> exact received_start_iff ordered
    | none => cases preceding <;> exact received_range_iff ordered monotone nonneg.2 nonneg.1

/-- The run over a stream, in every mode. -/
theorem received_iff_callsReturn (argumentId : Nat) (monotone : operators.Monotone)
    {emitDuration : Option ℚ} {frame : Frame} (positive : ∀ emit ∈ emitDuration, 0 < emit)
    (nonneg : frame.Nonneg) (ordered : NonDecreasing streamingId stream) :
    (∃ s : Handle × List Emission, Received argumentId
      (Handle.create streamingId (.ofAttribute argumentId) emitDuration startValue frame operators, [])
      stream s) ↔ CallsReturn operators streamingId emitDuration startValue frame stream := by
  cases emitDuration with
  | none =>
    have inOrder : Ordered streamingId stream frame := by
      cases frame with
      | rows _ _ => trivial
      | range _ _ => exact ordered
    exact received_tuples_iff argumentId monotone nonneg inOrder
  | some emit =>
    cases frame with
    | rows preceding following =>
      refine (received_emission_iff emissionTests_rows).trans ?_
      simp only [found_rows_iff]
      exact forall_inRows_zero_iff nonneg
    | range preceding following =>
      exact received_emission_iff (emissionTests_range monotone (positive emit rfl) nonneg ordered)

end Modes

/-- Windows of length 0 every 5 from 10 on, and readings at 0 and at 12, between two windows. -/
def gapReadings : List (List Tuple) := [[reading 0 1], [reading 12 2]]

end Quickstep.Expressions.WindowAggregation
