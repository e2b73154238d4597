import Quickstep.Expressions.WindowAggregation.SlidingRange

/-!
# Window aggregation with a start value

In RANGE mode a start value takes the place of the current tuple, and without an emit duration it
never moves: one fixed frame serves every tuple. A tuple outside of it lets the current index run to
the newest tuple, and drops every tuple of the front that is outside, too.
-/

namespace Quickstep.Expressions.WindowAggregation
open Quickstep.Lib

/-- The test whether the tuple at a position of the stream is in the frame of the start value. -/
def inFrame (operators : Operators) (streamingId : Nat) (stream : List Tuple) (preceding : Option ℚ)
    (following startValue : ℚ) (i : Nat) : Exec Bool :=
  Handle.inRange operators preceding following (some startValue) (some (valueAt streamingId stream i))

/-- Once a tuple is found in the frame, its bounds do not overflow, and every tuple can be tested. -/
theorem inFrame_returns {operators : Operators} {streamingId : Nat} {stream : List Tuple}
    {preceding : Option ℚ} {following startValue : ℚ} {i : Nat}
    (inside : inFrame operators streamingId stream preceding following startValue i = .ok true)
    (j : Nat) : (inFrame operators streamingId stream preceding following startValue j).Returns := by
  obtain ⟨lower, high, add, _⟩ := inRange_iff.mp inside
  by_cases above : ∀ p ∈ preceding, ∃ low, operators.rangeSubtract startValue p = .ok low ∧
      low ≤ valueAt streamingId stream j
  · exact ⟨_, inRange_eq_ok_iff.mpr (.inl ⟨above, high, add, rfl⟩)⟩
  · obtain ⟨p, beyond⟩ := not_forall.mp above
    obtain ⟨isBound, beyond⟩ := Classical.not_imp.mp beyond
    obtain ⟨low, subtract, _⟩ := lower p isBound
    exact ⟨false, inRange_eq_ok_iff.mpr (.inr ⟨rfl, p, isBound, low, subtract,
      not_le.mp fun within => beyond ⟨low, subtract, within⟩⟩)⟩

/-- The deque starts at tuple `dropped`, and the current index is not behind the newest tuple. -/
structure Framed (operators : Operators) (streamingId argumentId : Nat) (stream : List Tuple)
    (preceding : Option ℚ) (following startValue : ℚ) (received dropped index : Nat) (h : Handle) :
    Prop where
  held : Held (rangeHandle operators streamingId argumentId (some startValue) preceding following) stream
    received dropped index (some startValue) h
  inside : index + dropped ≤ received - 1

section StartValue

variable {operators : Operators} {streamingId argumentId : Nat} {stream : List Tuple}
  {preceding : Option ℚ} {following startValue : ℚ} {received dropped index n : Nat} {h : Handle}
  {s s' : Handle × List Emission} (ordered : NonDecreasing streamingId stream)
include ordered

theorem Framed.test
    (state : Framed operators streamingId argumentId stream preceding following startValue received
      dropped index h)
    (size : received ≤ stream.length) {k : Nat} (other : k ≠ index) (inside : k + dropped < received) :
    h.inWindow k =
      inFrame operators streamingId stream preceding following startValue (k + dropped) :=
  state.held.inWindow_range rfl ordered size other inside nofun

omit ordered in
theorem Framed.newest_current
    (state : Framed operators streamingId argumentId stream preceding following startValue (n + 1)
      dropped index s.1)
    (size : n < stream.length) (current : index + dropped = n) :
    Handle.newestOut s = .ok false := by
  show Handle.newestOut s = .ok !true
  refine newestOut_eq (n := n - dropped) (by rw [state.held.length size]; omega) ?_
  rw [show n - dropped = index by omega]
  exact state.held.inWindow_current

theorem Framed.newest_other
    (state : Framed operators streamingId argumentId stream preceding following startValue (n + 1)
      dropped index s.1)
    (size : n < stream.length) (other : index + dropped ≠ n) :
    Handle.newestOut s = (do
      pure !(← inFrame operators streamingId stream preceding following startValue n)) := by
  have inside := state.inside
  have test := state.test ordered size (k := n - dropped) (by omega) (by omega)
  rw [Nat.sub_add_cancel (by omega)] at test
  rw [Handle.newestOut, state.held.length size, show n + 1 - dropped - 1 = n - dropped by omega, test]

/-- A round that leaves the front alone. -/
theorem Framed.round
    (state : Framed operators streamingId argumentId stream preceding following startValue (n + 1)
      dropped index s.1)
    (size : n < stream.length)
    (front : inFrame operators streamingId stream preceding following startValue dropped = .ok true)
    (early : index + dropped < n) :
    ∃ next, Handle.emitRound argumentId s = .ok next ∧
      Framed operators streamingId argumentId stream preceding following startValue (n + 1) dropped
        (index + 1) next.1 := by
  obtain ⟨moved, move, held⟩ := state.held.moveForward_tuple rfl
  have framed : Framed operators streamingId argumentId stream preceding following startValue (n + 1)
      dropped (index + 1) moved := ⟨held, by omega⟩
  obtain ⟨row, output⟩ := state.held.getOutput size (by omega)
  have stays := framed.test ordered size (Nat.succ_ne_zero index).symm (by omega)
  rw [Nat.zero_add, front] at stays
  exact ⟨_, emitRound_stay output move stays, framed⟩

/-- While the front is in the frame, the emission loop ends at the newest tuple at the latest. -/
theorem Framed.loop
    (state : Framed operators streamingId argumentId stream preceding following startValue (n + 1)
      dropped index s.1)
    (size : n < stream.length)
    (front : inFrame operators streamingId stream preceding following startValue dropped = .ok true) :
    ∃ e index', Ends Handle.newestOut (Handle.emitRound argumentId) s e ∧
      Framed operators streamingId argumentId stream preceding following startValue (n + 1) dropped
        index' e.1 := by
  have inside := state.inside
  induction distance : n - (index + dropped) generalizing s index with
  | zero => exact ⟨s, index, Ends.exit (state.newest_current size (by omega)), state⟩
  | succ distance ih =>
    have test := state.newest_other ordered size (by omega)
    obtain ⟨newest, found⟩ := inFrame_returns front n
    rw [found] at test
    cases newest with
    | true => exact ⟨s, index, Ends.exit test, state⟩
    | false =>
      obtain ⟨next, round, state'⟩ := state.round ordered size front (by omega)
      obtain ⟨e, index', ends, final⟩ := ih state' state'.inside (by omega)
      exact ⟨e, index', Ends.round test round ends, final⟩

omit ordered in
/-- Where the emission loop ends, the new tuple has arrived. -/
theorem Framed.arrived {e : Handle × List Emission}
    (state : Framed operators streamingId argumentId stream preceding following startValue (n + 1)
      dropped index e.1)
    (size : n < stream.length)
    (ends : Ends Handle.newestOut (Handle.emitRound argumentId) (pushBack s stream[n]) e) :
    ∃ s', Arrives argumentId s stream[n] s' ∧
      Framed operators streamingId argumentId stream preceding following startValue (n + 1) dropped index
        s'.1 := by
  have inside := state.inside
  refine ⟨_, arrives_iff.mpr ⟨e, _, ends, state.held.getLast? (by omega) (by omega), rfl⟩, ?_⟩
  exact ⟨state.held.addBack argumentId _, inside⟩

omit ordered in
theorem Framed.pushed
    (state : Framed operators streamingId argumentId stream preceding following startValue n dropped
      index s.1)
    (size : n < stream.length) :
    Framed operators streamingId argumentId stream preceding following startValue (n + 1) dropped index
      (pushBack s stream[n]).1 := by
  have inside := state.inside
  exact ⟨state.held.push size (by omega), by omega⟩

/-- **One arrival** while the front is in the frame. -/
theorem Framed.arrives
    (state : Framed operators streamingId argumentId stream preceding following startValue n dropped
      index s.1)
    (size : n < stream.length)
    (front : inFrame operators streamingId stream preceding following startValue dropped = .ok true) :
    ∃ s' index', Arrives argumentId s stream[n] s' ∧
      Framed operators streamingId argumentId stream preceding following startValue (n + 1) dropped
        index' s'.1 := by
  obtain ⟨e, index', ends, final⟩ := (state.pushed size).loop ordered size front
  obtain ⟨s', arrives, final⟩ := final.arrived size ends
  exact ⟨s', index', arrives, final⟩

/-- A tuple that is current or in the frame joins. -/
theorem Framed.joins
    (state : Framed operators streamingId argumentId stream preceding following startValue n 0 0 s.1)
    (size : n < stream.length)
    (joins : n = 0 ∨
      inFrame operators streamingId stream preceding following startValue n = .ok true) :
    ∃ s', Arrives argumentId s stream[n] s' ∧
      Framed operators streamingId argumentId stream preceding following startValue (n + 1) 0 0 s'.1 := by
  have pushed := state.pushed size
  refine pushed.arrived size (Ends.exit ?_)
  rcases Nat.eq_zero_or_pos n with rfl | later
  · exact pushed.newest_current size rfl
  · rw [pushed.newest_other ordered size (by omega), joins.resolve_left (by omega)]
    rfl

/-- The first tuple outside of the frame takes away a front that is outside, and stops at tuple 1. -/
theorem Framed.dropsFirst
    (state : Framed operators streamingId argumentId stream preceding following startValue n 0 0 s.1)
    (size : n < stream.length) (late : 2 ≤ n)
    (newest : inFrame operators streamingId stream preceding following startValue n = .ok false)
    (first : inFrame operators streamingId stream preceding following startValue 0 = .ok false)
    (second : inFrame operators streamingId stream preceding following startValue 1 = .ok true) :
    ∃ s' index', Arrives argumentId s stream[n] s' ∧
      Framed operators streamingId argumentId stream preceding following startValue (n + 1) 1 index'
        s'.1 := by
  have pushed := state.pushed size
  have out := pushed.newest_other ordered size (by omega)
  rw [newest] at out
  obtain ⟨moved, move, held⟩ := pushed.held.moveForward_tuple rfl
  have framed : Framed operators streamingId argumentId stream preceding following startValue (n + 1) 0 1
      moved := ⟨held, by omega⟩
  obtain ⟨row, output⟩ := pushed.held.getOutput size (by omega)
  obtain ⟨h, drop, held⟩ := framed.held.dropFront argumentId size (by omega)
  have shifted : Framed operators streamingId argumentId stream preceding following startValue (n + 1) 1 1
      h := ⟨held, by omega⟩
  have front := framed.test ordered size Nat.zero_ne_one (by omega)
  rw [first] at front
  have stays := shifted.test ordered size Nat.zero_ne_one (by omega)
  rw [second] at stays
  have round := emitRound_of output move ((dropLoop_next front drop).trans (dropLoop_stay stays))
  obtain ⟨e, index', ends, final⟩ := shifted.loop (s := (h, _)) ordered size second
  obtain ⟨s', arrives, final⟩ := final.arrived size (Ends.round out round ends)
  exact ⟨s', index', arrives, final⟩

/-- With neither of the first two tuples in the frame, the second one does not arrive. -/
theorem Framed.not_arrives
    (state : Framed operators streamingId argumentId stream preceding following startValue 1 0 0 s.1)
    (size : 1 < stream.length)
    (first : inFrame operators streamingId stream preceding following startValue 0 ≠ .ok true)
    (second : inFrame operators streamingId stream preceding following startValue 1 ≠ .ok true) :
    ¬ Arrives argumentId s stream[1] s' := by
  intro arrives
  obtain ⟨e, _, ends, _⟩ := arrives_iff.mp arrives
  have pushed := state.pushed size
  have out := pushed.newest_other ordered size Nat.zero_ne_one
  rcases ends.cases_first with ⟨done, _⟩ | ⟨next, again, round, _⟩
  · exact second (Exec.of_not_ok (out.symm.trans done))
  · have test := Exec.of_not_ok (out.symm.trans again)
    obtain ⟨_, moved, _, move, loop, _⟩ := emitRound_ok round
    obtain ⟨moved', move', held⟩ := pushed.held.moveForward_tuple rfl
    obtain rfl := Except.ok.inj (move'.symm.trans move)
    have framed : Framed operators streamingId argumentId stream preceding following startValue 2 0 1
        moved' := ⟨held, by omega⟩
    have front := framed.test ordered size Nat.zero_ne_one (by omega)
    obtain ⟨h₁, drop₁, held₁⟩ := framed.held.dropFront argumentId size (by omega)
    have outside : h₁.inWindow 0 = .ok false :=
      (held₁.inWindow_range rfl ordered size Nat.zero_ne_one (by omega) nofun).trans test
    obtain ⟨h₂, drop₂, held₂⟩ := held₁.dropFront argumentId size (by omega)
    have empty := held₂.inWindow_error rfl size Nat.zero_ne_one (.inl (by omega))
    have ends : Ends _ _ moved' next.1 := ⟨_, loop⟩
    rcases ends.cases_first with ⟨exit, _⟩ | ⟨_, again, _⟩
    · exact first (front.symm.trans (Exec.of_not_ok exit))
    · have test := Exec.of_not_ok again
      rw [dropLoop_next test drop₁, dropLoop_next outside drop₂] at loop
      have ends : Ends _ _ h₂ next.1 := ⟨_, loop⟩
      rcases ends.cases_first with ⟨exit, _⟩ | ⟨_, again, _⟩
      · rw [empty] at exit
        cases exit
      · rw [empty] at again
        cases again

/-! ## Runs -/

omit ordered in
theorem framed_create :
    Framed operators streamingId argumentId stream preceding following startValue 0 0 0
      (rangeHandle operators streamingId argumentId (some startValue) preceding following) :=
  ⟨held_create streamingId _ _ _ _ _ stream, Nat.le_refl 0⟩

/-- With the first tuple in the frame the front stays. -/
theorem exists_received_first
    (first : inFrame operators streamingId stream preceding following startValue 0 = .ok true)
    (size : n ≤ stream.length) :
    ∃ s : Handle × List Emission,
      Received argumentId
        (rangeHandle operators streamingId argumentId (some startValue) preceding following, [])
        (stream.take n) s ∧
      ∃ c, Framed operators streamingId argumentId stream preceding following startValue n 0 c s.1 := by
  refine Folds.exists_take (fun n (s : Handle × List Emission) =>
    ∃ c, Framed operators streamingId argumentId stream preceding following startValue n 0 c s.1)
    ⟨0, framed_create⟩ ?_ size
  rintro n s size ⟨c, state⟩
  obtain ⟨s', c', arrives, state'⟩ := state.arrives ordered size first
  exact ⟨s', arrives, c', state'⟩

/-- With only the second tuple in the frame it takes over the front when the first one leaves. -/
theorem exists_received_second
    (first : inFrame operators streamingId stream preceding following startValue 0 = .ok false)
    (second : inFrame operators streamingId stream preceding following startValue 1 = .ok true)
    (size : n ≤ stream.length) :
    ∃ s : Handle × List Emission,
      Received argumentId
        (rangeHandle operators streamingId argumentId (some startValue) preceding following, [])
        (stream.take n) s ∧
      (Framed operators streamingId argumentId stream preceding following startValue n 0 0 s.1 ∨
        ∃ c, Framed operators streamingId argumentId stream preceding following startValue n 1 c s.1) := by
  refine Folds.exists_take (fun n (s : Handle × List Emission) =>
    Framed operators streamingId argumentId stream preceding following startValue n 0 0 s.1 ∨
      ∃ c, Framed operators streamingId argumentId stream preceding following startValue n 1 c s.1)
    (.inl framed_create) ?_ size
  rintro n s size (waiting | ⟨c, state⟩)
  · by_cases joins : n = 0 ∨
        inFrame operators streamingId stream preceding following startValue n = .ok true
    · obtain ⟨s', arrives, state'⟩ := waiting.joins ordered size joins
      exact ⟨s', arrives, .inl state'⟩
    · obtain ⟨later, outside⟩ := not_or.mp joins
      obtain ⟨inside, newest⟩ := inFrame_returns second n
      obtain rfl := Bool.eq_false_iff.mpr fun isIn => outside (isIn ▸ newest)
      have late : 2 ≤ n := by
        by_contra early
        obtain rfl : n = 1 := by omega
        exact outside second
      obtain ⟨s', c', arrives, state'⟩ := waiting.dropsFirst ordered size late newest first second
      exact ⟨s', arrives, .inr ⟨c', state'⟩⟩
  · obtain ⟨s', c', arrives, state'⟩ := state.arrives ordered size second
    exact ⟨s', arrives, .inr ⟨c', state'⟩⟩

/-- **One fixed frame**: the calls return exactly when one of the first two tuples is in it. -/
theorem received_start_iff :
    (∃ s : Handle × List Emission,
      Received argumentId
        (rangeHandle operators streamingId argumentId (some startValue) preceding following, [])
        stream s) ↔
      stream.length ≤ 1 ∨
        inFrame operators streamingId stream preceding following startValue 0 = .ok true ∨
        inFrame operators streamingId stream preceding following startValue 1 = .ok true := by
  constructor
  · rintro ⟨s, received⟩
    by_contra outside
    obtain ⟨long, both⟩ := not_or.mp outside
    obtain ⟨first, second⟩ := not_or.mp both
    have size : 1 < stream.length := Nat.lt_of_not_le long
    obtain ⟨s₁, arrives₁, state₁⟩ := Framed.joins (s := (_, [])) ordered framed_create
      (Nat.lt_of_succ_lt size) (.inl rfl)
    rw [← List.take_append_drop 1 stream, List.drop_eq_getElem_cons size] at received
    obtain ⟨mid, before, rest⟩ := Folds.append_iff.mp received
    rw [List.take_succ_eq_append_getElem (Nat.lt_of_succ_lt size)] at before
    obtain rfl := Received.unique before (Folds.cons arrives₁ (.nil s₁))
    obtain ⟨s₂, arrives₂, _⟩ := Folds.cons_iff.mp rest
    exact state₁.not_arrives ordered size first second arrives₂
  · rintro (short | inside)
    · cases stream with
      | nil => exact ⟨_, .nil _⟩
      | cons t rest =>
        obtain rfl : rest = [] :=
          List.eq_nil_of_length_eq_zero (Nat.le_zero.mp (Nat.le_of_succ_le_succ short))
        obtain ⟨s₁, arrives₁, _⟩ := Framed.joins (s := (_, [])) ordered framed_create
          Nat.zero_lt_one (.inl rfl)
        exact ⟨s₁, .cons arrives₁ (.nil s₁)⟩
    · rw [← List.take_length (l := stream)]
      by_cases first : inFrame operators streamingId stream preceding following startValue 0 = .ok true
      · obtain ⟨s, received, _⟩ := exists_received_first ordered first (Nat.le_refl stream.length)
        exact ⟨s, received⟩
      · have second := inside.resolve_left first
        obtain ⟨outside, test⟩ := inFrame_returns second 0
        obtain rfl := Bool.eq_false_iff.mpr fun isIn => first (isIn ▸ test)
        obtain ⟨s, received, _⟩ := exists_received_second ordered test second (Nat.le_refl stream.length)
        exact ⟨s, received⟩

end StartValue

end Quickstep.Expressions.WindowAggregation
