import Quickstep.Expressions.WindowAggregation.Cumulative
import Quickstep.Expressions.WindowAggregation.HeldTuples

/-!
# Sliding frames in RANGE mode

Window aggregation without a start value. The current tuple index counts the emitted rows and is not
adjusted when tuples leave the deque, so every drop also moves the window on by one tuple. The drops
end where as many tuples as rows have been emitted, and one more, lie within the preceding bound;
when there are no such tuples the deque is left behind. A bound that overflows has no result.
-/

namespace Quickstep.Expressions.WindowAggregation
open Quickstep.Lib

/-- The handle of window aggregation in RANGE mode. -/
def rangeHandle (operators : Operators) (streamingId argumentId : Nat)
    (startValue preceding : Option ℚ) (following : ℚ) : Handle :=
  Handle.create streamingId (.ofAttribute argumentId) none startValue (.range preceding following)
    operators

/-- The tuple `index` places behind `first` is within the preceding bound. -/
def Spans (operators : Operators) (streamingId : Nat) (stream : List Tuple) (preceding : Option ℚ)
    (index first : Nat) : Prop :=
  ∀ p ∈ preceding, ∃ low,
    operators.rangeSubtract (valueAt streamingId stream (index + first)) p = .ok low ∧
      low ≤ valueAt streamingId stream first

/-- The upper bound of the frame of tuple `i` does not overflow. -/
def HasUpperBound (operators : Operators) (streamingId : Nat) (stream : List Tuple) (f : ℚ) (i : Nat) :
    Prop :=
  (operators.rangeAdd (valueAt streamingId stream i) f).Returns

/-- The deque starts at the first tuple that spans to the current one. -/
structure Sliding (operators : Operators) (streamingId argumentId : Nat) (stream : List Tuple)
    (preceding : Option ℚ) (f : ℚ) (received dropped index : Nat) (h : Handle) : Prop where
  held : Held (rangeHandle operators streamingId argumentId none preceding f) stream received dropped
    index none h
  spans : Spans operators streamingId stream preceding index dropped
  least : ∀ e, e < dropped → ¬ Spans operators streamingId stream preceding index e
  upper : HasUpperBound operators streamingId stream f (index + dropped)
  inside : index + dropped < received

section Bounds

variable {operators : Operators} {streamingId : Nat} {stream : List Tuple} {preceding : Option ℚ}
  {f : ℚ} {index : Nat}
  (ordered : NonDecreasing streamingId stream) (monotone : operators.Monotone)
include ordered monotone

section Preceding

variable (preceding_nonneg : ∀ p ∈ preceding, 0 ≤ p)
include preceding_nonneg

/-- Where the lower bound of a tuple does not overflow, that of a shorter stretch lies lower. -/
theorem Spans.shorter {earlier first index' first' : Nat}
    (reached : Spans operators streamingId stream preceding earlier first')
    (spans : Spans operators streamingId stream preceding index' first)
    (before : earlier + first' ≤ index + first) (le : index ≤ index')
    (bound : index' + first < stream.length) :
    Spans operators streamingId stream preceding index first := by
  intro p isBound
  have nonneg := preceding_nonneg p isBound
  obtain ⟨low₀, subtract₀, _⟩ := reached p isBound
  obtain ⟨low', subtract', le'⟩ := spans p isBound
  have rise₀ : valueAt streamingId stream (earlier + first') ≤ valueAt streamingId stream (index + first) :=
    ordered.le before (by omega)
  have rise : valueAt streamingId stream (index + first) ≤ valueAt streamingId stream (index' + first) :=
    ordered.le (by omega) bound
  obtain ⟨low, subtract, _⟩ := monotone.rangeSubtract_mono nonneg rise₀ subtract₀
  obtain ⟨_, same, below⟩ := monotone.rangeSubtract_mono nonneg rise subtract
  obtain rfl := Except.ok.inj (subtract'.symm.trans same)
  exact ⟨low, subtract, le_trans below le'⟩

end Preceding

section Following

variable (following : 0 ≤ f)
include following

theorem HasUpperBound.earlier {i j : Nat} (upper : HasUpperBound operators streamingId stream f j)
    (le : i ≤ j) (bound : j < stream.length) : HasUpperBound operators streamingId stream f i := by
  obtain ⟨high, add⟩ := upper
  obtain ⟨lower, add', _⟩ := monotone.rangeAdd_mono following (ordered.le le bound) add
  exact ⟨lower, add'⟩

end Following

end Bounds

section Sliding

variable {operators : Operators} {streamingId argumentId : Nat} {stream : List Tuple}
  {preceding : Option ℚ} {f : ℚ} {received dropped index : Nat} {h : Handle}
  (ordered : NonDecreasing streamingId stream) (monotone : operators.Monotone)
  (following : 0 ≤ f)
include ordered monotone following

/-- What the test of the front finds: no tuple of the deque lies above the upper bound. -/
theorem front_test {inside : Bool}
    (held : Held (rangeHandle operators streamingId argumentId none preceding f) stream received dropped
      (index + 1) none h)
    (size : received ≤ stream.length) (kept : index + 1 + dropped < received) :
    h.inWindow 0 = .ok inside ↔
      Spans operators streamingId stream preceding (index + 1) dropped ∧
          HasUpperBound operators streamingId stream f (index + 1 + dropped) ∧ inside = true ∨
        inside = false ∧ ∃ p ∈ preceding, ∃ low,
          operators.rangeSubtract (valueAt streamingId stream (index + 1 + dropped)) p = .ok low ∧
            valueAt streamingId stream dropped < low := by
  have rise : valueAt streamingId stream dropped ≤ valueAt streamingId stream (index + 1 + dropped) :=
    ordered.le (by omega) (by omega)
  rw [held.inWindow_range rfl ordered size (Nat.succ_ne_zero index).symm (by omega) fun _ => kept,
    Nat.zero_add, Option.getD_none]
  refine Iff.trans inRange_eq_ok_iff (or_congr (and_congr Iff.rfl ?_) Iff.rfl)
  constructor
  · rintro ⟨high, add, rfl⟩
    have above := le_trans rise (monotone.le_rangeAdd following add)
    exact ⟨⟨high, add⟩, decide_eq_true above⟩
  · rintro ⟨⟨high, add⟩, rfl⟩
    have above := le_trans rise (monotone.le_rangeAdd following add)
    exact ⟨high, add, decide_eq_true above⟩

/-- Where the drop loop ends, the deque starts at the first tuple that spans to the current one. -/
theorem dropLoop_sliding {h' : Handle}
    (held : Held (rangeHandle operators streamingId argumentId none preceding f) stream received dropped
      (index + 1) none h)
    (size : received ≤ stream.length)
    (least : ∀ e, e < dropped → ¬ Spans operators streamingId stream preceding (index + 1) e)
    (drop : h.dropLoop argumentId = .ok h') :
    ∃ d, Sliding operators streamingId argumentId stream preceding f received d (index + 1) h' := by
  let start := rangeHandle operators streamingId argumentId none preceding f
  have ended := Ends.invariant
    (fun h => ∃ d, Held start stream received d (index + 1) none h ∧
      ∀ e, e < d → ¬ Spans operators streamingId stream preceding (index + 1) e)
    ⟨_, drop⟩ ⟨dropped, held, least⟩ ?_
  · obtain ⟨⟨d, held, least⟩, exit⟩ := ended
    by_cases kept : index + 1 + d < received
    · rcases (front_test ordered monotone following held size kept).mp (Exec.of_not_ok exit) with
        ⟨spans, upper, _⟩ | ⟨out, _⟩
      · exact ⟨d, held, spans, least, upper, kept⟩
      · cases out
    · rw [held.inWindow_error rfl size (Nat.succ_ne_zero index).symm (.inr ⟨rfl, by omega⟩)] at exit
      cases exit
  · rintro s next again round ⟨d, held, least⟩
    by_cases kept : index + 1 + d < received
    · rcases (front_test ordered monotone following held size kept).mp (Exec.of_not_ok again) with
        ⟨_, _, inside⟩ | ⟨_, p, isBound, low, subtract, below⟩
      · cases inside
      · have gone : ¬ Spans operators streamingId stream preceding (index + 1) d := by
          intro spans
          obtain ⟨low', subtract', le⟩ := spans p isBound
          obtain rfl := Except.ok.inj (subtract.symm.trans subtract')
          exact absurd le (not_le.mpr below)
        obtain ⟨_, dropped, held⟩ := held.dropFront argumentId size (by omega)
        obtain rfl := Except.ok.inj (dropped.symm.trans round)
        refine ⟨d + 1, held, ?_⟩
        intro e lt
        rcases Nat.lt_succ_iff_lt_or_eq.mp lt with before | rfl
        · exact least e before
        · exact gone
    · rw [held.inWindow_error rfl size (Nat.succ_ne_zero index).symm (.inr ⟨rfl, by omega⟩)] at again
      cases again

/-- The newest tuple is in the window if it is not behind the current one by more than the following
bound. -/
theorem Sliding.newest {s : Handle × List Emission} {n : Nat}
    (state : Sliding operators streamingId argumentId stream preceding f (n + 1) dropped index s.1)
    (size : n < stream.length) :
    Handle.newestOut s = .ok
      (decide (Behind operators streamingId stream (index + dropped) n (.range preceding f))) := by
  have kept := state.inside
  obtain ⟨high, add⟩ := state.upper
  have behind : Behind operators streamingId stream (index + dropped) n (.range preceding f) ↔
      high < valueAt streamingId stream n := behind_range_iff add
  have above : valueAt streamingId stream (index + dropped) ≤ high := monotone.le_rangeAdd following add
  have test : s.1.inWindow (n - dropped) = .ok (decide (valueAt streamingId stream n ≤ high)) := by
    by_cases current : n - dropped = index
    · have here : index + dropped = n := by omega
      rw [here] at above
      rw [current, state.held.inWindow_current, decide_eq_true above]
    · rw [state.held.inWindow_range rfl ordered size current (by omega) fun _ => kept,
        Nat.sub_add_cancel (by omega), Option.getD_none]
      refine inRange_eq_ok_iff.mpr (.inl ⟨?_, high, add, rfl⟩)
      intro p isBound
      obtain ⟨low, subtract, le⟩ := state.spans p isBound
      exact ⟨low, subtract, le_trans le (ordered.le (by omega) size)⟩
  rw [newestOut_eq (by rw [state.held.length size]; omega) test]
  refine congrArg Except.ok ?_
  rw [Bool.eq_iff_iff]
  simp [behind]

variable (preceding_nonneg : ∀ p ∈ preceding, 0 ≤ p)
include preceding_nonneg

/-- The drop loop ends when some tuple in the deque spans to the current one. -/
theorem dropLoop_ends {d : Nat}
    (held : Held (rangeHandle operators streamingId argumentId none preceding f) stream received dropped
      (index + 1) none h)
    (size : received ≤ stream.length) (le : dropped ≤ d) (kept : index + 1 + d < received)
    (start : Spans operators streamingId stream preceding 0 0)
    (spans : Spans operators streamingId stream preceding (index + 1) d)
    (upper : HasUpperBound operators streamingId stream f (index + 1 + d)) :
    ∃ h', h.dropLoop argumentId = .ok h' := by
  induction distance : d - dropped generalizing dropped h with
  | zero =>
    obtain rfl : dropped = d := by omega
    have front := (front_test ordered monotone following held size kept).mpr
      (.inl ⟨spans, upper, rfl⟩)
    exact ⟨h, dropLoop_stay front⟩
  | succ distance ih =>
    have front := @front_test operators streamingId argumentId stream preceding f received dropped index
      h ordered monotone following
    by_cases here : Spans operators streamingId stream preceding (index + 1) dropped
    · have upper := upper.earlier ordered monotone following (i := index + 1 + dropped) (by omega)
        (by omega)
      exact ⟨h, dropLoop_stay ((front held size (by omega)).mpr (.inl ⟨here, upper, rfl⟩))⟩
    · have outside : h.inWindow 0 = .ok false := by
        refine (front held size (by omega)).mpr (.inr ⟨rfl, ?_⟩)
        obtain ⟨p, isBound, beyond⟩ : ∃ p, p ∈ preceding ∧ ¬ ∃ low,
            operators.rangeSubtract (valueAt streamingId stream (index + 1 + dropped)) p = .ok low ∧
              low ≤ valueAt streamingId stream dropped := by
          simpa only [Spans, not_forall, exists_prop] using here
        obtain ⟨low₀, subtract₀, _⟩ := start p isBound
        obtain ⟨low, subtract, _⟩ := monotone.rangeSubtract_mono (preceding_nonneg p isBound)
          (ordered.le (Nat.zero_le (index + 1 + dropped)) (by omega)) subtract₀
        exact ⟨p, isBound, low, subtract, not_le.mp fun within => beyond ⟨low, subtract, within⟩⟩
      obtain ⟨next, drop, held⟩ := held.dropFront argumentId size (by omega)
      rw [dropLoop_next outside drop]
      exact ih held (by omega) (by omega)

/-- A round of the emission loop moves to the next tuple and keeps the deque sliding. -/
theorem Sliding.round {s next : Handle × List Emission}
    (state : Sliding operators streamingId argumentId stream preceding f received dropped index s.1)
    (start : Spans operators streamingId stream preceding 0 0)
    (size : received ≤ stream.length) (round : Handle.emitRound argumentId s = .ok next) :
    ∃ d, Sliding operators streamingId argumentId stream preceding f received d (index + 1) next.1 := by
  obtain ⟨_, _, _, move, drop, _⟩ := emitRound_ok round
  obtain ⟨moved, move', held⟩ := state.held.moveForward_tuple rfl
  obtain rfl := Except.ok.inj (move'.symm.trans move)
  have kept := state.inside
  refine dropLoop_sliding ordered monotone following held size ?_ drop
  intro e lt spans
  exact state.least e lt (Spans.shorter ordered monotone preceding_nonneg start spans (Nat.zero_le _)
    (Nat.le_succ index) (by omega))

end Sliding

/-! ## One arrival -/

/-- The state between two arrivals: the newest tuple is in the window of the current one. A single
tuple is not tested. -/
inductive Settled (operators : Operators) (streamingId argumentId : Nat) (stream : List Tuple)
    (preceding : Option ℚ) (f : ℚ) : Nat → Handle → Prop
  | early {n : Nat} {h : Handle} (first : n ≤ 1)
      (held : Held (rangeHandle operators streamingId argumentId none preceding f) stream n 0 0 none h) :
      Settled operators streamingId argumentId stream preceding f n h
  | sliding {n dropped index : Nat} {h : Handle}
      (start : Spans operators streamingId stream preceding 0 0)
      (state : Sliding operators streamingId argumentId stream preceding f (n + 1) dropped index h)
      (newest : ¬ Behind operators streamingId stream (index + dropped) n (.range preceding f)) :
      Settled operators streamingId argumentId stream preceding f (n + 1) h

/-- The bounds of the first tuple do not overflow, once another one is tested. Whenever a tuple is
behind the window of the last of `index + 1` tuples that lie within the preceding bound, there are
`index + 2` such tuples among those received, and the upper bound of their last does not overflow. -/
structure KeepsUp (operators : Operators) (streamingId : Nat) (stream : List Tuple)
    (preceding : Option ℚ) (f : ℚ) : Prop where
  start : 1 < stream.length → Spans operators streamingId stream preceding 0 0 ∧
    HasUpperBound operators streamingId stream f 0
  next : ∀ j index first, j < stream.length → index + first ≤ j →
    Spans operators streamingId stream preceding index first →
    Behind operators streamingId stream (index + first) j (.range preceding f) →
    ∃ first', index + 1 + first' ≤ j ∧ Spans operators streamingId stream preceding (index + 1) first' ∧
      HasUpperBound operators streamingId stream f (index + 1 + first')

section Arrival

variable {operators : Operators} {streamingId argumentId : Nat} {stream : List Tuple}
  {preceding : Option ℚ} {f : ℚ} {n : Nat} {s s' : Handle × List Emission}
  (ordered : NonDecreasing streamingId stream) (monotone : operators.Monotone)
  (following : 0 ≤ f) (preceding_nonneg : ∀ p ∈ preceding, 0 ≤ p)

/-- The first tuple is the current one. -/
theorem Settled.arrives_first
    (held : Held (rangeHandle operators streamingId argumentId none preceding f) stream 0 0 0 none s.1)
    (size : 0 < stream.length) :
    ∃ s', Arrives argumentId s stream[0] s' ∧
      Settled operators streamingId argumentId stream preceding f 1 s'.1 := by
  have pushed := held.push size (Nat.le_refl 0)
  have joins : Handle.newestOut (pushBack s stream[0]) = .ok !true :=
    newestOut_eq (pushed.length size) pushed.inWindow_current
  refine ⟨_, arrives_iff.mpr ⟨_, _, Ends.exit joins, pushed.getLast? (by omega) (by omega), rfl⟩, ?_⟩
  exact .early (Nat.le_refl 1) (pushed.addBack argumentId _)

/-- The second tuple in the deque, next to a first one whose bounds do not overflow. -/
theorem sliding_second {h : Handle}
    (held : Held (rangeHandle operators streamingId argumentId none preceding f) stream 2 0 0 none h)
    (start : Spans operators streamingId stream preceding 0 0)
    (upper : HasUpperBound operators streamingId stream f 0) :
    Sliding operators streamingId argumentId stream preceding f 2 0 0 h :=
  ⟨held, start, fun _ lt => absurd lt (Nat.not_lt_zero _), upper, Nat.zero_lt_two⟩

include ordered monotone following preceding_nonneg

omit following in
/-- The test of the second tuple computes the bounds of the first one. -/
theorem second_test {out : Bool}
    (held : Held (rangeHandle operators streamingId argumentId none preceding f) stream 2 0 0 none s.1)
    (size : 1 < stream.length) (test : Handle.newestOut s = .ok out) :
    Spans operators streamingId stream preceding 0 0 ∧ HasUpperBound operators streamingId stream f 0 := by
  have rise : valueAt streamingId stream 0 ≤ valueAt streamingId stream 1 := ordered.le (by omega) size
  obtain ⟨inside, tested, _⟩ := Exec.bind_ok test
  rw [held.length size, held.inWindow_range rfl ordered size Nat.one_ne_zero (by omega) fun _ => by omega]
    at tested
  rcases inRange_eq_ok_iff.mp tested with ⟨low, high, add, _⟩ | ⟨_, p, isBound, low, subtract, above⟩
  · refine ⟨?_, high, add⟩
    intro p isBound
    obtain ⟨low, subtract, _⟩ := low p isBound
    exact ⟨low, subtract, monotone.rangeSubtract_le (preceding_nonneg p isBound) subtract⟩
  · have below := monotone.rangeSubtract_le (preceding_nonneg p isBound) subtract
    exact absurd (le_trans below rise) (not_le.mpr above)

omit following in
/-- A new tuple in the deque, once it can be tested. -/
theorem Settled.pushed (settled : Settled operators streamingId argumentId stream preceding f n s.1)
    (later : 0 < n) (size : n < stream.length) {out : Bool}
    (test : Handle.newestOut (pushBack s stream[n]) = .ok out) :
    Spans operators streamingId stream preceding 0 0 ∧ ∃ d c,
      Sliding operators streamingId argumentId stream preceding f (n + 1) d c
        (pushBack s stream[n]).1 := by
  cases settled with
  | early first held =>
    obtain rfl : n = 1 := by omega
    have pushed : Held _ stream 2 0 0 none (pushBack s stream[1]).1 := held.push size (Nat.zero_le 1)
    obtain ⟨start, upper⟩ :=
      second_test ordered monotone preceding_nonneg pushed size test
    exact ⟨start, 0, 0, sliding_second pushed start upper⟩
  | sliding start state _ =>
    have kept := state.inside
    exact ⟨start, _, _, state.held.push size (by omega), state.spans, state.least, state.upper, by omega⟩

/-- The emission loop leaves the newest tuple in the window of the current one. -/
theorem Sliding.loop_result {d c : Nat} {e : Handle × List Emission}
    (start : Spans operators streamingId stream preceding 0 0)
    (state : Sliding operators streamingId argumentId stream preceding f (n + 1) d c s.1)
    (size : n < stream.length) (ends : Ends Handle.newestOut (Handle.emitRound argumentId) s e) :
    ∃ d c, Sliding operators streamingId argumentId stream preceding f (n + 1) d c e.1 ∧
      ¬ Behind operators streamingId stream (c + d) n (.range preceding f) := by
  have ended := ends.invariant
    (fun e => ∃ d c, Sliding operators streamingId argumentId stream preceding f (n + 1) d c e.1)
    ⟨d, c, state⟩ ?_
  · obtain ⟨⟨d, c, state⟩, exit⟩ := ended
    rw [state.newest ordered monotone following size] at exit
    exact ⟨d, c, state, of_decide_eq_false (Except.ok.inj exit)⟩
  · rintro e next _ round ⟨d, c, state⟩
    obtain ⟨d', state'⟩ := state.round ordered monotone following preceding_nonneg start size round
    exact ⟨d', c + 1, state'⟩

/-- The emission loop ends when the tuples keep up. Every round moves the current tuple index. -/
theorem Sliding.loop_ends (keepsUp : KeepsUp operators streamingId stream preceding f) {d c : Nat}
    (start : Spans operators streamingId stream preceding 0 0)
    (state : Sliding operators streamingId argumentId stream preceding f (n + 1) d c s.1)
    (size : n < stream.length) :
    ∃ e, Ends Handle.newestOut (Handle.emitRound argumentId) s e := by
  induction distance : n - c generalizing s d c with
  | zero =>
    have kept := state.inside
    have here : c + d = n := by omega
    have test := state.newest ordered monotone following size
    rw [here, decide_eq_false] at test
    · exact ⟨s, Ends.exit test⟩
    · intro behind
      exact absurd (behind.lt_range ordered monotone following size) (Nat.lt_irrefl n)
  | succ distance ih =>
    have kept := state.inside
    have test := state.newest ordered monotone following size
    by_cases behind : Behind operators streamingId stream (c + d) n (.range preceding f)
    · rw [decide_eq_true behind] at test
      obtain ⟨d', kept', spans, upper⟩ := keepsUp.next n c d size (by omega) state.spans behind
      have later : d ≤ d' := by
        by_contra earlier
        exact state.least d' (by omega) (Spans.shorter ordered monotone preceding_nonneg start spans
          (Nat.zero_le _) (Nat.le_succ c) (by omega))
      obtain ⟨row, output⟩ := state.held.getOutput (by omega) state.inside
      obtain ⟨moved, move, held⟩ := state.held.moveForward_tuple rfl
      obtain ⟨h, drop⟩ := dropLoop_ends ordered monotone following preceding_nonneg held (by omega) later
        (by omega) start spans upper
      have round := emitRound_of output move drop
      obtain ⟨d'', state'⟩ :=
        state.round ordered monotone following preceding_nonneg start (by omega) round
      obtain ⟨e, ends⟩ := ih state' (by omega)
      exact ⟨e, Ends.round test round ends⟩
    · rw [decide_eq_false behind] at test
      exact ⟨s, Ends.exit test⟩

/-- **One arrival** leads from a settled state to a settled state. -/
theorem Settled.arrives (settled : Settled operators streamingId argumentId stream preceding f n s.1)
    (size : n < stream.length) (arrives : Arrives argumentId s stream[n] s') :
    Settled operators streamingId argumentId stream preceding f (n + 1) s'.1 := by
  rcases Nat.eq_zero_or_pos n with rfl | later
  · cases settled with
    | early _ held =>
      obtain ⟨s'', first, settled⟩ : ∃ s'', Arrives argumentId s stream[0] s'' ∧ _ :=
        Settled.arrives_first held size
      obtain rfl := Received.unique (.cons first (.nil _)) (.cons arrives (.nil _))
      exact settled
  · obtain ⟨e, back, ends, _, rfl⟩ := arrives_iff.mp arrives
    obtain ⟨out, test⟩ : ∃ out, Handle.newestOut (pushBack s stream[n]) = .ok out := by
      rcases ends.cases_first with ⟨done, _⟩ | ⟨_, again, _⟩
      · exact ⟨false, done⟩
      · exact ⟨true, again⟩
    obtain ⟨start, d, c, pushed⟩ :=
      settled.pushed ordered monotone preceding_nonneg later size test
    obtain ⟨d, c, state, newest⟩ :=
      pushed.loop_result ordered monotone following preceding_nonneg start size ends
    exact .sliding start
      ⟨state.held.addBack argumentId back, state.spans, state.least, state.upper, state.inside⟩ newest

theorem Settled.exists_arrives (keepsUp : KeepsUp operators streamingId stream preceding f)
    (settled : Settled operators streamingId argumentId stream preceding f n s.1)
    (size : n < stream.length) : ∃ s', Arrives argumentId s stream[n] s' := by
  rcases Nat.eq_zero_or_pos n with rfl | later
  · cases settled with
    | early _ held =>
      obtain ⟨s', arrives, _⟩ := Settled.arrives_first held size
      exact ⟨s', arrives⟩
  · obtain ⟨start, upper⟩ := keepsUp.start (by omega)
    obtain ⟨d, c, pushed⟩ : ∃ d c, Sliding operators streamingId argumentId stream preceding f (n + 1) d c
        (pushBack s stream[n]).1 := by
      cases settled with
      | early first held =>
        obtain rfl : n = 1 := by omega
        exact ⟨0, 0, sliding_second (held.push size (Nat.zero_le 1)) start upper⟩
      | sliding _ state _ =>
        have kept := state.inside
        exact ⟨_, _, state.held.push size (by omega), state.spans, state.least, state.upper, by omega⟩
    obtain ⟨e, ends⟩ := pushed.loop_ends ordered monotone following preceding_nonneg keepsUp start size
    obtain ⟨d, c, state, _⟩ :=
      pushed.loop_result ordered monotone following preceding_nonneg start size ends
    have kept := state.inside
    exact ⟨_, arrives_iff.mpr ⟨e, _, ends, state.held.getLast? (by omega) (by omega), rfl⟩⟩

/-! ## Runs -/

omit ordered monotone following preceding_nonneg in
theorem settled_create :
    Settled operators streamingId argumentId stream preceding f 0
      (rangeHandle operators streamingId argumentId none preceding f) :=
  .early (Nat.zero_le 1) (held_create streamingId _ _ _ _ _ stream)

theorem settled_of_received (size : n ≤ stream.length)
    (received : Received argumentId (rangeHandle operators streamingId argumentId none preceding f, [])
      (stream.take n) s) :
    Settled operators streamingId argumentId stream preceding f n s.1 :=
  received.invariant_take
    (fun n s => Settled operators streamingId argumentId stream preceding f n s.1) settled_create
    (fun _ _ _ size settled arrives =>
      settled.arrives ordered monotone following preceding_nonneg size arrives) size

theorem exists_received_range (keepsUp : KeepsUp operators streamingId stream preceding f) :
    ∃ s, Received argumentId (rangeHandle operators streamingId argumentId none preceding f, [])
      stream s := by
  have whole : ∃ s : Handle × List Emission,
      Received argumentId (rangeHandle operators streamingId argumentId none preceding f, [])
        (stream.take stream.length) s ∧
      Settled operators streamingId argumentId stream preceding f stream.length s.1 := by
    refine Folds.exists_take (fun n (s : Handle × List Emission) =>
        Settled operators streamingId argumentId stream preceding f n s.1)
      settled_create ?_ (Nat.le_refl stream.length)
    intro n s size settled
    obtain ⟨s', arrives⟩ :=
      settled.exists_arrives ordered monotone following preceding_nonneg keepsUp size
    exact ⟨s', arrives, settled.arrives ordered monotone following preceding_nonneg size arrives⟩
  rw [List.take_length] at whole
  obtain ⟨s, received, _⟩ := whole
  exact ⟨s, received⟩

/-- A run that gets over tuple `j` has left every window that `j` is behind. -/
theorem keepsUp_of_received
    (received : Received argumentId (rangeHandle operators streamingId argumentId none preceding f, [])
      stream s) :
    KeepsUp operators streamingId stream preceding f := by
  have settled (j : Nat) (later : 0 < j) (size : j < stream.length) :
      Spans operators streamingId stream preceding 0 0 ∧ ∃ d c h,
        Sliding operators streamingId argumentId stream preceding f (j + 1) d c h ∧
          ¬ Behind operators streamingId stream (c + d) j (.range preceding f) := by
    rw [← List.take_append_drop (j + 1) stream] at received
    obtain ⟨mid, before, _⟩ := Folds.append_iff.mp received
    cases settled_of_received ordered monotone following preceding_nonneg size before with
    | early first _ => omega
    | sliding start state newest => exact ⟨start, _, _, _, state, newest⟩
  constructor
  · intro two
    obtain ⟨start, d, c, h, state, _⟩ := settled 1 Nat.one_pos two
    have kept := state.inside
    exact ⟨start, state.upper.earlier ordered monotone following (Nat.zero_le _) (by omega)⟩
  · intro j index first size le spans behind
    have later : index + first < j := behind.lt_range ordered monotone following (by omega)
    obtain ⟨start, d, c, h, state, newest⟩ := settled j (by omega) size
    have kept := state.inside
    have further : index + 1 ≤ c := by
      by_contra early
      have reaches := Spans.shorter ordered monotone preceding_nonneg start spans (Nat.zero_le _)
        (Nat.le_of_lt_succ (Nat.lt_of_not_le early)) (by omega)
      have first_le : d ≤ first := by
        by_contra before
        exact state.least first (by omega) reaches
      exact newest (behind.earlier_range ordered monotone following (by omega) (by omega))
    exact ⟨d, by omega,
      Spans.shorter ordered monotone preceding_nonneg start state.spans (Nat.zero_le _) further
        (by omega),
      state.upper.earlier ordered monotone following (by omega) (by omega)⟩

/-- **Sliding RANGE frames**: the calls return exactly when the tuples keep up with the rows. -/
theorem received_range_iff :
    (∃ s, Received argumentId (rangeHandle operators streamingId argumentId none preceding f, [])
      stream s) ↔ KeepsUp operators streamingId stream preceding f := by
  constructor
  · rintro ⟨s, received⟩
    exact keepsUp_of_received ordered monotone following preceding_nonneg received
  · intro keepsUp
    exact exists_received_range ordered monotone following preceding_nonneg keepsUp

end Arrival

end Quickstep.Expressions.WindowAggregation
