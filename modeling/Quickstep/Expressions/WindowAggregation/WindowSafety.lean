import Quickstep.Expressions.WindowAggregation.Termination

/-!
# What a returning call leaves in the deque

In window aggregation the newest tuple stands at the back of the deque while it is not counted yet. A
drop loop that takes it away has emptied the deque and does not return, so between two arrivals the
accumulators of every returning call are those of the tuples in the deque.
-/

namespace Quickstep.Expressions.WindowAggregation
open Quickstep.Lib

/-- Taking the argument of the first of some consecutive tuples off their sum leaves the sum of the
others: nothing overflows, and nothing is lost by rounding. -/
def SumsSubtract (operators : Operators) (argumentId : Nat) (stream : List Tuple) : Prop :=
  ∀ front ts, front :: ts <:+: stream → ∀ value, getNumber front argumentId = some value →
    operators.fastSubtract (operators.sumOf argumentId (front :: ts)) value =
      operators.sumOf argumentId ts

theorem SumsSubtract.part {operators : Operators} {argumentId : Nat} {stream part : List Tuple}
    (subtracts : SumsSubtract operators argumentId stream) (isPart : part <:+: stream) :
    SumsSubtract operators argumentId part :=
  fun front ts consecutive => subtracts front ts (consecutive.trans isPart)

theorem exact_sumsSubtract (argumentId : Nat) (stream : List Tuple) :
    SumsSubtract .exact argumentId stream := by
  intro front ts _ value number
  rw [exact_sumOf, exact_sumOf, arguments, List.filterMap_cons, number, List.sum_cons]
  exact add_sub_cancel_left value _

/-- Only RANGE frames with a preceding bound take tuples away and return. -/
def SumsKept (operators : Operators) (argumentId : Nat) (stream : List Tuple) : Frame → Prop
  | .range (some _) _ => SumsSubtract operators argumentId stream
  | .range none _ | .rows _ _ => True

theorem SumsKept.part {operators : Operators} {argumentId : Nat} {stream part : List Tuple}
    {frame : Frame} (kept : SumsKept operators argumentId stream frame) (isPart : part <:+: stream) :
    SumsKept operators argumentId part frame := by
  cases frame with
  | rows _ _ => trivial
  | range preceding _ =>
    cases preceding with
    | none => trivial
    | some _ => exact SumsSubtract.part kept isPart

theorem Ordered.part {streamingId : Nat} {stream part : List Tuple} {frame : Frame}
    (ordered : Ordered streamingId stream frame) (isPart : part <:+: stream) :
    Ordered streamingId part frame := by
  cases frame with
  | rows _ _ => trivial
  | range _ _ =>
    exact ⟨fun t isTuple => ordered.nonNull t (isPart.subset isTuple),
      ordered.ordered.sublist isPart.sublist⟩

/-! ## Loops that take nothing away -/

section Kept

variable {argumentId : Nat} {h h' : Handle}

/-- A drop changes the accumulators, and no other field that the test of the front reads. -/
theorem dropFront_ok (drop : Handle.dropFront argumentId h = .ok h') :
    ∃ front, h.window = front :: h'.window ∧ SameHandle h h' ∧
      h'.currentTupleIndex = h.currentTupleIndex ∧ h'.currentValue = h.currentValue := by
  have same := SameHandle.dropFront drop
  unfold Handle.dropFront at drop
  split at drop
  · cases drop
  · next front rest window =>
    obtain rfl := Except.ok.inj drop
    refine ⟨front, window, same, ?_, ?_⟩
    · show (h.subtractFront argumentId front).currentTupleIndex = _
      unfold Handle.subtractFront
      split <;> rfl
    · show (h.subtractFront argumentId front).currentValue = _
      unfold Handle.subtractFront
      split <;> rfl

theorem dropLoop_rows_kept {preceding : Option Int} {following : Int}
    (frame : h.frame = .rows preceding following) (index : h.currentTupleIndex ≠ 0)
    (loop : h.dropLoop argumentId = .ok h') : h' = h := by
  have ends : Ends (fun h => do pure !(← h.inWindow 0)) (Handle.dropFront argumentId) h h' := ⟨_, loop⟩
  rcases ends.cases_first with ⟨_, same⟩ | ⟨_, again, _⟩
  · exact same
  · rw [inWindow_rows frame, decide_eq_false (Ne.symm index), Bool.false_or] at again
    have out : Handle.inRows preceding following h.currentTupleIndex 0 = false := by
      simpa using Except.ok.inj again
    exact absurd loop (dropLoop_rows_fails frame index out)

theorem inWindow_empty_range {preceding : Option ℚ} {following : ℚ} (window : h.window = [])
    (index : h.currentTupleIndex ≠ 0) (frame : h.frame = .range preceding following) :
    h.inWindow 0 = .error .undefinedBehaviour := by
  have empty (k : Nat) : h.tupleAt k = .error .undefinedBehaviour := by
    unfold Handle.tupleAt
    rw [window]
    rfl
  unfold Handle.inWindow
  rw [if_neg (Ne.symm index), frame]
  cases value : h.currentValue with
  | none =>
    simp only [empty]
    rfl
  | some value =>
    simp only [empty]
    rfl

/-- The test of the front in RANGE mode. -/
theorem inWindow_front {preceding : Option ℚ} {following : ℚ} {front : Tuple} {rest : List Tuple}
    (frame : h.frame = .range preceding following) (index : h.currentTupleIndex ≠ 0)
    (window : h.window = front :: rest) :
    h.inWindow 0 = (do
      let current ← match h.currentValue with
        | some value => pure (some value)
        | none => do
          let current ← h.tupleAt h.currentTupleIndex
          pure (getNumber current h.streamingAttributeId)
      Handle.inRange h.operators preceding following current (getNumber front h.streamingAttributeId)) := by
  have first : h.tupleAt 0 = .ok front := by
    unfold Handle.tupleAt
    rw [window]
    rfl
  unfold Handle.inWindow
  rw [if_neg (Ne.symm index), frame]
  cases h.currentValue <;> simp only [first, Exec.ok_bind]

/-- With a start value, fronts behind its upper bound are followed by fronts behind it, and then by
none. -/
theorem not_ends_of_behind {preceding : Option ℚ} {following start high : ℚ}
    (frame : h.frame = .range preceding following) (value : h.currentValue = some start)
    (add : h.operators.rangeAdd start following = .ok high) (index : h.currentTupleIndex ≠ 0)
    (behind : ∀ t ∈ h.window, ∃ v, getNumber t h.streamingAttributeId = some v ∧ high < v) :
    ¬ Ends (fun h => do pure !(← h.inWindow 0)) (Handle.dropFront argumentId) h h' := by
  refine not_ends_of_forever (fun s => SameHandle h s ∧ s.window <:+ h.window ∧
    s.currentTupleIndex = h.currentTupleIndex ∧ s.currentValue = some start)
    ⟨SameHandle.refl h, List.suffix_rfl, rfl, value⟩ ?_ ?_
  · rintro s next drop ⟨same, part, sameIndex, sameValue⟩
    obtain ⟨front, window, same', index', value'⟩ := dropFront_ok drop
    refine ⟨same.trans same', ?_, index'.trans sameIndex, value'.trans sameValue⟩
    exact (window ▸ List.suffix_cons front next.window).trans part
  · rintro s ⟨same, part, sameIndex, sameValue⟩ done
    have test := Exec.of_not_ok done
    cases window : s.window with
    | nil =>
      rw [inWindow_empty_range window (sameIndex.trans_ne index) (same.frame.trans frame)] at test
      cases test
    | cons t rest =>
      obtain ⟨v, number, above⟩ := behind t (part.subset (window ▸ List.mem_cons_self))
      rw [inWindow_front (same.frame.trans frame) (sameIndex.trans_ne index) window, sameValue,
        same.operators, same.streamingAttributeId, number] at test
      simp only [pure_bind] at test
      obtain ⟨_, high', add', le⟩ := inRange_iff.mp test
      obtain rfl := Except.ok.inj (add.symm.trans add')
      exact absurd le (not_le.mpr above)

/-- Without a preceding bound, only a front behind the upper bound is out: not that of the current
tuple, as the front comes first, and that of a start value only where the loop does not end. -/
theorem dropLoop_range_kept {following : ℚ} (frame : h.frame = .range none following)
    (monotone : h.operators.Monotone) (nonneg : 0 ≤ following)
    (ordered : NonDecreasing h.streamingAttributeId h.window) (index : h.currentTupleIndex ≠ 0)
    (loop : h.dropLoop argumentId = .ok h') : h' = h := by
  have ends : Ends (fun h => do pure !(← h.inWindow 0)) (Handle.dropFront argumentId) h h' := ⟨_, loop⟩
  rcases ends.cases_first with ⟨_, same⟩ | ⟨next, again, drop, _⟩
  · exact same
  exfalso
  have out := Exec.of_not_ok again
  obtain ⟨front, window, _⟩ := dropFront_ok drop
  have first (t : Tuple) (isTuple : t ∈ h.window) :
      streamingValue h.streamingAttributeId front ≤ streamingValue h.streamingAttributeId t := by
    have ordered := ordered.ordered
    rw [window] at ordered isTuple
    rcases List.mem_cons.mp isTuple with rfl | isRest
    · exact le_refl _
    · exact (List.pairwise_cons.mp ordered).1 t isRest
  rw [inWindow_front frame index window, ordered.nonNull front (window ▸ List.mem_cons_self)] at out
  cases value : h.currentValue with
  | none =>
    rw [value] at out
    obtain ⟨current, found, test⟩ := Exec.bind_ok out
    have isTuple : current ∈ h.window := by
      unfold Handle.tupleAt at found
      split at found
      · next t isTuple => exact Except.ok.inj found ▸ List.mem_of_getElem? isTuple
      · cases found
    rw [ordered.nonNull current isTuple, pure_bind] at test
    obtain ⟨_, high, add, behind⟩ | ⟨_, _, isBound, _⟩ := inRange_eq_ok_iff.mp test
    · exact of_decide_eq_false behind
        (le_trans (first current isTuple) (monotone.le_rangeAdd nonneg add))
    · cases isBound
  | some start =>
    rw [value] at out
    simp only [pure_bind] at out
    obtain ⟨_, high, add, behind⟩ | ⟨_, _, isBound, _⟩ := inRange_eq_ok_iff.mp out
    · refine not_ends_of_behind frame value add index ?_ ends
      intro t isTuple
      exact ⟨_, ordered.nonNull t isTuple,
        lt_of_lt_of_le (not_le.mp (of_decide_eq_false behind)) (first t isTuple)⟩
    · cases isBound

end Kept

/-! ## Loops that take tuples away -/

/-- A stream that the accumulators of the handle `start` can follow. -/
structure Suited (start : Handle) (argumentId : Nat) (stream : List Tuple) : Prop where
  monotone : start.operators.Monotone
  nonneg : start.frame.Nonneg
  ordered : Ordered start.streamingAttributeId stream start.frame
  kept : SumsKept start.operators argumentId stream start.frame

theorem Suited.part {start : Handle} {argumentId : Nat} {stream part : List Tuple}
    (suited : Suited start argumentId stream) (isPart : part <:+: stream) :
    Suited start argumentId part :=
  ⟨suited.monotone, suited.nonneg, suited.ordered.part isPart, suited.kept.part isPart⟩

/-- The newest tuple `t` is not counted yet; the other tuples in the deque are. -/
structure Pending (start : Handle) (argumentId : Nat) (ts : List Tuple) (t : Tuple) (h : Handle) :
    Prop where
  handle : SameHandle start h
  window : h.window = ts ++ [t]
  sum : h.sum = start.operators.sumOf argumentId ts
  count : h.count = (arguments argumentId ts).length

section Drops

variable {start : Handle} {argumentId : Nat} {ts : List Tuple} {t : Tuple} {h h' : Handle}

/-- A counted tuple leaves the deque together with its argument; `count_` is positive then. -/
theorem Pending.dropFront {front : Tuple} (pending : Pending start argumentId (front :: ts) t h)
    (subtracts : SumsSubtract start.operators argumentId (front :: ts))
    (drop : Handle.dropFront argumentId h = .ok h') :
    Pending start argumentId ts t h' ∧ h'.currentTupleIndex = h.currentTupleIndex := by
  obtain ⟨_, _, same, index, _⟩ := dropFront_ok drop
  unfold Handle.dropFront at drop
  rw [pending.window] at drop
  cases drop
  refine ⟨⟨pending.handle.trans same, rfl, ?_, ?_⟩, index⟩
  · show (h.subtractFront argumentId front).sum = _
    have sum := pending.sum
    unfold Handle.subtractFront
    cases value : getNumber front argumentId with
    | none =>
      unfold Operators.sumOf arguments at sum
      rw [List.filterMap_cons, value] at sum
      exact sum
    | some x =>
      show h.operators.fastSubtract h.sum x = _
      rw [pending.handle.operators, sum, subtracts front ts List.infix_rfl x value]
  · show (h.subtractFront argumentId front).count = _
    have count := pending.count
    unfold arguments at count
    unfold Handle.subtractFront
    cases value : getNumber front argumentId with
    | none =>
      rw [List.filterMap_cons, value] at count
      exact count
    | some x =>
      rw [List.filterMap_cons, value, List.length_cons] at count
      show (if h.count = 0 then 2 ^ 64 - 1 else h.count - 1) = _
      rw [if_neg (by omega), count]
      rfl

/-- Behind the last tuple the front of the deque is not found in the window. -/
theorem inWindow_emptied (window : h.window = [t]) (index : h.currentTupleIndex ≠ 0)
    (out : h.inWindow 0 = .ok false) (drop : Handle.dropFront argumentId h = .ok h') :
    h'.window = [] ∧ h'.inWindow 0 ≠ .ok true := by
  obtain ⟨_, shorter, same, index', _⟩ := dropFront_ok drop
  obtain ⟨-, empty⟩ := List.cons.inj (window.symm.trans shorter)
  refine ⟨empty.symm, ?_⟩
  intro inside
  cases frame : h.frame with
  | rows preceding following =>
    unfold Handle.inWindow at out inside
    rw [if_neg (Ne.symm index), frame] at out
    rw [index', if_neg (Ne.symm index), same.frame, frame] at inside
    cases out.symm.trans inside
  | range preceding following =>
    rw [inWindow_empty_range empty.symm (index'.trans_ne index) (same.frame.trans frame)] at inside
    cases inside

/-- Where sums can be subtracted from, the drop loop of a returning call takes counted tuples only. -/
theorem Pending.dropLoop_subtracts (pending : Pending start argumentId ts t h)
    (subtracts : SumsSubtract start.operators argumentId ts) (index : h.currentTupleIndex ≠ 0)
    (loop : h.dropLoop argumentId = .ok h') :
    ∃ d, d ≤ ts.length ∧ Pending start argumentId (ts.drop d) t h' := by
  have ends : Ends (fun h => do pure !(← h.inWindow 0)) (Handle.dropFront argumentId) h h' := ⟨_, loop⟩
  have ended := ends.invariant
    (fun h => (h.currentTupleIndex ≠ 0 ∧
        ∃ d, d ≤ ts.length ∧ Pending start argumentId (ts.drop d) t h) ∨
      h.window = [] ∧ h.inWindow 0 ≠ .ok true)
    (.inl ⟨index, 0, Nat.zero_le _, pending⟩) ?_
  · obtain ⟨⟨_, left⟩ | ⟨_, outside⟩, exit⟩ := ended
    · exact left
    · exact absurd (Exec.of_not_ok exit) outside
  · rintro s next again drop (⟨index, d, le, pending⟩ | ⟨window, _⟩)
    · have test := Exec.of_not_ok again
      rcases Nat.lt_or_eq_of_le le with more | rfl
      · have left := subtracts.part (List.drop_suffix d ts).isInfix
        rw [List.drop_eq_getElem_cons more] at pending left
        obtain ⟨pending', index'⟩ := pending.dropFront left drop
        exact .inl ⟨index'.trans_ne index, d + 1, more, pending'⟩
      · have window := pending.window
        rw [List.drop_length] at window
        exact .inr (inWindow_emptied window index test drop)
    · obtain ⟨_, shorter, _⟩ := dropFront_ok drop
      cases window.symm.trans shorter

/-- **The drop loop** of a returning call takes counted tuples only. -/
theorem Pending.dropLoop (pending : Pending start argumentId ts t h)
    (suited : Suited start argumentId (ts ++ [t])) (index : h.currentTupleIndex ≠ 0)
    (loop : h.dropLoop argumentId = .ok h') :
    ∃ d, d ≤ ts.length ∧ Pending start argumentId (ts.drop d) t h' := by
  have nothing (same : h' = h) : ∃ d, d ≤ ts.length ∧ Pending start argumentId (ts.drop d) t h' :=
    ⟨0, Nat.zero_le _, same ▸ pending⟩
  obtain ⟨monotone, nonneg, ordered, kept⟩ := suited
  cases frame : start.frame with
  | rows preceding following =>
    exact nothing (dropLoop_rows_kept (pending.handle.frame.trans frame) index loop)
  | range preceding following =>
    rw [frame] at nonneg ordered kept
    cases preceding with
    | none =>
      refine nothing (dropLoop_range_kept (pending.handle.frame.trans frame) ?_ nonneg.2 ?_ index loop)
      · rwa [pending.handle.operators]
      · rw [pending.handle.streamingAttributeId, pending.window]
        exact ordered
    | some p => exact pending.dropLoop_subtracts (SumsSubtract.part kept
        (List.prefix_append ts [t]).isInfix) index loop

end Drops

section Arrivals

variable {start : Handle} {argumentId : Nat} {ts : List Tuple} {t : Tuple}
  {s s' : Handle × List Emission}

/-- Rounds of the emission loop keep the newest tuple in the deque. -/
theorem Pending.loop (pending : Pending start argumentId ts t s.1)
    (suited : Suited start argumentId (ts ++ [t])) (emit : start.emitDuration = none)
    (ends : Ends Handle.newestOut (Handle.emitRound argumentId) s s') :
    ∃ d, d ≤ ts.length ∧ Pending start argumentId (ts.drop d) t s'.1 := by
  have ended := ends.invariant (fun (e : Handle × List Emission) =>
    ∃ d, d ≤ ts.length ∧ Pending start argumentId (ts.drop d) t e.1) ⟨0, Nat.zero_le _, pending⟩ ?_
  · exact ended.1
  · rintro e next _ round ⟨d, le, pending⟩
    obtain ⟨_, moved, _, move, loop, _⟩ := emitRound_ok round
    obtain rfl :=
      Except.ok.inj ((moveForward_tuple (pending.handle.emitDuration.trans emit)).symm.trans move)
    have still : Pending start argumentId (ts.drop d) t
        { e.1 with currentTupleIndex := e.1.currentTupleIndex + 1 } :=
      ⟨pending.handle.trans ⟨rfl, rfl, rfl, rfl, rfl⟩, pending.window, pending.sum, pending.count⟩
    have rest : ts.drop d ++ [t] <:+: ts ++ [t] := by
      rw [← List.drop_append_of_le_length le]
      exact (List.drop_suffix d _).isInfix
    obtain ⟨d', le', pending'⟩ := still.dropLoop (suited.part rest) (Nat.succ_ne_zero _) loop
    rw [List.length_drop] at le'
    rw [List.drop_drop] at pending'
    exact ⟨d + d', by omega, pending'⟩

/-- **One arrival** drops counted tuples only, and counts the new one. -/
theorem arrives_safe (handle : SameHandle start s.1) (emit : start.emitDuration = none)
    (suited : Suited start argumentId (s.1.window ++ [t])) (intact : Intact argumentId s.1 s.1.window)
    (arrives : Arrives argumentId s t s') :
    Intact argumentId s'.1 s'.1.window ∧
      ∃ d, d ≤ s.1.window.length ∧ s'.1.window = (s.1.window ++ [t]).drop d := by
  obtain ⟨e, back, ends, last, rfl⟩ := arrives_iff.mp arrives
  have pushed : Pending start argumentId s.1.window t (pushBack s t).1 := by
    refine ⟨handle.trans ⟨rfl, rfl, rfl, rfl, rfl⟩, rfl, ?_, intact.count⟩
    rw [← handle.operators]
    exact intact.sum
  obtain ⟨d, le, pending⟩ := pushed.loop suited emit ends
  rw [pending.window, List.getLast?_concat] at last
  obtain rfl := Option.some.inj last
  obtain ⟨sum, count⟩ := addBack_accumulators e.1 argumentId t
    (by rw [pending.handle.operators, pending.sum]) pending.count
  rw [← pending.window] at sum count
  refine ⟨⟨rfl, ?_, ?_⟩, d, le, ?_⟩
  · rw [sum, addBack_window, addBack_operators]
  · rw [count, addBack_window]
  · rw [addBack_window, pending.window, List.drop_append_of_le_length le]

/-- Between two arrivals of a returning run, the accumulators are those of the deque, which holds the
last of the tuples received. -/
structure Counted (start : Handle) (argumentId : Nat) (received : List Tuple) (h : Handle) : Prop where
  handle : SameHandle start h
  window : h.window <:+ received
  intact : Intact argumentId h h.window

theorem Counted.arrives {received : List Tuple} (counted : Counted start argumentId received s.1)
    (emit : start.emitDuration = none) (suited : Suited start argumentId (received ++ [t]))
    (arrives : Arrives argumentId s t s') :
    Counted start argumentId (received ++ [t]) s'.1 ∧
      ∃ d, d ≤ s.1.window.length ∧ s'.1.window = (s.1.window ++ [t]).drop d := by
  have part : s.1.window ++ [t] <:+ received ++ [t] := by
    obtain ⟨dropped, whole⟩ := counted.window
    rw [← whole, List.append_assoc]
    exact List.suffix_append _ _
  obtain ⟨intact, d, le, window⟩ :=
    arrives_safe counted.handle emit (suited.part part.isInfix) counted.intact arrives
  refine ⟨⟨counted.handle.trans (SameHandle.arrives arrives), ?_, intact⟩, d, le, window⟩
  rw [window]
  exact (List.drop_suffix d _).trans part

theorem counted_of_received {stream : List Tuple} (emit : start.emitDuration = none)
    (empty : start.window = []) (intact : Intact argumentId start start.window)
    (suited : Suited start argumentId stream) {n : Nat} (size : n ≤ stream.length)
    (received : Received argumentId (start, []) (stream.take n) s) :
    Counted start argumentId (stream.take n) s.1 := by
  refine received.invariant_take (fun n s => Counted start argumentId (stream.take n) s.1)
    ⟨SameHandle.refl start, by rw [empty]; exact List.nil_suffix, intact⟩ ?_ size
  intro n s s' size counted arrives
  have next : stream.take n ++ [stream[n]] = stream.take (n + 1) :=
    (List.take_succ_eq_append_getElem size).symm
  have after := counted.arrives emit (by
    rw [next]
    exact suited.part (List.take_prefix (n + 1) stream).isInfix) arrives
  rw [next] at after
  exact after.1

end Arrivals

/-- The window state is safe: the calls return, which they do not once a tuple outside of the deque
is accessed. Between two arrivals the accumulators are those of the tuples in the deque, and an
arrival only takes tuples away that were there before. -/
structure WindowSafe (start : Handle) (batches : List (List Tuple)) : Prop where
  returns : ∃ h emissions, start.Returns batches h emissions
  counted : ∀ argumentId n s, start.argument = .ofAttribute argumentId → n ≤ batches.flatten.length →
    Received argumentId (start, []) (batches.flatten.take n) s → Intact argumentId s.1 s.1.window
  drops : ∀ argumentId n s s', start.argument = .ofAttribute argumentId →
    (size : n < batches.flatten.length) → Received argumentId (start, []) (batches.flatten.take n) s →
    Arrives argumentId s batches.flatten[n] s' →
    ∃ d, d ≤ s.1.window.length ∧ s'.1.window = (s.1.window ++ [batches.flatten[n]]).drop d

end Quickstep.Expressions.WindowAggregation
