import Quickstep.Lib.Monitor

/-!
# The thread-safe queue

`ThreadSafeQueue` of `utility/ThreadSafeQueue.hpp`: producers and consumers call its methods under one
mutex, and `popOne` waits on a condition variable while the queue is empty. What the calls return is what
a queue returns to one thread that makes them one after the other.
-/

namespace Quickstep.Utility
open Quickstep.Lib

/-! ## Calls one after the other -/

/-- A call with what it returned. A push is that of a list of elements. -/
inductive QueueCall (T : Type) where
  | empty (answer : Bool)
  | size (answer : Nat)
  | push (elements : List T)
  | pop (value : T)
  | popUnavailable

/-- What a queue returns, and how it changes. -/
inductive QueueCall.Returns {T : Type} : List T → QueueCall T → List T → Prop where
  | empty (queue : List T) : Returns queue (.empty queue.isEmpty) queue
  | size (queue : List T) : Returns queue (.size queue.length) queue
  | push (queue elements : List T) : Returns queue (.push elements) (queue ++ elements)
  | pop (value : T) (queue : List T) : Returns (value :: queue) (.pop value) queue
  | popUnavailable : Returns [] .popUnavailable []

namespace QueueCall

variable {T : Type}

def pushed : QueueCall T → List T
  | push elements => elements
  | empty _ | size _ | pop _ | popUnavailable => []

def popped : QueueCall T → List T
  | pop value => [value]
  | empty _ | size _ | push _ | popUnavailable => []

/-- **First in, first out**: nothing is lost, nothing comes twice, and what was pushed first is popped
first. -/
theorem fifo {history : List (QueueCall T)} {queue : List T}
    (explains : Explains Returns [] history queue) :
    history.flatMap popped ++ queue = history.flatMap pushed := by
  refine explains.invariant (fun history queue =>
    history.flatMap popped ++ queue = history.flatMap pushed) rfl ?_
  intro history before next after returned inOrder
  rw [List.flatMap_append, List.flatMap_append, ← inOrder]
  cases returned <;> simp [pushed, popped]

end QueueCall

/-! ## The methods -/

/-- What a thread may call. -/
inductive QueueRequest (T : Type) where
  | empty
  | size
  | push (element : T)
  | pushMultiple (elements : List T)
  | popOne
  | popOneIfAvailable

/-- Where a thread stands between two critical sections. -/
inductive QueuePoint where
  | outside
  /-- In the loop of `popOne()`. -/
  | await (initiallyEmpty : Bool)
  deriving DecidableEq

/-- The members, and the calls in the order in which they took effect; the program does not look at
these. -/
structure QueueState (T : Type) where
  internalQueue : List T
  numWaiters : BitVec 64
  history : List (QueueCall T)

namespace ThreadSafeQueue

variable {T : Type}

/-- The loop of `pushMultiple()` on `elements` and `internal_queue_`. -/
def moveAll : List T → List T → List T
  | [], internalQueue => internalQueue
  | front :: elements, internalQueue => moveAll elements (internalQueue ++ [front])

theorem moveAll_eq (elements internalQueue : List T) :
    moveAll elements internalQueue = internalQueue ++ elements := by
  induction elements generalizing internalQueue with
  | nil => rw [moveAll, List.append_nil]
  | cons front elements ih => rw [moveAll, ih, List.append_assoc, List.singleton_append]

/-- What a critical section leaves: where the thread goes on, the members, and the signal. -/
abbrev Result (T : Type) := QueuePoint × QueueState T × Signal Unit

/-- `popOne()`, from the test of its loop on. -/
def popOneLoop (initiallyEmpty : Bool) (state : QueueState T) : Result T :=
  match state.internalQueue with
  | [] => (.await initiallyEmpty, state, .none)
  | front :: internalQueue =>
    (.outside,
      { internalQueue
        numWaiters := state.numWaiters - BitVec.ofNat 64 initiallyEmpty.toNat
        history := state.history ++ [.pop front] }, .none)

def popOne (state : QueueState T) : Result T :=
  popOneLoop state.internalQueue.isEmpty
    { state with numWaiters := state.numWaiters + BitVec.ofNat 64 state.internalQueue.isEmpty.toNat }

def popOneIfAvailable (state : QueueState T) : Result T :=
  match state.internalQueue with
  | [] => (.outside, { state with history := state.history ++ [.popUnavailable] }, .none)
  | front :: internalQueue =>
    (.outside, { state with internalQueue, history := state.history ++ [.pop front] }, .none)

def push (element : T) (state : QueueState T) : Result T :=
  (.outside,
    { state with
      internalQueue := state.internalQueue ++ [element]
      history := state.history ++ [.push [element]] }, .all ())

def pushMultiple (elements : List T) (state : QueueState T) : Result T :=
  (.outside,
    { state with
      internalQueue := moveAll elements state.internalQueue
      history := state.history ++ [.push elements] }, .all ())

def empty (state : QueueState T) : Result T :=
  (.outside, { state with history := state.history ++ [.empty state.internalQueue.isEmpty] }, .none)

def size (state : QueueState T) : Result T :=
  (.outside, { state with history := state.history ++ [.size state.internalQueue.length] }, .none)

/-- The next critical section of a thread. In the loop of `popOne()` it tests the queue again. -/
def critical (request : QueueRequest T) : QueuePoint → QueueState T → Result T
  | .await initiallyEmpty, state => popOneLoop initiallyEmpty state
  | .outside, state =>
    match request with
    | .empty => empty state
    | .size => size state
    | .push element => push element state
    | .pushMultiple elements => pushMultiple elements state
    | .popOne => popOne state
    | .popOneIfAvailable => popOneIfAvailable state

/-- `queue_nonempty_condition_`. -/
def waitsOn : QueuePoint → Option Unit
  | .outside => none
  | .await _ => some ()

/-- The queue as a monitor. -/
def monitor (T : Type) : Monitor (QueueRequest T) (QueueState T) Unit QueuePoint := ⟨critical, waitsOn⟩

def isWaiting : QueuePoint → Bool
  | .outside => false
  | .await _ => true

end ThreadSafeQueue

/-- The queue with `n` threads. -/
abbrev ThreadSafeQueue (T : Type) (n : Nat) := Threads (Fin n) (QueueState T) (Place QueuePoint)

namespace ThreadSafeQueue

open Threads

variable {T : Type} {n : Nat}

/-- The constructor: the queue is empty, and no thread is in a call. -/
def create (T : Type) (n : Nat) : ThreadSafeQueue T n := ⟨⟨[], 0, []⟩, fun _ => ⟨.outside, false⟩⟩

/-! ## One critical section -/

/-- The history explains the queue, and the waiters are the threads in the loop of `popOne()`, which were
counted when they found the queue empty. -/
structure Counted (s : Threads (Fin n) (QueueState T) QueuePoint) : Prop where
  explains : Explains QueueCall.Returns [] s.shared.history s.shared.internalQueue
  waiters : s.shared.numWaiters = BitVec.ofNat 64 (count isWaiting s.points)
  initiallyEmpty : ∀ i b, s.points i = .await b → b = true

section Sections

variable {s : Threads (Fin n) (QueueState T) QueuePoint} {i : Fin n} {point : QueuePoint}
  {state : QueueState T}

/-- One thread moves on. -/
theorem Counted.update (h : Counted s)
    (explains : Explains QueueCall.Returns [] state.history state.internalQueue)
    (change : state.numWaiters + BitVec.ofNat 64 (isWaiting (s.points i)).toNat =
      s.shared.numWaiters + BitVec.ofNat 64 (isWaiting point).toNat)
    (initiallyEmpty : ∀ b, point = .await b → b = true) :
    Counted ⟨state, Function.update s.points i point⟩ := by
  refine ⟨explains, ?_, fun j b here => ?_⟩
  · have counts := count_update isWaiting s.points i point
    have sum := congrArg (BitVec.ofNat 64) counts
    rw [BitVec.ofNat_add, BitVec.ofNat_add, ← h.waiters, ← change] at sum
    exact ((BitVec.add_left_inj _).mp sum).symm
  · by_cases same : j = i
    · subst same
      exact initiallyEmpty b ((Function.update_self j point s.points).symm.trans here)
    · exact h.initiallyEmpty j b ((Function.update_of_ne same point s.points).symm.trans here)

/-- A call that returns at once, and does not wait. -/
theorem Counted.update_outside (h : Counted s) (here : s.points i = .outside)
    (waiters : state.numWaiters = s.shared.numWaiters) {call : QueueCall T}
    (recorded : state.history = s.shared.history ++ [call])
    (returned : call.Returns s.shared.internalQueue state.internalQueue) :
    Counted ⟨state, Function.update s.points i .outside⟩ := by
  apply h.update
  · rw [recorded]
    exact h.explains.snoc returned
  · rw [here, waiters]
  · exact fun b => nofun

/-- The loop of `popOne()`, of a thread that is counted if it found the queue empty. -/
theorem Counted.popOneLoop {b : Bool} (h : Counted s)
    (queue : state.internalQueue = s.shared.internalQueue)
    (history : state.history = s.shared.history)
    (waiters : state.numWaiters + BitVec.ofNat 64 (isWaiting (s.points i)).toNat =
      s.shared.numWaiters + BitVec.ofNat 64 b.toNat)
    (initiallyEmpty : state.internalQueue = [] → b = true) :
    Counted ⟨(ThreadSafeQueue.popOneLoop b state).2.1,
      Function.update s.points i (ThreadSafeQueue.popOneLoop b state).1⟩ := by
  unfold ThreadSafeQueue.popOneLoop
  split
  · next isEmpty =>
    have counted := initiallyEmpty isEmpty
    apply h.update
    · rw [history, queue]
      exact h.explains
    · rw [waiters, counted]
      rfl
    · intro b' same
      cases same
      exact counted
  · next front rest isCons =>
    apply h.update
    · rw [history]
      apply h.explains.snoc
      rw [← queue, isCons]
      exact .pop front rest
    · show state.numWaiters - BitVec.ofNat 64 b.toNat + _ = s.shared.numWaiters + 0#64
      rw [BitVec.add_zero, ← BitVec.add_sub_cancel s.shared.numWaiters (BitVec.ofNat 64 b.toNat), ← waiters,
        BitVec.sub_eq_add_neg, BitVec.sub_eq_add_neg, BitVec.add_assoc, BitVec.add_assoc,
        BitVec.add_comm (-_)]
    · exact fun b => nofun

/-- **One critical section** keeps the counts. -/
theorem Counted.critical (h : Counted s) (request : QueueRequest T) (i : Fin n) :
    Counted ⟨(ThreadSafeQueue.critical request (s.points i) s.shared).2.1,
      Function.update s.points i (ThreadSafeQueue.critical request (s.points i) s.shared).1⟩ := by
  cases here : s.points i with
  | await b =>
    have counted := h.initiallyEmpty i b here
    apply h.popOneLoop rfl rfl
    · rw [here, counted]
      rfl
    · exact fun _ => counted
  | outside =>
    cases request with
    | empty => exact h.update_outside here rfl rfl (.empty _)
    | size => exact h.update_outside here rfl rfl (.size _)
    | push element => exact h.update_outside here rfl rfl (.push _ _)
    | pushMultiple elements =>
      refine h.update_outside here rfl rfl ?_
      simp only [ThreadSafeQueue.critical, ThreadSafeQueue.pushMultiple, moveAll_eq]
      exact .push _ _
    | popOne =>
      apply h.popOneLoop
      · rfl
      · rfl
      · rw [here]
        exact BitVec.add_zero _
      · intro isEmpty
        exact List.isEmpty_iff.mpr isEmpty
    | popOneIfAvailable =>
      simp only [ThreadSafeQueue.critical, popOneIfAvailable]
      split
      · next isEmpty =>
        refine h.update_outside here rfl rfl ?_
        simp only [isEmpty]
        exact .popUnavailable
      · next front rest isCons =>
        refine h.update_outside here rfl rfl ?_
        simp only [isCons]
        exact .pop front rest

end Sections

/-! ## Wakeups -/

/-- What keeps a thread in the loop of `popOne()`. -/
def Blocked (_ : Unit) (state : QueueState T) : Prop := state.internalQueue = []

/-- A section starts to wait only on an empty queue. -/
theorem blocked_of_waitsOn {request : QueueRequest T} {point : QueuePoint} {state : QueueState T}
    {condition : Unit} (waits : waitsOn (critical request point state).1 = some condition) :
    Blocked condition (critical request point state).2.1 := by
  have loops (b : Bool) (state : QueueState T) (waits : waitsOn (popOneLoop b state).1 = some condition) :
      Blocked condition (popOneLoop b state).2.1 := by
    unfold popOneLoop at waits ⊢
    split at waits
    · next isEmpty => exact isEmpty
    · cases waits
  cases point with
  | await b => exact loops b state waits
  | outside =>
    cases request with
    | popOne => exact loops _ _ waits
    | popOneIfAvailable =>
      simp only [critical, popOneIfAvailable] at waits
      split at waits <;> cases waits
    | empty | size | push element | pushMultiple elements => cases waits

/-- A section leaves an empty queue empty, or signals to all. -/
theorem blocked_or_signals {request : QueueRequest T} {point : QueuePoint} {state : QueueState T}
    (isEmpty : state.internalQueue = []) :
    Blocked () (critical request point state).2.1 ∨ (critical request point state).2.2 = .all () := by
  have loops (b : Bool) (state : QueueState T) (isEmpty : state.internalQueue = []) :
      Blocked () (popOneLoop b state).2.1 := by
    simp only [popOneLoop, isEmpty]
    exact isEmpty
  cases point with
  | await b => exact .inl (loops b state isEmpty)
  | outside =>
    cases request with
    | popOne => exact .inl (loops _ _ isEmpty)
    | popOneIfAvailable =>
      left
      simp only [critical, popOneIfAvailable, isEmpty]
      rfl
    | empty | size => exact .inl isEmpty
    | push element | pushMultiple elements => exact .inr rfl

/-! ## Runs -/

/-- The counts, and that threads sleep only while the queue is empty. -/
structure Invariant (s : ThreadSafeQueue T n) : Prop where
  counted : Counted (Monitor.program s)
  blocked : ∀ j condition, (monitor T).SleepsOn s.points j condition → Blocked condition s.shared

theorem invariant_create (T : Type) (n : Nat) : Invariant (create T n) where
  counted := by
    have none : count isWaiting (Monitor.program (create T n)).points = 0 := by
      apply Nat.eq_zero_of_not_pos
      rw [count_pos_iff]
      rintro ⟨i, waiting⟩
      cases waiting
    exact ⟨.nil, by rw [none]; rfl, fun i b here => nomatch here⟩
  blocked j condition sleeps := absurd sleeps.1 Bool.false_ne_true

/-- **One step** keeps the invariant. -/
theorem Invariant.step {s s' : ThreadSafeQueue T n} (step : (monitor T).Step s s') (h : Invariant s) :
    Invariant s' where
  counted := by
    rcases step.program_eq with same | ⟨i, request, _, moved⟩
    · rw [same]
      exact h.counted
    · rw [moved]
      exact h.counted.critical request i
  blocked := by
    refine step.noLostWakeup ?_ ?_ h.blocked
    · intro i request condition _ waits
      exact blocked_of_waitsOn waits
    · intro i request j condition _ _ _ blocked
      rcases blocked_or_signals blocked with still | all
      · exact .inl still
      · exact .inr (.inl all)

/-- What holds in every reachable state. The calls have returned what a queue returns when they are made
one after the other, so that the elements come out in the order in which they went in; the waiters are
counted; and while there is an element, a thread in `popOne()` is awake and the next one gets it. -/
structure Correct (s : ThreadSafeQueue T n) : Prop where
  explains : Explains QueueCall.Returns [] s.shared.history s.shared.internalQueue
  fifo : s.shared.history.flatMap QueueCall.popped ++ s.shared.internalQueue =
    s.shared.history.flatMap QueueCall.pushed
  waiters : s.shared.numWaiters.toNat = count isWaiting (Monitor.program s).points
  progress : ∀ i front rest request, isWaiting (s.points i).point = true →
    s.shared.internalQueue = front :: rest →
      (s.points i).asleep = false ∧
      (critical request (s.points i).point s.shared).1 = .outside ∧
      (critical request (s.points i).point s.shared).2.1.internalQueue = rest ∧
      (critical request (s.points i).point s.shared).2.1.history = s.shared.history ++ [.pop front]

theorem Invariant.correct (few : n < 2 ^ 64) {s : ThreadSafeQueue T n} (h : Invariant s) : Correct s where
  explains := h.counted.explains
  fifo := QueueCall.fifo h.counted.explains
  waiters := by
    have waiters : s.shared.numWaiters = _ := h.counted.waiters
    have limit : count isWaiting (Monitor.program s).points ≤ n := by
      unfold count
      exact (Finset.card_le_univ _).trans_eq (Fintype.card_fin n)
    rw [waiters, BitVec.toNat_ofNat, Nat.mod_eq_of_lt (Nat.lt_of_le_of_lt limit few)]
  progress i front rest request waiting isCons := by
    cases here : (s.points i).point with
    | outside =>
      rw [here] at waiting
      cases waiting
    | await b =>
      refine ⟨?_, ?_⟩
      · by_contra asleep
        have isEmpty := h.blocked i () ⟨Bool.of_not_eq_false asleep, congrArg waitsOn here⟩
        cases isCons.symm.trans isEmpty
      · simp only [critical, popOneLoop, isCons, and_self]

/-- **The queue is correct** after every run of fewer than 2^64 threads. -/
theorem run_linearizable (few : n < 2 ^ 64) {s : ThreadSafeQueue T n} (run : (monitor T).Run (create T n) s) :
    Correct s := by
  apply Invariant.correct few
  apply run.invariant
  · intro s s' step h
    exact h.step step
  · exact invariant_create T n

/-- A consumer sleeps in `popOne()` until a producer has pushed. -/
theorem run_linearizable_woken : ∃ s : ThreadSafeQueue Nat 2, (monitor Nat).Run (create Nat 2) s ∧
    isWaiting (s.points 0).point = true ∧ s.shared.internalQueue = [7] ∧ Correct s := by
  have sleeps := Monitor.Step.enter (m := monitor Nat) (create Nat 2) 0 .popOne (fun _ => false) rfl
    (fun _ => rfl)
  have sleeper (i : Fin 2) : (fun i : Fin 2 => decide (i = 0)) i = true ↔
      (monitor Nat).SleepsOn ((monitor Nat).arrive ⟨⟨[], 1, []⟩, Monitor.wake (fun _ => false)
        ((monitor Nat).arrive (create Nat 2) 0 .popOne)⟩ 1 (.push 7)) i () := by
    cases i using Fin.cases with
    | zero => exact iff_of_true rfl ⟨rfl, rfl⟩
    | succ i =>
      cases i using Fin.cases with
      | zero => exact iff_of_false (by decide) fun sleeps => nomatch sleeps.1
      | succ i => exact i.elim0
  have pushes := Monitor.Step.enter (m := monitor Nat) ⟨⟨[], 1, []⟩, Monitor.wake (fun _ => false)
    ((monitor Nat).arrive (create Nat 2) 0 .popOne)⟩ 1 (.push 7) (fun i => i = 0) rfl sleeper
  have run := (Relation.ReflTransGen.single sleeps).tail pushes
  exact ⟨_, run, rfl, rfl, run_linearizable (by decide) run⟩

end ThreadSafeQueue

end Quickstep.Utility
