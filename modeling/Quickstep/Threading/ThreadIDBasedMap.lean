import Quickstep.Threading.SpinSharedMutex

/-!
# The map of thread IDs

`ThreadIDBasedMap` of `threading/ThreadIDBasedMap.hpp`: each thread stores a value under its own ID in one
map, which a shared spin mutex protects. The steps of the threads are the atomic operations of the mutex
and the accesses to the map between them. To each thread the map is a variable of its own.
-/

namespace Quickstep.Threading
open Quickstep.Lib

/-- What a thread may call. -/
inductive MapRequest (V : Type) where
  | addValue (value : V)
  | removeValue
  | getValue

/-- Where a thread stands. -/
inductive MapStage (V : Type) where
  /-- In no call, with the result of the last one. -/
  | idle (result : Option V)
  /-- In a call, somewhere in the mutex, before the access to the map. -/
  | inMutex (request : MapRequest V) (point : ThreadPoint)
  /-- In a call, past the access to the map, before the mutex is unlocked. -/
  | accessed (request : MapRequest V) (result : Option V)
  /-- The end iterator was dereferenced or erased. -/
  | undefined (request : MapRequest V)

/-- A thread: the key that `getKey()` returns to it, its stage, and the value that its own calls have left
it, which plays no part in what the program does. -/
structure MapThread (K V : Type) where
  key : K
  stage : MapStage V
  mine : Option V

/-- The word of `map_mutex_`, and `map_`. -/
structure MapState (K V : Type) where
  mutex : BitVec 32
  map_ : K → Option V

namespace MapRequest

variable {V : Type}

/-- The calls that lock the mutex exclusively. -/
def isExclusive : MapRequest V → Bool
  | addValue _ | removeValue => true
  | getValue => false

/-- The lock of the call. -/
def lock (request : MapRequest V) : ThreadPoint :=
  if request.isExclusive then .lock else .lockShared

/-- Past the lock of the call. -/
def locked (request : MapRequest V) : ThreadPoint :=
  if request.isExclusive then .exclusive else .shared

/-- The call to a variable of one thread: what it leaves in the variable, and its result. Without a value
there is nothing to remove or to get. -/
def access : MapRequest V → Option V → Option (Option V × Option V)
  | addValue value, _ => some (some value, none)
  | removeValue, some _ => some (none, none)
  | getValue, some value => some (some value, some value)
  | removeValue, none | getValue, none => none

/-- A value that a call returns stays in the variable. -/
theorem eq_of_access_eq {request : MapRequest V} {mine left : Option V} {value : V}
    (accessed : request.access mine = some (left, some value)) : left = some value := by
  cases request with
  | addValue value' => cases accessed
  | removeValue => cases mine <;> cases accessed
  | getValue =>
    cases mine with
    | none => cases accessed
    | some value' =>
      cases accessed
      rfl

end MapRequest

namespace ThreadIDBasedMap

variable {K V : Type} [DecidableEq K]

/-- What a call does to the map past the lock, and its result. `addValue` has a `DCHECK` that the entry
is there afterwards, which cannot fail and is left out. -/
def accessMap (request : MapRequest V) (key : K) (map_ : K → Option V) :
    Option ((K → Option V) × Option V) :=
  match request with
  | .addValue value => some (Function.update map_ key (some value), none)
  | .removeValue => (map_ key).map fun _ => (Function.update map_ key none, none)
  | .getValue => (map_ key).map fun value => (map_, some value)

/-- The map is accessed as a variable of the thread. -/
theorem accessMap_eq (request : MapRequest V) (key : K) (map_ : K → Option V) :
    accessMap request key map_ =
      (request.access (map_ key)).map fun left => (Function.update map_ key left.1, left.2) := by
  cases request with
  | addValue value => rfl
  | removeValue => cases here : map_ key <;> simp [accessMap, MapRequest.access, here]
  | getValue =>
    cases here : map_ key with
    | none => simp [accessMap, MapRequest.access, here]
    | some value =>
      have same : Function.update map_ key (some value) = map_ := by
        rw [← here, Function.update_eq_self]
      simp [accessMap, MapRequest.access, here, same]

/-- The access of a thread. -/
def access (request : MapRequest V) (thread : MapThread K V) (state : MapState K V) :
    MapThread K V × MapState K V :=
  match accessMap request thread.key state.map_ with
  | some (map_, result) =>
    ({ thread with
        stage := .accessed request result
        mine := ((request.access thread.mine).map Prod.fst).join }, { state with map_ })
  | none => ({ thread with stage := .undefined request }, state)

/-- The next step of a thread: an atomic operation on the mutex, or the access to the map. -/
def advance (request : MapRequest V) (thread : MapThread K V) (state : MapState K V) :
    MapThread K V × MapState K V :=
  match thread.stage with
  | .idle _ => ({ thread with stage := .inMutex request request.lock }, state)
  | .inMutex request point =>
    if point = request.locked then access request thread state
    else
      let next := point.advance request.isExclusive state.mutex
      ({ thread with stage := .inMutex request next.1 }, { state with mutex := next.2 })
  | .accessed request result =>
    ({ thread with stage := .idle result },
      { state with mutex := (request.locked.advance request.isExclusive state.mutex).2 })
  | .undefined _ => (thread, state)

/-- Where a thread is in the mutex. -/
def mutexPoint (thread : MapThread K V) : ThreadPoint :=
  match thread.stage with
  | .idle _ => .outside
  | .inMutex _ point => point
  | .accessed request _ | .undefined request => request.locked

end ThreadIDBasedMap

/-- The map with `n` threads, whose IDs are their numbers. -/
abbrev ThreadIDBasedMap (V : Type) (n : Nat) := Threads (Fin n) (MapState (Fin n) V) (MapThread (Fin n) V)

namespace ThreadIDBasedMap

open Threads

variable {V : Type} {n : Nat}

/-- The constructor: no thread is in a call, and the map is empty. -/
def create (V : Type) (n : Nat) : ThreadIDBasedMap V n :=
  ⟨⟨0#32, fun _ => none⟩, fun i => ⟨i, .idle none, none⟩⟩

/-- The mutex and where the threads are in it. -/
def mutexOf (s : ThreadIDBasedMap V n) : SpinSharedMutex n := s.view MapState.mutex mutexPoint

/-- The thread accesses the map, or has accessed it and has not unlocked the mutex yet. -/
def Accesses (thread : MapThread (Fin n) V) (request : MapRequest V) : Prop :=
  thread.stage = .inMutex request request.locked ∨ (∃ result, thread.stage = .accessed request result) ∨
    thread.stage = .undefined request

/-! ## One thread -/

/-- The points of the mutex that a call comes by before its access. -/
def onTheWay (request : MapRequest V) : ThreadPoint → Prop
  | .lock | .contended | .drain _ | .exclusive => request.isExclusive = true
  | .lockShared | .retreat | .spin _ | .shared => request.isExclusive = false
  | .outside => False

/-- A thread is in the mutex as its call has it, and knows what it has stored. -/
structure InOrder (i : Fin n) (map_ : Fin n → Option V) (thread : MapThread (Fin n) V) : Prop where
  key : thread.key = i
  mine : map_ i = thread.mine
  onTheWay : ∀ request point, thread.stage = .inMutex request point → onTheWay request point
  got : ∀ request result, thread.stage = .accessed request result →
    ∀ value, result = some value → thread.mine = some value
  kept : ∀ value, thread.stage = .idle (some value) → thread.mine = some value
  undefined : ∀ request, thread.stage = .undefined request → request.access thread.mine = none

section Steps

variable {request : MapRequest V} {point : ThreadPoint} {word : BitVec 32}

theorem onTheWay_lock (request : MapRequest V) : onTheWay request request.lock := by
  cases request <;> rfl

/-- On its way a call comes by no point of the other mode. -/
theorem onTheWay_advance (before : onTheWay request point) (notLocked : point ≠ request.locked) :
    onTheWay request (point.advance request.isExclusive word).1 := by
  cases point with
  | outside => exact before.elim
  | lock =>
    simp only [ThreadPoint.advance]
    split <;> exact before
  | contended => exact before
  | drain observedState =>
    simp only [ThreadPoint.advance]
    split <;> exact before
  | exclusive => exact absurd (if_pos before).symm notLocked
  | lockShared =>
    simp only [ThreadPoint.advance]
    split <;> exact before
  | retreat => exact before
  | spin observedState =>
    simp only [ThreadPoint.advance]
    split <;> exact before
  | shared => exact absurd (if_neg (Bool.eq_false_iff.mp before)).symm notLocked

variable {i : Fin n} {thread : MapThread (Fin n) V} {state : MapState (Fin n) V}

/-- The access of a thread, in terms of its variable. -/
theorem InOrder.access (h : InOrder i state.map_ thread) (request : MapRequest V) :
    InOrder i (ThreadIDBasedMap.access request thread state).2.map_
        (ThreadIDBasedMap.access request thread state).1 ∧
      ∀ j, j ≠ i → (ThreadIDBasedMap.access request thread state).2.map_ j = state.map_ j := by
  have accessed := accessMap_eq request i state.map_
  rw [h.mine] at accessed
  unfold ThreadIDBasedMap.access
  rw [h.key]
  cases left : request.access thread.mine with
  | none =>
    rw [left, Option.map_none] at accessed
    rw [accessed]
    refine ⟨⟨rfl, h.mine, nofun, nofun, nofun, ?_⟩, fun j _ => rfl⟩
    intro request' same
    cases same
    exact left
  | some after =>
    obtain ⟨value, result⟩ := after
    rw [left, Option.map_some] at accessed
    rw [accessed]
    refine ⟨⟨rfl, by simp, nofun, ?_, nofun, nofun⟩, fun j other =>
      Function.update_of_ne other _ _⟩
    intro request' result' same got isGot
    cases same
    cases isGot
    exact MapRequest.eq_of_access_eq left

/-- **One step** of a thread keeps it in order, and leaves what the map holds for the others. -/
theorem InOrder.advance (h : InOrder i state.map_ thread) (request : MapRequest V) :
    InOrder i (ThreadIDBasedMap.advance request thread state).2.map_
        (ThreadIDBasedMap.advance request thread state).1 ∧
      ∀ j, j ≠ i → (ThreadIDBasedMap.advance request thread state).2.map_ j = state.map_ j := by
  obtain ⟨key, stage, mine⟩ := thread
  cases stage with
  | idle result =>
    refine ⟨⟨h.key, h.mine, ?_, nofun, nofun, nofun⟩, fun j _ => rfl⟩
    intro request' point same
    cases same
    exact onTheWay_lock request
  | inMutex request' point =>
    simp only [ThreadIDBasedMap.advance]
    by_cases isLocked : point = request'.locked
    · rw [if_pos isLocked]
      exact h.access request'
    · rw [if_neg isLocked]
      refine ⟨⟨h.key, h.mine, ?_, nofun, nofun, nofun⟩, fun j _ => rfl⟩
      intro request'' point' same
      cases same
      exact onTheWay_advance (h.onTheWay request' point rfl) isLocked
  | accessed request' result =>
    refine ⟨⟨h.key, h.mine, nofun, nofun, ?_, nofun⟩, fun j _ => rfl⟩
    intro value same
    cases same
    exact h.got request' _ rfl value rfl
  | undefined request' => exact ⟨h, fun j _ => rfl⟩

/-- What a step does in the mutex: one operation of it, or nothing. -/
theorem mutexPoint_advance (request : MapRequest V) (thread : MapThread (Fin n) V)
    (state : MapState (Fin n) V) :
    (mutexPoint (ThreadIDBasedMap.advance request thread state).1,
        (ThreadIDBasedMap.advance request thread state).2.mutex) = (mutexPoint thread, state.mutex) ∨
      ∃ wantsExclusive, (mutexPoint (ThreadIDBasedMap.advance request thread state).1,
        (ThreadIDBasedMap.advance request thread state).2.mutex) =
          ThreadPoint.advance wantsExclusive (mutexPoint thread) state.mutex := by
  obtain ⟨key, stage, mine⟩ := thread
  cases stage with
  | idle result => exact .inr ⟨request.isExclusive, rfl⟩
  | inMutex request' point =>
    unfold ThreadIDBasedMap.advance
    by_cases isLocked : point = request'.locked
    · left
      simp only [isLocked, if_true]
      unfold access
      split <;> rfl
    · right
      simp only [isLocked, if_false]
      exact ⟨request'.isExclusive, rfl⟩
  | accessed request' result =>
    right
    refine ⟨request'.isExclusive, ?_⟩
    cases request' <;> rfl
  | undefined request' => exact .inl rfl

end Steps

/-! ## Runs -/

/-- The mutex counts the threads in it, and every thread is in order. -/
structure Invariant (s : ThreadIDBasedMap V n) : Prop where
  mutex : Counted (mutexOf s)
  inOrder : ∀ i, InOrder i s.shared.map_ (s.points i)

theorem invariant_create (V : Type) (n : Nat) : Invariant (create V n) :=
  ⟨counted_create n, fun _ => ⟨rfl, rfl, nofun, nofun, nofun, nofun⟩⟩

/-- **One step** keeps the invariant. -/
theorem Invariant.turn (few : n < 2 ^ 31) {s : ThreadIDBasedMap V n} (h : Invariant s) (i : Fin n)
    (request : MapRequest V) : Invariant (s.turn advance i request) where
  mutex := by
    rcases view_turn ThreadPoint.advance
        (mutexPoint_advance request (s.points i) s.shared) with same | ⟨wantsExclusive, same⟩
    · show Counted (view _ _ _)
      rw [same]
      exact h.mutex
    · show Counted (view _ _ _)
      rw [same]
      exact h.mutex.turn few i wantsExclusive
  inOrder j := by
    obtain ⟨self, others⟩ := (h.inOrder i).advance request
    by_cases same : j = i
    · subst same
      rw [turn_points_self]
      exact self
    · rw [turn_points_of_ne same]
      have before := h.inOrder j
      exact ⟨before.key, (others j same).trans before.mine, before.onTheWay, before.got, before.kept,
        before.undefined⟩

/-- What the map is for. No two threads access it at a time unless both only read; what it holds for a
thread, and returns to it, is what the calls of this thread alone have left; and a call goes wrong only if
it would with a variable of its own. -/
structure ThreadLocal (s : ThreadIDBasedMap V n) : Prop where
  noRace : ∀ i j request request', i ≠ j → Accesses (s.points i) request →
    Accesses (s.points j) request' → request.isExclusive = false ∧ request'.isExclusive = false
  stored : ∀ i, s.shared.map_ i = (s.points i).mine
  returned : ∀ i value, (s.points i).stage = .idle (some value) → (s.points i).mine = some value
  undefined : ∀ i request, (s.points i).stage = .undefined request →
    request.access (s.points i).mine = none

theorem mutexPoint_of_accesses {thread : MapThread (Fin n) V} {request : MapRequest V}
    (accesses : Accesses thread request) : mutexPoint thread = request.locked := by
  unfold mutexPoint
  rcases accesses with before | ⟨result, past⟩ | undefined
  · rw [before]
  · rw [past]
  · rw [undefined]

theorem Invariant.threadLocal (few : n < 2 ^ 31) {s : ThreadIDBasedMap V n} (h : Invariant s) :
    ThreadLocal s where
  noRace i j request request' different accesses accesses' := by
    have exclusion := (h.mutex.mutualExclusion few).exclusive
    have here : (mutexOf s).points i = request.locked := mutexPoint_of_accesses accesses
    have there : (mutexOf s).points j = request'.locked := mutexPoint_of_accesses accesses'
    have alone {k l : Fin n} {r r' : MapRequest V} (apart : k ≠ l) (first : (mutexOf s).points k = r.locked)
        (second : (mutexOf s).points l = r'.locked) : r.isExclusive = false := by
      by_contra exclusive
      have writes : r.locked = .exclusive := if_pos (Bool.of_not_eq_false exclusive)
      have outside := exclusion k l apart (first.trans writes)
      rw [second, MapRequest.locked] at outside
      split at outside
      · exact outside.1 rfl
      · exact outside.2 rfl
    exact ⟨alone different here there, alone different.symm there here⟩
  stored i := (h.inOrder i).mine
  returned i := (h.inOrder i).kept
  undefined i := (h.inOrder i).undefined

/-- **To each thread the map is a variable of its own**, after every interleaving of the steps of fewer
than 2^31 threads. -/
theorem interleave_threadLocal (few : n < 2 ^ 31) (schedule : List (Fin n × MapRequest V)) :
    ThreadLocal ((create V n).interleave advance schedule) := by
  apply Invariant.threadLocal few
  apply interleave_invariant Invariant (invariant_create V n)
  intro s i request h
  exact h.turn few i request

/-- A thread reads the map while another one waits to write to it. -/
theorem interleave_threadLocal_reading :
    ThreadLocal ((create Nat 2).interleave advance
      ((List.replicate 5 (0, .addValue 7)) ++ (List.replicate 2 (0, .getValue)) ++
        (List.replicate 3 (1, .addValue 8)))) :=
  interleave_threadLocal (by decide) _

end ThreadIDBasedMap

end Quickstep.Threading
