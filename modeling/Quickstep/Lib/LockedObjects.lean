import Quickstep.Lib.CriticalSections
import Quickstep.Lib.Monitor
import Quickstep.Lib.WhileLoop

/-!
# Objects with one lock

The methods of an object lock its mutex, access the data one step at a time, and unlock the mutex. Whatever
the order of the steps of all threads, each call returns what it does when the calls are made one after the
other.
-/

namespace Quickstep.Lib

/-- What is left of a method past its lock: accesses to the data, one after the other. -/
inductive Steps (Data Result : Type) where
  | done (result : Result)
  | access (update : Data → Data) (next : Data → Steps Data Result)
  | fault (raised : Fault)

namespace Steps

variable {Data Result α : Type}

/-- The steps with nothing between them. -/
def run : Steps Data Result → Data → Exec (Result × Data)
  | done result, data => .ok (result, data)
  | access update next, data => (next data).run (update data)
  | fault raised, _ => .error raised

/-- No step changes the data. -/
def ReadOnly : Steps Data Result → Prop
  | done _ | fault _ => True
  | access update next => ∀ data, update data = data ∧ (next data).ReadOnly

/-- A read of the data that goes on with what was read. -/
def read (value : Data → Exec α) (next : α → Steps Data Result) : Steps Data Result :=
  .access id fun data => match value data with
    | .ok value => next value
    | .error raised => .fault raised

/-- A change of the data. -/
def write (change : Data → Exec Data) (next : Steps Data Result) : Steps Data Result :=
  .access (fun data => match change data with
    | .ok changed => changed
    | .error _ => data) fun data => match change data with
    | .ok _ => next
    | .error raised => .fault raised

@[simp] theorem run_done (result : Result) (data : Data) :
    (done result : Steps Data Result).run data = .ok (result, data) := rfl

@[simp] theorem run_read (value : Data → Exec α) (next : α → Steps Data Result) (data : Data) :
    (read value next).run data = value data >>= fun value => (next value).run data := by
  show (match value data with
    | .ok value => next value
    | .error raised => fault raised).run data = _
  cases value data <;> rfl

@[simp] theorem run_write (change : Data → Exec Data) (next : Steps Data Result) (data : Data) :
    (write change next).run data = change data >>= next.run := by
  show (match change data with
    | .ok _ => next
    | .error raised => fault raised).run (match change data with
    | .ok changed => changed
    | .error _ => data) = _
  cases change data <;> rfl

theorem readOnly_read {value : Data → Exec α} {next : α → Steps Data Result} (rest : ∀ value, (next value).ReadOnly) :
    (read value next).ReadOnly := by
  intro data
  refine ⟨rfl, ?_⟩
  show (match value data with
    | .ok value => next value
    | .error raised => fault raised).ReadOnly
  split
  · exact rest _
  · trivial

end Steps

/-- The methods of an object, with the mode in which they lock its mutex. -/
structure LockedObject (Call Data Result : Type) where
  exclusive : Call → Bool
  body : Call → Steps Data Result
  reads : ∀ call, exclusive call = false → (body call).ReadOnly

/-- Where a thread stands: it has returned from its last call, or is in front of the lock, or past it. -/
inductive MethodPoint (Call Data Result : Type) where
  | ready (last : Option (Call × Result))
  | asks (call : Call)
  | runs (call : Call) (rest : Steps Data Result)

namespace LockedObject

variable {Call Data Result : Type} (object : LockedObject Call Data Result)

/-- What a thread does next. A call with a fault does not go on. -/
def next : MethodPoint Call Data Result →
    SectionAction Call Data (Call × Result) (MethodPoint Call Data Result)
  | .ready _ => .call .asks
  | .asks call => .lock (object.exclusive call) (.runs call (object.body call))
  | .runs call (.access update next) => .access fun data => (.runs call (next data), update data)
  | .runs call (.done result) => .unlock (call, result) (.ready (some (call, result)))
  | .runs call (.fault raised) => .call fun _ => .runs call (.fault raised)

def program : SectionProgram Call Data (Call × Result) (MethodPoint Call Data Result) where
  next := object.next
  reads
    | .runs _ rest => rest.ReadOnly
    | .ready _ | .asks _ => False
  reads_lock {own entry} locks := by
    cases own with
    | ready last => cases locks
    | asks call =>
      injection locks with shared isEntry
      subst isEntry
      exact object.reads call shared
    | runs call rest => cases rest <;> cases locks
  reads_access {own step} data reads accesses := by
    cases own with
    | ready last => cases accesses
    | asks call => cases accesses
    | runs call rest =>
      cases rest with
      | access update next =>
        cases accesses
        exact ⟨(reads data).2, (reads data).1⟩
      | done result => cases accesses
      | fault raised => cases accesses

/-- A call returns this, and leaves the data so. -/
def Returns (before : Data) (event : Call × Result) (after : Data) : Prop :=
  (object.body event.1).run before = .ok (event.2, after)

variable {ι Word Point : Type} [DecidableEq ι] (lock : SharedLock ι Word Point)

/-- The threads, each at a point of the mutex and at a point of a call. -/
abbrev System (_ : SharedLock ι Word Point) (_ : LockedObject Call Data Result) :=
  Threads ι (Guarded Word Data (Call × Result)) (Point × MethodPoint Call Data Result)

/-- **The calls are as if made one after the other**: those that are over return what they do in the order in
which they unlocked the mutex, and leave the data so. -/
structure Linearizable (Inv : Data → Prop) (start : Data) (s : System lock object) : Prop where
  explains : ∃ data, Explains object.Returns start s.shared.log data ∧ Inv data ∧
    ((∀ i, lock.standing (s.points i).1 ≠ .inside true) → s.shared.data = data)
  returned : ∀ i event, (s.points i).2 = .ready (some event) → event ∈ s.shared.log
  noRace : ∀ i j exclusive other, i ≠ j → lock.standing (s.points i).1 = .inside exclusive →
    lock.standing (s.points j).1 = .inside other → exclusive = false ∧ other = false
  noFault : ∀ i call raised, (s.points i).2 ≠ .runs call (.fault raised)

variable {object lock} {Inv : Data → Prop} {start : Data}

/-- The accesses of a call do not change what it comes to. -/
theorem run_of_access {call : Call} {rest : Steps Data Result} {data : Data}
    {reached : MethodPoint Call Data Result × Data}
    (run : Relation.ReflTransGen object.program.Access (.runs call rest, data) reached) :
    ∃ rest' data', reached = (.runs call rest', data') ∧ rest'.run data' = rest.run data := by
  induction run with
  | refl => exact ⟨rest, data, rfl, rfl⟩
  | tail _ last ih =>
    obtain ⟨rest', data', rfl, same⟩ := ih
    cases last with
    | step _ accesses =>
      cases rest' with
      | access update next =>
        cases accesses
        exact ⟨_, _, rfl, same⟩
      | done result => cases accesses
      | fault raised => cases accesses

/-- The threads between calls, with what the calls have returned so far. -/
structure Sequential (object : LockedObject Call Data Result) (Inv : Data → Prop) (start : Data)
    (whole : Threads ι (Data × List (Call × Result)) (MethodPoint Call Data Result)) : Prop where
  explains : Explains object.Returns start whole.shared.2 whole.shared.1
  inv : Inv whole.shared.1
  between : ∀ i, (∃ last, whole.points i = .ready last ∧ ∀ event ∈ last, event ∈ whole.shared.2) ∨
    ∃ call, whole.points i = .asks call

/-- **A whole call** is one call of the sequence. -/
theorem Sequential.whole {before after : Threads ι (Data × List (Call × Result)) (MethodPoint Call Data Result)}
    (safe : ∀ data call, Inv data → ∃ result after, (object.body call).run data = .ok (result, after) ∧ Inv after)
    (h : Sequential object Inv start before) (step : object.program.Whole before after) :
    Sequential object Inv start after := by
  cases step with
  | @call i begin request calls =>
    refine ⟨h.explains, h.inv, fun j => ?_⟩
    by_cases same : j = i
    · subst same
      right
      rcases h.between j with ⟨last, here, -⟩ | ⟨call, here⟩
      · rw [here] at calls
        cases calls
        exact ⟨request, Function.update_self _ _ _⟩
      · rw [here] at calls
        cases calls
    · simp only [Function.update_of_ne same]
      exact h.between j
  | @whole i exclusive entry exit left event data locks accesses unlocks =>
    rcases h.between i with ⟨last, here, -⟩ | ⟨call, here⟩
    · rw [here] at locks
      cases locks
    · rw [here] at locks
      cases locks
      obtain ⟨rest, data', same, run⟩ := run_of_access accesses
      cases same
      obtain ⟨result, after, returned, kept⟩ := safe before.shared.1 call h.inv
      cases rest with
      | access update next => cases unlocks
      | fault raised => cases unlocks
      | done result' =>
        cases unlocks
        rw [returned] at run
        cases run
        refine ⟨.snoc h.explains returned, kept, fun j => ?_⟩
        by_cases same : j = i
        · subst same
          left
          refine ⟨some (call, result), Function.update_self _ _ _, ?_⟩
          rintro _ ⟨⟩
          exact List.mem_append_right _ (List.mem_singleton_self _)
        · simp only [Function.update_of_ne same]
          rcases h.between j with ⟨last, there, logged⟩ | waits
          · exact .inl ⟨last, there, fun event isLast => List.mem_append_left _ (logged event isLast)⟩
          · exact .inr waits

omit [DecidableEq ι] in
theorem sequential_start {data : Data} (inv : Inv data) :
    Sequential object Inv data (⟨(data, []), fun _ => .ready none⟩ :
      Threads ι (Data × List (Call × Result)) (MethodPoint Call Data Result)) :=
  ⟨.nil, inv, fun _ => .inl ⟨none, rfl, nofun⟩⟩

/-- Where a thread is: between calls, in front of a lock, or on its way from the entry of a call. -/
theorem Sequential.position {whole : Threads ι (Data × List (Call × Result)) (MethodPoint Call Data Result)}
    {s : System lock object} (h : Sequential object Inv start whole)
    (simulates : object.program.Simulates lock s whole) (i : ι) :
    (∃ last, (s.points i).2 = .ready last ∧ ∀ event ∈ last, event ∈ whole.shared.2) ∨
      (∃ call, (s.points i).2 = .asks call) ∨
      ∃ call data, Relation.ReflTransGen object.program.Access
        (.runs call (object.body call), whole.shared.1) ((s.points i).2, data) := by
  have follows := simulates.follows i
  cases standing : lock.standing (s.points i).1 with
  | outside =>
    rw [follows.eq_of_outside standing]
    rcases h.between i with between | asks
    · exact .inl between
    · exact .inr (.inl asks)
  | waiting exclusive =>
    have locks := follows.lock_of_waiting standing
    rcases h.between i with ⟨last, here, -⟩ | ⟨call, here⟩
    · rw [here] at locks
      cases locks
    · rw [here] at locks
      injection locks with _ isEntry
      refine .inr (.inr ⟨call, whole.shared.1, ?_⟩)
      rw [isEntry]
  | inside exclusive =>
    obtain ⟨entry, locks, -, run⟩ := follows.entry_of_inside standing
    rcases h.between i with ⟨last, here, -⟩ | ⟨call, here⟩
    · rw [here] at locks
      cases locks
    · rw [here] at locks
      cases locks
      exact .inr (.inr ⟨call, s.shared.data, run⟩)

/-- **The rule for objects with one lock.** If no call faults where the invariant holds, and each keeps it, the
object is linearizable under every schedule. -/
theorem linearizable_interleave {word : Word} {points : ι → Point}
    (safe : ∀ data call, Inv data → ∃ result after, (object.body call).run data = .ok (result, after) ∧ Inv after)
    (inv : Inv start) (mutex : lock.Inv ⟨word, points⟩) (outside : ∀ i, lock.standing (points i) = .outside)
    (schedule : List (ι × Call)) :
    Linearizable object lock Inv start
      ((⟨⟨word, start, []⟩, fun i => (points i, .ready none)⟩ : System lock object).interleave
        (lock.advanceProgram object.program) schedule) := by
  have begin : object.program.Simulates lock
      (⟨⟨word, start, []⟩, fun i => (points i, .ready none)⟩ : System lock object)
      ⟨(start, []), fun _ => .ready none⟩ := SectionProgram.simulates_start mutex outside
  obtain ⟨whole, h, simulates⟩ := SectionProgram.interleave_simulates (Sequential object Inv start)
    (sequential_start inv) (fun _ _ step before => before.whole safe step) begin schedule
  refine ⟨⟨whole.shared.1, simulates.log ▸ h.explains, h.inv, simulates.data⟩, fun i event here => ?_,
    fun i j _ _ => simulates.noRace, fun i call raised here => ?_⟩
  · rw [simulates.log]
    rcases h.position simulates i with ⟨last, there, logged⟩ | ⟨call, there⟩ | ⟨call, data, run⟩
    · rw [here] at there
      cases there
      exact logged event rfl
    · rw [here] at there
      cases there
    · obtain ⟨rest, data', same, -⟩ := run_of_access run
      rw [here] at same
      cases same
  · rcases h.position simulates i with ⟨last, there, -⟩ | ⟨call', there⟩ | ⟨entered, data, run⟩
    · rw [here] at there
      cases there
    · rw [here] at there
      cases there
    · obtain ⟨rest, data', same, outcome⟩ := run_of_access run
      rw [here] at same
      cases same
      obtain ⟨result, after, returned, -⟩ := safe whole.shared.1 call h.inv
      rw [returned] at outcome
      cases outcome

end LockedObject

end Quickstep.Lib
