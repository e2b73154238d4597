import Mathlib.Logic.Relation
import Quickstep.Lib.Interleaving

/-!
# Critical sections

Threads lock a mutex in exclusive or in shared mode, access data one step at a time, and unlock the mutex.
Nothing of a critical section is seen by others before its end: whatever the order of the steps, the data
are what they are when each section is one step.
-/

namespace Quickstep.Lib

/-- Where a thread stands with a mutex. -/
inductive Standing where
  | outside
  | waiting (exclusive : Bool)
  | inside (exclusive : Bool)
  deriving DecidableEq

/-- A mutex with an exclusive and a shared mode: what it does for a thread step by step, and what it
guarantees. -/
structure SharedLock (ι Word Point : Type) [DecidableEq ι] where
  advance : Bool → Point → Word → Point × Word
  standing : Point → Standing
  Inv : Threads ι Word Point → Prop
  ask : ∀ {point} exclusive word, standing point = .outside →
    standing (advance exclusive point word).1 = .waiting exclusive ∨
      standing (advance exclusive point word).1 = .inside exclusive
  wait : ∀ {point exclusive} wants word, standing point = .waiting exclusive →
    standing (advance wants point word).1 = .waiting exclusive ∨
      standing (advance wants point word).1 = .inside exclusive
  leave : ∀ {point exclusive} wants word, standing point = .inside exclusive →
    standing (advance wants point word).1 = .outside
  turn : ∀ {s} i wants, Inv s → Inv (s.turn advance i wants)
  exclusion : ∀ {s} {i j : ι} {exclusive}, Inv s → i ≠ j → standing (s.points i) = .inside true →
    standing (s.points j) ≠ .inside exclusive

/-- What a thread does next. The end of a section is an event. -/
inductive SectionAction (Request Data Event Local : Type) where
  | call (start : Request → Local)
  | lock (exclusive : Bool) (entry : Local)
  | access (step : Data → Local × Data)
  | unlock (event : Event) (left : Local)

/-- What threads do by what is their own. Sections in shared mode only read. -/
structure SectionProgram (Request Data Event Local : Type) where
  next : Local → SectionAction Request Data Event Local
  reads : Local → Prop
  reads_lock : ∀ {own entry}, next own = .lock false entry → reads entry
  reads_access : ∀ {own step} data, reads own → next own = .access step →
    reads (step data).1 ∧ (step data).2 = data

/-- The word of a mutex and the data that it guards. No thread reads the log of the sections that are over. -/
structure Guarded (Word Data Event : Type) where
  word : Word
  data : Data
  log : List Event

section Machines

variable {ι Word Point Request Data Event Local : Type} [DecidableEq ι] (lock : SharedLock ι Word Point)
  (program : SectionProgram Request Data Event Local)

/-- One step of a thread: an operation on the mutex, an access, or the begin of a call. A thread that locks
what it has locked, or accesses what it has not, is stuck. -/
def SharedLock.advanceProgram (request : Request) (thread : Point × Local) (state : Guarded Word Data Event) :
    (Point × Local) × Guarded Word Data Event :=
  let moved (exclusive : Bool) := lock.advance exclusive thread.1 state.word
  match lock.standing thread.1, program.next thread.2 with
  | .outside, .call start => ((thread.1, start request), state)
  | .outside, .lock exclusive entry => (((moved exclusive).1, entry), { state with word := (moved exclusive).2 })
  | .waiting exclusive, _ => (((moved exclusive).1, thread.2), { state with word := (moved exclusive).2 })
  | .inside _, .access step =>
    ((thread.1, (step state.data).1), { state with data := (step state.data).2 })
  | .inside exclusive, .unlock event left =>
    (((moved exclusive).1, left),
      { state with word := (moved exclusive).2, log := state.log ++ [event] })
  | _, _ => (thread, state)

/-- An access, with nothing between it and the next one. -/
inductive SectionProgram.Access : Local × Data → Local × Data → Prop
  | step {own : Local} {step : Data → Local × Data} (data : Data) :
    program.next own = .access step → Access (own, data) (step data)

/-- A whole section in one step, or the begin of a call. -/
inductive SectionProgram.Whole : Threads ι (Data × List Event) Local → Threads ι (Data × List Event) Local → Prop
  | call {s : Threads ι (Data × List Event) Local} {i : ι} {start : Request → Local} (request : Request) :
    program.next (s.points i) = .call start →
    Whole s ⟨s.shared, Function.update s.points i (start request)⟩
  | whole {s : Threads ι (Data × List Event) Local} {i : ι} {exclusive : Bool} {entry exit left : Local}
    {event : Event} {data : Data} :
    program.next (s.points i) = .lock exclusive entry →
    Relation.ReflTransGen program.Access (entry, s.shared.1) (exit, data) →
    program.next exit = .unlock event left →
    Whole s ⟨(data, s.shared.2 ++ [event]), Function.update s.points i left⟩

/-- What a thread is at, if the sections that are not over have not begun: it stands in front of its section,
and has come by accesses from the entry to where it is. -/
def SectionProgram.Follows (before : Data) (data : Data) (own : Local) (thread : Point × Local) : Prop :=
  match lock.standing thread.1 with
  | .outside => thread.2 = own
  | .waiting exclusive => program.next own = .lock exclusive thread.2
  | .inside exclusive => ∃ entry, program.next own = .lock exclusive entry ∧
    (exclusive = false → program.reads thread.2) ∧
    Relation.ReflTransGen program.Access (entry, before) (thread.2, data)

/-- The threads, and the same threads without the sections that are not over. -/
structure SectionProgram.Simulates (s : Threads ι (Guarded Word Data Event) (Point × Local))
    (whole : Threads ι (Data × List Event) Local) : Prop where
  mutex : lock.Inv (s.view Guarded.word Prod.fst)
  log : s.shared.log = whole.shared.2
  follows : ∀ i, program.Follows lock whole.shared.1 s.shared.data (whole.points i) (s.points i)
  data : (∀ i, lock.standing (s.points i).1 ≠ .inside true) → s.shared.data = whole.shared.1

variable {lock program}

namespace SectionProgram

variable {before data data' : Data} {own : Local} {thread : Point × Local} {exclusive : Bool}
  {s : Threads ι (Guarded Word Data Event) (Point × Local)} {whole : Threads ι (Data × List Event) Local} {i : ι}

/-- Data concern a thread only inside the mutex. -/
theorem Follows.of_not_inside (h : program.Follows lock before data own thread) {before' data' : Data}
    (notInside : ∀ exclusive, lock.standing thread.1 ≠ .inside exclusive) :
    program.Follows lock before' data' own thread := by
  unfold Follows at h ⊢
  cases here : lock.standing thread.1 with
  | outside => simpa [here] using h
  | waiting exclusive => simpa [here] using h
  | inside exclusive => exact absurd here (notInside exclusive)

theorem Follows.eq_of_outside (h : program.Follows lock before data own thread)
    (here : lock.standing thread.1 = .outside) : thread.2 = own := by
  simpa [Follows, here] using h

theorem Follows.lock_of_waiting (h : program.Follows lock before data own thread)
    (here : lock.standing thread.1 = .waiting exclusive) : program.next own = .lock exclusive thread.2 := by
  simpa [Follows, here] using h

theorem Follows.entry_of_inside (h : program.Follows lock before data own thread)
    (here : lock.standing thread.1 = .inside exclusive) :
    ∃ entry, program.next own = .lock exclusive entry ∧ (exclusive = false → program.reads thread.2) ∧
      Relation.ReflTransGen program.Access (entry, before) (thread.2, data) := by
  simpa [Follows, here] using h

/-- While a thread is inside and does not write the data are those before the sections. -/
theorem Simulates.data_of_inside (h : program.Simulates lock s whole)
    (here : lock.standing (s.points i).1 = .inside false) : s.shared.data = whole.shared.1 := by
  apply h.data
  intro j writes
  by_cases same : j = i
  · rw [same, here] at writes
    cases writes
  · exact lock.exclusion h.mutex same writes here

theorem view_update (state : Guarded Word Data Event) (points : ι → Point × Local) (i : ι) (point : Point)
    (own : Local) :
    (⟨state, Function.update points i (point, own)⟩ : Threads ι (Guarded Word Data Event) (Point × Local)).view
        Guarded.word Prod.fst = ⟨state.word, Function.update (fun j => (points j).1) i point⟩ :=
  congrArg _ (Function.comp_update Prod.fst points i (point, own))

/-- **On the way into the mutex**: a thread that asks for it, or waits. -/
theorem Simulates.enter (h : program.Simulates lock s whole) {point : Point} {word : Word} {entry : Local}
    (notInside : ∀ exclusive, lock.standing (s.points i).1 ≠ .inside exclusive)
    (asks : program.next (whole.points i) = .lock exclusive entry)
    (moved : lock.standing point = .waiting exclusive ∨ lock.standing point = .inside exclusive)
    (mutex : lock.Inv ⟨word, Function.update (s.view Guarded.word Prod.fst).points i point⟩) :
    program.Simulates lock ⟨{ s.shared with word }, Function.update s.points i (point, entry)⟩ whole := by
  have noWriter (enters : lock.standing point = .inside exclusive) (j : ι) :
      lock.standing (s.points j).1 ≠ .inside true := by
    intro writes
    by_cases same : j = i
    · exact notInside true (same ▸ writes)
    · have there := congrArg lock.standing
        (Function.update_of_ne same point (s.view Guarded.word Prod.fst).points)
      have here := congrArg lock.standing
        (Function.update_self i point (s.view Guarded.word Prod.fst).points)
      exact lock.exclusion mutex same (there.trans writes) (here.trans enters)
  refine ⟨?_, h.log, fun j => ?_, fun noWriter => ?_⟩
  · rw [view_update]
    exact mutex
  · by_cases same : j = i
    · subst same
      show Follows _ _ _ _ _ (Function.update s.points j (point, entry) j)
      rw [Function.update_self]
      unfold Follows
      rcases moved with waits | enters
      · simpa [waits] using asks
      · simp only [enters]
        refine ⟨entry, asks, fun shared => program.reads_lock (shared ▸ asks), ?_⟩
        rw [show s.shared.data = whole.shared.1 from h.data (noWriter enters)]
    · show Follows _ _ _ _ _ (Function.update s.points i (point, entry) j)
      rw [Function.update_of_ne same]
      exact h.follows j
  · apply h.data
    intro j writes
    by_cases same : j = i
    · exact notInside true (same ▸ writes)
    · apply noWriter j
      show lock.standing (Function.update s.points i (point, entry) j).1 = _
      rw [Function.update_of_ne same]
      exact writes

/-- A step outside the mutex. -/
theorem Simulates.call (h : program.Simulates lock s whole) (here : lock.standing (s.points i).1 = .outside)
    (own : Local) :
    program.Simulates lock ⟨s.shared, Function.update s.points i ((s.points i).1, own)⟩
      ⟨whole.shared, Function.update whole.points i own⟩ := by
  refine ⟨?_, h.log, fun j => ?_, fun noWriter => h.data fun j => ?_⟩
  · rw [view_update, Function.update_eq_self]
    exact h.mutex
  · show Follows _ _ _ _ (Function.update whole.points i _ j) (Function.update s.points i _ j)
    by_cases same : j = i
    · subst same
      rw [Function.update_self, Function.update_self]
      simp only [Follows, here]
    · rw [Function.update_of_ne same, Function.update_of_ne same]
      exact h.follows j
  · by_cases same : j = i
    · simp [same, here]
    · have there : lock.standing (Function.update s.points i ((s.points i).1, own) j).1 ≠ .inside true := noWriter j
      rwa [Function.update_of_ne same] at there

/-- **An access** of a thread inside the mutex. -/
theorem Simulates.access (h : program.Simulates lock s whole) {step : Data → Local × Data}
    (here : lock.standing (s.points i).1 = .inside exclusive)
    (accesses : program.next (s.points i).2 = .access step) :
    program.Simulates lock ⟨{ s.shared with data := (step s.shared.data).2 },
      Function.update s.points i ((s.points i).1, (step s.shared.data).1)⟩ whole := by
  obtain ⟨entry, asks, reads, run⟩ := (h.follows i).entry_of_inside here
  have read (shared : exclusive = false) : program.reads (step s.shared.data).1 ∧
      (step s.shared.data).2 = s.shared.data :=
    program.reads_access s.shared.data (reads shared) accesses
  refine ⟨?_, h.log, fun j => ?_, fun noWriter => ?_⟩
  · rw [view_update, Function.update_eq_self]
    exact h.mutex
  · show Follows _ _ _ _ _ (Function.update s.points i _ j)
    by_cases same : j = i
    · subst same
      rw [Function.update_self]
      unfold Follows
      simp only [here]
      exact ⟨entry, asks, fun shared => (read shared).1, run.tail (.step s.shared.data accesses)⟩
    · rw [Function.update_of_ne same]
      cases exclusive with
      | true => exact (h.follows j).of_not_inside fun _ => lock.exclusion h.mutex (Ne.symm same) here
      | false =>
        show Follows _ _ _ (step s.shared.data).2 _ _
        rw [(read rfl).2]
        exact h.follows j
  · cases exclusive with
    | true =>
      refine absurd ?_ (noWriter i)
      show lock.standing (Function.update s.points i _ i).1 = _
      rw [Function.update_self]
      exact here
    | false =>
      show (step s.shared.data).2 = _
      rw [(read rfl).2, h.data_of_inside here]

/-- **The end of a section**, which is one step now. -/
theorem Simulates.unlock (h : program.Simulates lock s whole) {point : Point} {word : Word} {event : Event} {left : Local}
    (here : lock.standing (s.points i).1 = .inside exclusive)
    (unlocks : program.next (s.points i).2 = .unlock event left) (moved : lock.standing point = .outside)
    (mutex : lock.Inv ⟨word, Function.update (s.view Guarded.word Prod.fst).points i point⟩) :
    program.Simulates lock
        ⟨{ s.shared with word, log := s.shared.log ++ [event] }, Function.update s.points i (point, left)⟩
        ⟨(s.shared.data, whole.shared.2 ++ [event]), Function.update whole.points i left⟩ ∧
      program.Whole whole
        ⟨(s.shared.data, whole.shared.2 ++ [event]), Function.update whole.points i left⟩ := by
  obtain ⟨entry, asks, -, run⟩ := (h.follows i).entry_of_inside here
  refine ⟨⟨?_, ?_, fun j => ?_, fun _ => rfl⟩, .whole asks run unlocks⟩
  · rw [view_update]
    exact mutex
  · exact congrArg (· ++ _) h.log
  · show Follows _ _ s.shared.data s.shared.data (Function.update whole.points i left j)
      (Function.update s.points i _ j)
    by_cases same : j = i
    · subst same
      rw [Function.update_self, Function.update_self]
      simp only [Follows, moved]
    · rw [Function.update_of_ne same, Function.update_of_ne same]
      cases exclusive with
      | true => exact (h.follows j).of_not_inside fun _ => lock.exclusion h.mutex (Ne.symm same) here
      | false =>
        have follows := h.follows j
        rwa [← h.data_of_inside here] at follows

/-- **One step** of a thread is a step of the threads with whole sections, or none. -/
theorem Simulates.turn (h : program.Simulates lock s whole) (i : ι) (request : Request) :
    ∃ whole', (whole' = whole ∨ program.Whole whole whole') ∧
      program.Simulates lock (s.turn (lock.advanceProgram program) i request) whole' := by
  have follows := h.follows i
  unfold Threads.turn SharedLock.advanceProgram
  cases here : lock.standing (s.points i).1 with
  | outside =>
    have same := follows.eq_of_outside here
    have notInside (exclusive : Bool) : lock.standing (s.points i).1 ≠ .inside exclusive := by simp [here]
    cases next : program.next (s.points i).2 with
    | call start =>
      exact ⟨_, .inr (.call request (same ▸ next)), h.call here (start request)⟩
    | lock exclusive entry =>
      exact ⟨whole, .inl rfl, h.enter notInside (same ▸ next) (lock.ask exclusive _ here)
        (lock.turn i exclusive h.mutex)⟩
    | access step =>
      refine ⟨whole, .inl rfl, ?_⟩
      simpa only [Function.update_eq_self] using h
    | unlock event left =>
      refine ⟨whole, .inl rfl, ?_⟩
      simpa only [Function.update_eq_self] using h
  | waiting exclusive =>
    exact ⟨whole, .inl rfl, h.enter (by simp [here]) (follows.lock_of_waiting here)
      (lock.wait exclusive _ here) (lock.turn i exclusive h.mutex)⟩
  | inside exclusive =>
    cases next : program.next (s.points i).2 with
    | access step => exact ⟨whole, .inl rfl, h.access here next⟩
    | unlock event left =>
      obtain ⟨simulates, step⟩ := h.unlock here next (lock.leave exclusive s.shared.word here)
        (lock.turn i exclusive h.mutex)
      exact ⟨_, .inr step, simulates⟩
    | call start =>
      refine ⟨whole, .inl rfl, ?_⟩
      simpa only [Function.update_eq_self] using h
    | lock exclusive entry =>
      refine ⟨whole, .inl rfl, ?_⟩
      simpa only [Function.update_eq_self] using h

/-- All threads outside the mutex. -/
theorem simulates_start {word : Word} {data : Data} {points : ι → Point × Local}
    (mutex : lock.Inv ⟨word, fun i => (points i).1⟩) (outside : ∀ i, lock.standing (points i).1 = .outside) :
    program.Simulates lock ⟨⟨word, data, []⟩, points⟩ ⟨(data, []), fun i => (points i).2⟩ where
  mutex := mutex
  log := rfl
  follows i := by simp [Follows, outside i]
  data _ := rfl

/-- **The rule for critical sections.** What whole sections preserve, one after the other, holds after every
schedule of the threads' steps, but for the sections that are not over. -/
theorem interleave_simulates (Inv : Threads ι (Data × List Event) Local → Prop) (start : Inv whole)
    (keeps : ∀ whole whole', program.Whole whole whole' → Inv whole → Inv whole')
    (h : program.Simulates lock s whole) (schedule : List (ι × Request)) :
    ∃ whole', Inv whole' ∧
      program.Simulates lock (s.interleave (lock.advanceProgram program) schedule) whole' := by
  apply Threads.interleave_invariant (fun s => ∃ whole', Inv whole' ∧ program.Simulates lock s whole')
  · exact ⟨whole, start, h⟩
  · rintro s i request ⟨whole, before, h⟩
    obtain ⟨whole', step, h'⟩ := h.turn i request
    rcases step with rfl | step
    · exact ⟨whole', before, h'⟩
    · exact ⟨whole', keeps whole whole' step before, h'⟩

/-- No two threads access the data at once, unless both only read. -/
theorem Simulates.noRace (h : program.Simulates lock s whole) {j : ι} {other : Bool} (different : i ≠ j)
    (here : lock.standing (s.points i).1 = .inside exclusive)
    (there : lock.standing (s.points j).1 = .inside other) : exclusive = false ∧ other = false := by
  constructor
  · apply Bool.eq_false_iff.mpr
    rintro rfl
    exact lock.exclusion h.mutex different here there
  · apply Bool.eq_false_iff.mpr
    rintro rfl
    exact lock.exclusion h.mutex (Ne.symm different) there here

end SectionProgram

end Machines

end Quickstep.Lib
