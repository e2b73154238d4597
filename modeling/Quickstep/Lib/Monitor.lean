import Quickstep.Lib.Interleaving
import Mathlib.Logic.Relation

/-!
# Monitors

Threads run critical sections under one mutex. A section ends at a point of the thread, which may wait
on a condition variable there: the thread sleeps until a later section of another thread signals the
condition, or until it wakes for no reason, and then runs its next section.
-/

namespace Quickstep.Lib

/-- What a critical section does to the threads that sleep on a condition variable. -/
inductive Signal (γ : Type) where
  | none
  /-- One sleeping thread wakes up, whichever. -/
  | one (condition : γ)
  | all (condition : γ)

/-- Where a thread stands between two critical sections. -/
structure Place (π : Type) where
  point : π
  asleep : Bool

/-- The program of a monitor: the section a thread at a point runs on a request, and the condition
variable it waits on at a point. -/
structure Monitor (ρ σ γ π : Type) where
  critical : ρ → π → σ → π × σ × Signal γ
  waitsOn : π → Option γ

namespace Monitor

variable {ι ρ σ γ π : Type} (m : Monitor ρ σ γ π)

/-- The thread sleeps on the condition. -/
def SleepsOn (places : ι → Place π) (i : ι) (condition : γ) : Prop :=
  (places i).asleep = true ∧ m.waitsOn (places i).point = some condition

/-- Which threads a signal may wake up. -/
def Wakes (places : ι → Place π) (signal : Signal γ) (woken : ι → Bool) : Prop :=
  match signal with
  | .none => ∀ i, woken i = false
  | .one condition =>
    (∃ i, m.SleepsOn places i condition ∧ ∀ j, woken j = true ↔ j = i) ∨
      ((∀ i, ¬ m.SleepsOn places i condition) ∧ ∀ i, woken i = false)
  | .all condition => ∀ i, woken i = true ↔ m.SleepsOn places i condition

/-- The woken threads are awake. -/
def wake (woken : ι → Bool) (places : ι → Place π) (i : ι) : Place π :=
  ⟨(places i).point, (places i).asleep && !woken i⟩

variable {m} in
theorem sleepsOn_wake {woken : ι → Bool} {places : ι → Place π} {j : ι} {condition : γ} :
    m.SleepsOn (wake woken places) j condition ↔ m.SleepsOn places j condition ∧ woken j = false := by
  unfold SleepsOn wake
  rw [Bool.and_eq_true, Bool.not_eq_true', and_right_comm]

section Steps

variable [DecidableEq ι]

/-- The places when a thread has run its section, before its signal: it is asleep if it waits now. -/
def arrive (s : Threads ι σ (Place π)) (i : ι) (request : ρ) : ι → Place π :=
  let point := (m.critical request (s.points i).point s.shared).1
  Function.update s.points i ⟨point, (m.waitsOn point).isSome⟩

/-- One step of the threads. -/
inductive Step : Threads ι σ (Place π) → Threads ι σ (Place π) → Prop where
  /-- A thread that is awake runs its section. -/
  | enter (s : Threads ι σ (Place π)) (i : ι) (request : ρ) (woken : ι → Bool)
      (awake : (s.points i).asleep = false)
      (wakes : m.Wakes (m.arrive s i request)
        (m.critical request (s.points i).point s.shared).2.2 woken) :
      Step s ⟨(m.critical request (s.points i).point s.shared).2.1, wake woken (m.arrive s i request)⟩
  /-- A sleeping thread wakes up for no reason. -/
  | spurious (s : Threads ι σ (Place π)) (i : ι) :
      Step s ⟨s.shared, Function.update s.points i ⟨(s.points i).point, false⟩⟩

/-- The threads take steps. -/
def Run : Threads ι σ (Place π) → Threads ι σ (Place π) → Prop :=
  Relation.ReflTransGen m.Step

variable {m}

/-- **The rule for runs.** -/
theorem Run.invariant {Inv : Threads ι σ (Place π) → Prop}
    (keeps : ∀ s s', m.Step s s' → Inv s → Inv s') {s s' : Threads ι σ (Place π)} (run : m.Run s s')
    (start : Inv s) : Inv s' := by
  induction run with
  | refl => exact start
  | tail _ step ih => exact keeps _ _ step ih

/-- Where the threads are in their programs, asleep or awake. -/
def program (s : Threads ι σ (Place π)) : Threads ι σ π := ⟨s.shared, fun i => (s.points i).point⟩

/-- To their programs a step is a section of a thread that is awake, or nothing. -/
theorem Step.program_eq {s s' : Threads ι σ (Place π)} (step : m.Step s s') :
    program s' = program s ∨
      ∃ i request, (s.points i).asleep = false ∧
        program s' =
          ⟨(m.critical request (s.points i).point s.shared).2.1,
            Function.update (fun j => (s.points j).point) i
              (m.critical request (s.points i).point s.shared).1⟩ := by
  cases step with
  | enter i request woken awake wakes =>
    refine .inr ⟨i, request, awake, ?_⟩
    unfold program
    apply congrArg
    exact Function.comp_update Place.point s.points i _
  | spurious i =>
    left
    unfold program
    apply congrArg
    exact (Function.comp_update Place.point s.points i _).trans (Function.update_eq_self_iff.mpr rfl)

theorem sleepsOn_update_of_ne {places : ι → Place π} {i j : ι} {place : Place π}
    {condition : γ} (other : j ≠ i) :
    m.SleepsOn (Function.update places i place) j condition ↔ m.SleepsOn places j condition := by
  unfold SleepsOn
  rw [Function.update_of_ne other]

/-- **No wakeup is lost**, as a rule. A thread sleeps on a condition only while that blocks it, if each
section starts to wait only for what blocks it, and signals what it unblocks to all threads, or to one
where only one thread can sleep on it. -/
theorem Step.noLostWakeup {blocked : γ → σ → Prop} {s s' : Threads ι σ (Place π)}
    (step : m.Step s s')
    (waits : ∀ i request condition, (s.points i).asleep = false →
      m.waitsOn (m.critical request (s.points i).point s.shared).1 = some condition →
      blocked condition (m.critical request (s.points i).point s.shared).2.1)
    (signals : ∀ i request j condition, (s.points i).asleep = false → j ≠ i →
      m.SleepsOn s.points j condition → blocked condition s.shared →
      blocked condition (m.critical request (s.points i).point s.shared).2.1 ∨
        (m.critical request (s.points i).point s.shared).2.2 = .all condition ∨
        (m.critical request (s.points i).point s.shared).2.2 = .one condition ∧
          m.waitsOn (m.critical request (s.points i).point s.shared).1 ≠ some condition ∧
          ∀ k, k ≠ i → m.SleepsOn s.points k condition → k = j)
    (before : ∀ j condition, m.SleepsOn s.points j condition → blocked condition s.shared)
    (j : ι) (condition : γ) (sleeps : m.SleepsOn s'.points j condition) :
    blocked condition s'.shared := by
  cases step with
  | spurious i =>
    change m.SleepsOn (Function.update s.points i ⟨(s.points i).point, false⟩) j condition at sleeps
    by_cases same : j = i
    · subst same
      have asleep := sleeps.1
      rw [Function.update_self] at asleep
      cases asleep
    · exact before j condition ((sleepsOn_update_of_ne same).mp sleeps)
  | enter i request woken awake wakes =>
    obtain ⟨slept, notWoken⟩ := sleepsOn_wake.mp sleeps
    by_cases same : j = i
    · subst same
      have waiting := slept.2
      unfold arrive at waiting
      rw [Function.update_self] at waiting
      exact waits j request condition awake waiting
    · have sleptBefore := (sleepsOn_update_of_ne same).mp slept
      rcases signals i request j condition awake same sleptBefore (before j condition sleptBefore) with
        still | all | ⟨one, elsewhere, only⟩
      · exact still
      · rw [all] at wakes
        exact absurd ((wakes j).mpr slept) (Bool.eq_false_iff.mp notWoken)
      · rw [one] at wakes
        rcases wakes with ⟨k, sleeper, wokenIff⟩ | ⟨nobody, _⟩
        · have other : k ≠ i := by
            rintro rfl
            have waitsThere := sleeper.2
            unfold arrive at waitsThere
            rw [Function.update_self] at waitsThere
            exact elsewhere waitsThere
          have sleeperBefore := (sleepsOn_update_of_ne other).mp sleeper
          have isWoken := (wokenIff j).mpr (only k other sleeperBefore).symm
          exact absurd isWoken (Bool.eq_false_iff.mp notWoken)
        · exact absurd slept (nobody j)

end Steps

end Monitor

/-! ## Histories -/

/-- The calls of a history, with what they returned, lead from one state of an object to another when
they are made one after the other. -/
inductive Explains {call object : Type} (returns : object → call → object → Prop) (start : object) :
    List call → object → Prop where
  | nil : Explains returns start [] start
  | snoc {history : List call} {before after : object} {next : call} :
      Explains returns start history before → returns before next after →
      Explains returns start (history ++ [next]) after

/-- **The rule for histories.** -/
theorem Explains.invariant {call object : Type} {returns : object → call → object → Prop}
    {start final : object} {history : List call} (Inv : List call → object → Prop) (nil : Inv [] start)
    (snoc : ∀ history before next after, returns before next after → Inv history before →
      Inv (history ++ [next]) after)
    (explains : Explains returns start history final) : Inv history final := by
  induction explains with
  | nil => exact nil
  | snoc _ returned ih => exact snoc _ _ _ _ returned ih

end Quickstep.Lib
