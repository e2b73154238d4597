import Mathlib.Algebra.BigOperators.Fin
import Mathlib.Data.Fintype.Card
import Mathlib.Logic.Function.Basic

/-!
# Interleaved threads

Threads at program points take turns on a shared state. What every turn preserves holds after every
schedule; for properties of one thread that the others cannot spoil it is enough that each turn only
lets the shared state grow. Threads at selected points are counted.
-/

namespace Quickstep.Lib

/-- Threads with their program points, over a shared state. -/
structure Threads (ι σ π : Type) where
  shared : σ
  points : ι → π

namespace Threads

section Turns

variable {ι σ π ρ : Type} [DecidableEq ι] (advance : ρ → π → σ → π × σ)

/-- One thread takes one step. -/
def turn (s : Threads ι σ π) (i : ι) (request : ρ) : Threads ι σ π where
  shared := (advance request (s.points i) s.shared).2
  points := Function.update s.points i (advance request (s.points i) s.shared).1

/-- The threads of a schedule take their turns. -/
def interleave (s : Threads ι σ π) (schedule : List (ι × ρ)) : Threads ι σ π :=
  schedule.foldl (fun s next => s.turn advance next.1 next.2) s

variable {advance}

@[simp] theorem turn_points_self (s : Threads ι σ π) (i : ι) (request : ρ) :
    (s.turn advance i request).points i = (advance request (s.points i) s.shared).1 :=
  Function.update_self _ _ _

theorem turn_points_of_ne {s : Threads ι σ π} {i j : ι} {request : ρ} (other : j ≠ i) :
    (s.turn advance i request).points j = s.points j :=
  Function.update_of_ne other _ _

/-- **The rule for schedules.** -/
theorem interleave_invariant (Inv : Threads ι σ π → Prop) {s : Threads ι σ π} (start : Inv s)
    (keeps : ∀ s i request, Inv s → Inv (s.turn advance i request)) (schedule : List (ι × ρ)) :
    Inv (s.interleave advance schedule) := by
  induction schedule generalizing s with
  | nil => exact start
  | cons next schedule ih => exact ih (keeps s next.1 next.2 start)

/-- **Rely and guarantee.** If each step keeps the shared state sound and the stepping thread in order,
and only lets the shared state grow, which leaves every other thread in order, then all threads are in
order after every schedule. -/
theorem interleave_ok {grows : σ → σ → Prop} {sound : σ → Prop} {ok : σ → π → Prop}
    (stable : ∀ shared shared' point, grows shared shared' → ok shared point → ok shared' point)
    (step : ∀ request point shared, sound shared → ok shared point →
      grows shared (advance request point shared).2 ∧ sound (advance request point shared).2 ∧
        ok (advance request point shared).2 (advance request point shared).1)
    {s : Threads ι σ π} (start : sound s.shared) (inOrder : ∀ i, ok s.shared (s.points i))
    (schedule : List (ι × ρ)) :
    sound (s.interleave advance schedule).shared ∧
      ∀ i, ok (s.interleave advance schedule).shared ((s.interleave advance schedule).points i) := by
  apply interleave_invariant (fun s => sound s.shared ∧ ∀ i, ok s.shared (s.points i)) ⟨start, inOrder⟩
  rintro s i request ⟨start, inOrder⟩
  obtain ⟨growth, sound', ok'⟩ := step request (s.points i) s.shared start (inOrder i)
  refine ⟨sound', fun j => ?_⟩
  by_cases same : j = i
  · subst same
    rw [turn_points_self]
    exact ok'
  · rw [turn_points_of_ne same]
    exact stable _ _ _ growth (inOrder j)

/-- What one sees of the threads when parts of the shared state and of the program points are hidden. -/
def view {σ' π' : Type} (shared : σ → σ') (point : π → π') (s : Threads ι σ π) : Threads ι σ' π' :=
  ⟨shared s.shared, fun i => point (s.points i)⟩

/-- **Hiding.** A step is seen as a step of the threads that are seen, or not at all. -/
theorem view_turn {σ' π' ρ' : Type} (advance' : ρ' → π' → σ' → π' × σ') {shared : σ → σ'}
    {point : π → π'} {s : Threads ι σ π} {i : ι} {request : ρ}
    (seen : (point (advance request (s.points i) s.shared).1,
        shared (advance request (s.points i) s.shared).2) = (point (s.points i), shared s.shared) ∨
      ∃ request', (point (advance request (s.points i) s.shared).1,
        shared (advance request (s.points i) s.shared).2) =
          advance' request' (point (s.points i)) (shared s.shared)) :
    (s.turn advance i request).view shared point = s.view shared point ∨
      ∃ request', (s.turn advance i request).view shared point =
        (s.view shared point).turn advance' i request' := by
  have moved : (s.turn advance i request).view shared point =
      ⟨shared (advance request (s.points i) s.shared).2,
        Function.update (s.view shared point).points i (point (advance request (s.points i) s.shared).1)⟩ :=
    congrArg _ (Function.comp_update point s.points i _)
  rcases seen with same | ⟨request', same⟩
  · left
    obtain ⟨samePoint, sameShared⟩ := Prod.mk.inj same
    rw [moved, samePoint, sameShared]
    exact congrArg _ (Function.update_eq_self i _)
  · right
    have samePoint := congrArg Prod.fst same
    have sameShared := congrArg Prod.snd same
    refine ⟨request', ?_⟩
    rw [moved, turn]
    exact congrArg₂ Threads.mk sameShared (congrArg (Function.update _ i) samePoint)

end Turns

section Counting

variable {ι π : Type} [Fintype ι] (selected : π → Bool) (points : ι → π)

/-- How many threads are at selected points. -/
def count : Nat := (Finset.univ.filter fun i => selected (points i) = true).card

theorem count_eq_sum : count selected points = ∑ i, (selected (points i)).toNat := by
  unfold count
  rw [Finset.card_filter]
  apply Finset.sum_congr rfl
  intro i _
  cases selected (points i) <;> rfl

/-- A step changes the count by what it changes at its thread. -/
theorem count_update [DecidableEq ι] (i : ι) (point : π) :
    count selected (Function.update points i point) + (selected (points i)).toNat =
      count selected points + (selected point).toNat := by
  have others : ∑ j ∈ Finset.univ.erase i, (selected (Function.update points i point j)).toNat =
      ∑ j ∈ Finset.univ.erase i, (selected (points j)).toNat := by
    apply Finset.sum_congr rfl
    intro j other
    rw [Function.update_of_ne (Finset.ne_of_mem_erase other)]
  rw [count_eq_sum, count_eq_sum, ← Finset.add_sum_erase _ _ (Finset.mem_univ i), others,
    ← Finset.add_sum_erase _ _ (Finset.mem_univ i), Function.update_self]
  omega

variable {selected points}

theorem count_pos_iff : 0 < count selected points ↔ ∃ i, selected (points i) = true := by
  unfold count
  rw [Finset.card_pos]
  simp [Finset.Nonempty]

/-- While a thread is elsewhere not all threads are counted. -/
theorem count_lt_card {i : ι} (elsewhere : selected (points i) = false) :
    count selected points < Fintype.card ι := by
  apply Finset.card_lt_card
  rw [Finset.filter_ssubset]
  exact ⟨i, Finset.mem_univ i, by simp [elsewhere]⟩

/-- More points selected, more threads counted. -/
theorem count_le_count {selected' : π → Bool} (more : ∀ p, selected p = true → selected' p = true) :
    count selected points ≤ count selected' points := by
  apply Finset.card_le_card
  intro i mem
  simp only [Finset.mem_filter, Finset.mem_univ, true_and] at mem ⊢
  exact more _ mem

/-- Two threads at selected points. -/
theorem one_lt_count {i j : ι} (different : i ≠ j) (first : selected (points i) = true)
    (second : selected (points j) = true) : 1 < count selected points := by
  apply Finset.one_lt_card.mpr
  exact ⟨i, by simpa using first, j, by simpa using second, different⟩

end Counting

end Threads

end Quickstep.Lib
