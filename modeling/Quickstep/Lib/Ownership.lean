import Mathlib.Logic.Equiv.Basic
import Quickstep.Lib.ObjectHeap

/-!
# Unique owners

Each object on a heap has exactly one owner, who deletes it or hands it on. Then no deletion is
undefined, nobody deletes the object of another owner, and an object without an owner, which nobody could
delete any more, does not exist.
-/

namespace Quickstep.Lib

/-- The objects on the heap are those that are owned, each by one owner. -/
structure Owned {ι α : Type} (heap : Heap α) (owns : ι → Option Pointer) : Prop where
  live : ∀ i p, owns i = some p → ∃ object, heap.Live p object
  unique : ∀ i j p, owns i = some p → owns j = some p → i = j
  owner : ∀ p object, heap.Live p object → ∃ i, owns i = some p

namespace Heap

variable {α : Type} {heap : Heap α} {p : Pointer} {object other : α}

/-- What is live after an allocation. -/
theorem live_alloc_iff : (heap.alloc object).Live p other ↔ heap.Live p other ∨ p = heap.next ∧ object = other := by
  unfold Live Heap.alloc Heap.next
  rw [List.getElem?_append]
  split
  · next inside => simp [Nat.ne_of_lt inside]
  · next outside =>
    rw [List.getElem?_eq_none (Nat.le_of_not_lt outside)]
    by_cases same : p = heap.cells.length
    · simp [same]
    · have beyond : [some object].length ≤ p - heap.cells.length :=
        Nat.sub_pos_of_lt (Nat.lt_of_le_of_ne (Nat.le_of_not_lt outside) (Ne.symm same))
      rw [List.getElem?_eq_none beyond]
      simp [same]

end Heap

namespace Owned

open Heap

variable {ι α : Type} {heap : Heap α} {owns owns' : ι → Option Pointer} {i j : ι} {p : Pointer}
  {object : α}

theorem empty (noOwner : ∀ i : ι, owns i = none) : Owned (Heap.empty : Heap α) owns where
  live i p isOwner := by
    rw [noOwner] at isOwner
    cases isOwner
  unique i j p isOwner := by
    rw [noOwner] at isOwner
    cases isOwner
  owner p object live := by
    unfold Live Heap.empty at live
    cases live

/-- Without owners there are no objects. -/
theorem not_live (h : Owned heap owns) (noOwner : ∀ i, owns i = none) (p : Pointer) (object : α) :
    ¬ heap.Live p object := by
  intro live
  obtain ⟨i, isOwner⟩ := h.owner p object live
  rw [noOwner] at isOwner
  cases isOwner

/-- Only what the owners own matters. -/
theorem congr (h : Owned heap owns) (same : ∀ i, owns' i = owns i) : Owned heap owns' := by
  rwa [show owns' = owns from funext same]

theorem ne_next (h : Owned heap owns) (isOwner : owns i = some p) : p ≠ heap.next := by
  obtain ⟨object, live⟩ := h.live i p isOwner
  exact live.ne_next

variable [DecidableEq ι]

/-- An allocation, for one who owns nothing. -/
theorem alloc (h : Owned heap owns) (free : owns i = none) (object : α) :
    Owned (heap.alloc object) (Function.update owns i (some heap.next)) where
  live j q isOwner := by
    by_cases same : j = i
    · subst same
      rw [Function.update_self] at isOwner
      cases isOwner
      exact ⟨object, live_alloc_next heap object⟩
    · rw [Function.update_of_ne same] at isOwner
      obtain ⟨other, live⟩ := h.live j q isOwner
      exact ⟨other, live.alloc object⟩
  unique j k q isOwner isOwner' := by
    by_cases same : j = i <;> by_cases same' : k = i
    · rw [same, same']
    · subst same
      rw [Function.update_self] at isOwner
      rw [Function.update_of_ne same'] at isOwner'
      cases isOwner
      exact absurd rfl (h.ne_next isOwner')
    · subst same'
      rw [Function.update_of_ne same] at isOwner
      rw [Function.update_self] at isOwner'
      cases isOwner'
      exact absurd rfl (h.ne_next isOwner)
    · rw [Function.update_of_ne same] at isOwner
      rw [Function.update_of_ne same'] at isOwner'
      exact h.unique j k q isOwner isOwner'
  owner q other live := by
    rcases live_alloc_iff.mp live with before | ⟨isNext, _⟩
    · obtain ⟨j, isOwner⟩ := h.owner q other before
      have different : j ≠ i := by
        rintro rfl
        cases free.symm.trans isOwner
      exact ⟨j, by rwa [Function.update_of_ne different]⟩
    · exact ⟨i, by rw [Function.update_self, isNext]⟩

omit [DecidableEq ι] in
/-- **A store by the owner** is defined, and changes no other object. -/
theorem store (h : Owned heap owns) (isOwner : owns i = some p) (object : α) :
    ∃ heap', heap.store p object = .ok heap' ∧ Owned heap' owns ∧
      ∀ q other, q ≠ p → (heap'.Live q other ↔ heap.Live q other) := by
  obtain ⟨before, live⟩ := h.live i p isOwner
  obtain ⟨heap', run, here, others⟩ := store_spec live object
  refine ⟨heap', run, ⟨fun j q owner => ?_, h.unique, fun q other liveAfter => ?_⟩, others⟩
  · by_cases same : q = p
    · exact ⟨object, same ▸ here⟩
    · obtain ⟨other, liveBefore⟩ := h.live j q owner
      exact ⟨other, (others q other same).mpr liveBefore⟩
  · by_cases same : q = p
    · exact ⟨i, same ▸ isOwner⟩
    · exact h.owner q other ((others q other same).mp liveAfter)

/-- **A deletion by the owner** is defined, and the other objects stay. -/
theorem free (h : Owned heap owns) (isOwner : owns i = some p) :
    ∃ heap', heap.free p = .ok heap' ∧ Owned heap' (Function.update owns i none) ∧
      ∀ q other, heap'.Live q other ↔ q ≠ p ∧ heap.Live q other := by
  obtain ⟨object, live⟩ := h.live i p isOwner
  obtain ⟨heap', run, after⟩ := free_spec live
  have others {j : ι} {q : Pointer} (owner : Function.update owns i none j = some q) :
      j ≠ i ∧ owns j = some q := by
    have different : j ≠ i := by
      rintro rfl
      rw [Function.update_self] at owner
      cases owner
    rw [Function.update_of_ne different] at owner
    exact ⟨different, owner⟩
  refine ⟨heap', run, ⟨fun j q owner => ?_, fun j k q owner owner' => ?_, fun q other liveAfter => ?_⟩, after⟩
  · obtain ⟨different, owner⟩ := others owner
    obtain ⟨other, liveBefore⟩ := h.live j q owner
    refine ⟨other, (after q other).mpr ⟨?_, liveBefore⟩⟩
    rintro rfl
    exact different (h.unique j i q owner isOwner)
  · exact h.unique j k q (others owner).2 (others owner').2
  · obtain ⟨different, liveBefore⟩ := (after q other).mp liveAfter
    obtain ⟨j, owner⟩ := h.owner q other liveBefore
    have notThis : j ≠ i := by
      rintro rfl
      exact different (Option.some.inj (owner.symm.trans isOwner))
    exact ⟨j, by rwa [Function.update_of_ne notThis]⟩

/-- An owner hands on what it owns to one who owns nothing. -/
theorem move (h : Owned heap owns) (i : ι) (free : owns j = none) :
    Owned heap (Function.update (Function.update owns i none) j (owns i)) := by
  have moved (k : ι) : Function.update (Function.update owns i none) j (owns i) k =
      owns (Equiv.swap i j k) := by
    by_cases atTarget : k = j
    · rw [atTarget, Function.update_self, Equiv.swap_apply_right]
    · rw [Function.update_of_ne atTarget]
      by_cases atSource : k = i
      · rw [atSource, Function.update_self, Equiv.swap_apply_left, free]
      · rw [Function.update_of_ne atSource, Equiv.swap_apply_of_ne_of_ne atSource atTarget]
  have swapped : Owned heap (owns ∘ Equiv.swap i j) := by
    refine ⟨?_, ?_, ?_⟩
    · exact fun k p isOwner => h.live _ p isOwner
    · exact fun k l p isOwner isOwner' => (Equiv.swap i j).injective (h.unique _ _ p isOwner isOwner')
    · intro p object live
      obtain ⟨k, isOwner⟩ := h.owner p object live
      exact ⟨Equiv.swap i j k, by rwa [Function.comp_apply, Equiv.swap_apply_self]⟩
  exact swapped.congr moved

end Owned

end Quickstep.Lib
