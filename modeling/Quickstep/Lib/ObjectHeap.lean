import Quickstep.Lib.WhileLoop

/-!
# Objects behind pointers

A heap of objects of one type. Access to an object that has been deleted is undefined behaviour, and so
is deleting it again; the pointer of a deleted object is not used for another one.
-/

namespace Quickstep.Lib

abbrev Pointer := Nat

/-- The objects by their pointers, `none` for the deleted ones. -/
structure Heap (α : Type) where
  cells : List (Option α)

namespace Heap

variable {α : Type}

def empty : Heap α := ⟨[]⟩

/-- The pointer points to this object. -/
def Live (heap : Heap α) (p : Pointer) (object : α) : Prop := heap.cells[p]? = some (some object)

/-- `new`: the object at the next pointer. -/
def alloc (heap : Heap α) (object : α) : Heap α := ⟨heap.cells ++ [some object]⟩

def next (heap : Heap α) : Pointer := heap.cells.length

def load (heap : Heap α) (p : Pointer) : Exec α :=
  match heap.cells[p]? with
  | some (some object) => .ok object
  | some none | none => .error .undefinedBehaviour

def store (heap : Heap α) (p : Pointer) (object : α) : Exec (Heap α) := do
  let _ ← heap.load p
  pure ⟨heap.cells.set p (some object)⟩

/-- `delete`. -/
def free (heap : Heap α) (p : Pointer) : Exec (Heap α) := do
  let _ ← heap.load p
  pure ⟨heap.cells.set p none⟩

variable {heap heap' : Heap α} {p q : Pointer} {object object' : α}

theorem Live.unique (first : heap.Live p object) (second : heap.Live p object') : object = object' :=
  Option.some.inj (Option.some.inj (first.symm.trans second))

theorem load_of_live (live : heap.Live p object) : heap.load p = .ok object := by
  unfold load
  rw [live]

theorem live_of_load (loaded : heap.load p = .ok object) : heap.Live p object := by
  unfold load at loaded
  split at loaded
  · next here =>
    cases loaded
    exact here
  · cases loaded
  · cases loaded

theorem Live.lt (live : heap.Live p object) : p < heap.cells.length :=
  (List.getElem?_eq_some_iff.mp live).1

theorem live_alloc_next (heap : Heap α) (object : α) : (heap.alloc object).Live heap.next object :=
  List.getElem?_concat_length

theorem Live.alloc (live : heap.Live p object) (other : α) : (heap.alloc other).Live p object := by
  unfold Live Heap.alloc
  rw [List.getElem?_append_left live.lt]
  exact live

theorem Live.ne_next (live : heap.Live p object) : p ≠ heap.next := Nat.ne_of_lt live.lt

/-- What a store leaves behind. -/
theorem store_spec (live : heap.Live p object) (object' : α) :
    ∃ heap', heap.store p object' = .ok heap' ∧ heap'.Live p object' ∧
      ∀ q other, q ≠ p → (heap'.Live q other ↔ heap.Live q other) := by
  refine ⟨⟨heap.cells.set p (some object')⟩, ?_, ?_, fun q other different => ?_⟩
  · unfold store
    rw [load_of_live live]
    rfl
  · exact List.getElem?_set_self live.lt
  · unfold Live
    rw [List.getElem?_set_ne different.symm]

/-- What a deletion leaves behind. -/
theorem free_spec (live : heap.Live p object) :
    ∃ heap', heap.free p = .ok heap' ∧ ∀ q other, heap'.Live q other ↔ q ≠ p ∧ heap.Live q other := by
  refine ⟨⟨heap.cells.set p none⟩, ?_, fun q other => ?_⟩
  · unfold free
    rw [load_of_live live]
    rfl
  · unfold Live
    by_cases same : q = p
    · subst same
      rw [List.getElem?_set_self live.lt]
      simp
    · rw [List.getElem?_set_ne (Ne.symm same)]
      simp [same]

end Heap

end Quickstep.Lib
