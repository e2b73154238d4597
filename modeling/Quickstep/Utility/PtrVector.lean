import Quickstep.Lib.ObjectHeap

/-!
# Vectors of pointers

`PtrVector` of `utility/PtrVector.hpp` with NULL allowed, and its iterator that skips the NULLs.
-/

namespace Quickstep.Utility
open Quickstep.Lib

/-- The internal vector. -/
abbrev PtrVector := List (Option Pointer)

namespace PtrVector

def elementIsNull (vector : PtrVector) (n : Nat) : Exec Bool := do
  let element ← readAt vector n
  pure element.isNone

/-- `operator[]`, which must not meet a NULL. -/
def elementAt (vector : PtrVector) (n : Nat) : Exec Pointer := do
  match ← readAt vector n with
  | some p => pure p
  | none => .error .undefinedBehaviour

/-- The element is deleted with its object. -/
def deleteElement {α : Type} (vector : PtrVector) (n : Nat) (heap : Heap α) :
    Exec (PtrVector × Heap α) := do
  match ← readAt vector n with
  | some p => pure (vector.set n none, ← heap.free p)
  | none => pure (vector, heap)

/-! ## The iterator that skips NULLs -/

/-- `PtrVectorConstSkipIterator`, as the rest of the vector from its position. -/
abbrev ConstSkipIterator := List (Option Pointer)

/-- The loops of the constructor and of `operator++`. -/
def skipNulls : List (Option Pointer) → ConstSkipIterator
  | none :: rest => skipNulls rest
  | [] => []
  | some p :: rest => some p :: rest

def beginSkip (vector : PtrVector) : ConstSkipIterator := skipNulls vector

/-- Only the iterator at the end has nothing left. -/
def atEnd (iterator : ConstSkipIterator) : Bool := iterator.isEmpty

def dereference : ConstSkipIterator → Exec Pointer
  | some p :: _ => .ok p
  | none :: _ | [] => .error .undefinedBehaviour

def increment : ConstSkipIterator → Exec ConstSkipIterator
  | _ :: rest => .ok (skipNulls rest)
  | [] => .error .undefinedBehaviour

/-- The loop from `begin_skip()` to `end_skip()` visits these elements. -/
def Visits (vector : PtrVector) (visited : List Pointer) : Prop :=
  Ends (fun s : ConstSkipIterator × List Pointer => pure !(atEnd s.1))
    (fun s => do
      let p ← dereference s.1
      pure (← increment s.1, s.2 ++ [p]))
    (beginSkip vector, []) ([], visited)

variable {vector : PtrVector} {n : Nat} {p : Pointer}

theorem elementIsNull_of_getElem? {element : Option Pointer} (found : vector[n]? = some element) :
    vector.elementIsNull n = .ok element.isNone := by
  unfold elementIsNull readAt
  rw [found]
  rfl

theorem elementAt_of_getElem? (found : vector[n]? = some (some p)) : vector.elementAt n = .ok p := by
  unfold elementAt readAt
  rw [found]
  rfl

theorem deleteElement_of_free {α : Type} {heap heap' : Heap α} (found : vector[n]? = some (some p))
    (free : heap.free p = .ok heap') : vector.deleteElement n heap = .ok (vector.set n none, heap') := by
  unfold deleteElement readAt
  rw [found]
  show (do pure (vector.set n none, ← heap.free p)) = _
  rw [free]
  rfl

/-- From an iterator that has skipped its NULLs the loop visits all elements that are left. -/
theorem visits_rest (rest : List (Option Pointer)) (visited : List Pointer) :
    Ends (fun s : ConstSkipIterator × List Pointer => pure !(atEnd s.1))
      (fun s => do
        let p ← dereference s.1
        pure (← increment s.1, s.2 ++ [p]))
      (skipNulls rest, visited) ([], visited ++ rest.filterMap id) := by
  induction rest generalizing visited with
  | nil =>
    rw [List.filterMap_nil, List.append_nil]
    exact .exit rfl
  | cons element rest ih =>
    cases element with
    | none => exact ih visited
    | some p =>
      have later := ih (visited ++ [p])
      rw [List.append_assoc] at later
      exact .round rfl rfl later

/-- **The iteration** visits the elements that are not NULL, in the order of the vector. -/
theorem visits (vector : PtrVector) : vector.Visits (vector.filterMap id) := visits_rest vector []

end PtrVector

end Quickstep.Utility
