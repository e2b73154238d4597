import Mathlib.Data.Set.Insert
import Mathlib.Logic.Relation

/-!
# Depth-first search for cycles

The sets of a depth-first search: what was visited, and what is on the stack of the search. What was
visited and left the stack again is finished: everything it leads to is finished too, and none of it
lies on a cycle.
-/

namespace Quickstep.Lib
open Relation

/-- The invariant of the search along `r`. -/
structure DepthFirst {α : Type} (r : α → α → Prop) (visited onStack : Set α) : Prop where
  onStack_visited : onStack ⊆ visited
  closed : ∀ x ∈ visited \ onStack, ∀ y, r x y → y ∈ visited \ onStack
  acyclic : ∀ x ∈ visited \ onStack, ¬TransGen r x x

namespace DepthFirst

variable {α : Type} {r : α → α → Prop} {visited onStack : Set α}

/-- The search starts with nothing visited. -/
theorem start (r : α → α → Prop) : DepthFirst r ∅ ∅ :=
  ⟨subset_rfl, fun _ finished => absurd finished.1 (Set.notMem_empty _),
    fun _ finished => absurd finished.1 (Set.notMem_empty _)⟩

/-- A node that is not visited goes on the stack. -/
theorem push (search : DepthFirst r visited onStack) {x : α} (fresh : x ∉ visited) :
    DepthFirst r (insert x visited) (insert x onStack) := by
  have finished : insert x visited \ insert x onStack = visited \ onStack := by
    ext y
    simp only [Set.mem_sdiff, Set.mem_insert_iff, not_or]
    constructor
    · rintro ⟨same | inside, different, outside⟩
      · exact absurd same different
      · exact ⟨inside, outside⟩
    · rintro ⟨inside, outside⟩
      refine ⟨.inr inside, ?_, outside⟩
      rintro rfl
      exact fresh inside
  refine ⟨Set.insert_subset_insert search.onStack_visited, ?_, ?_⟩
  · rw [finished]
    exact search.closed
  · rw [finished]
    exact search.acyclic

/-- Finished nodes lead to finished nodes only. -/
theorem finished_of_reflTransGen (search : DepthFirst r visited onStack) {x y : α}
    (finished : x ∈ visited \ onStack) (path : ReflTransGen r x y) : y ∈ visited \ onStack := by
  induction path with
  | refl => exact finished
  | tail _ step ih => exact search.closed _ ih _ step

/-- A node leaves the stack when everything it leads to is finished. -/
theorem pop (search : DepthFirst r visited onStack) {x : α} (here : x ∈ onStack)
    (successors : ∀ y, r x y → y ∈ visited \ onStack) :
    DepthFirst r visited (onStack \ {x}) := by
  have finished : ∀ y, y ∈ visited \ (onStack \ {x}) ↔ y = x ∨ y ∈ visited \ onStack := by
    intro y
    simp only [Set.mem_sdiff, Set.mem_singleton_iff, not_and_or, not_not]
    constructor
    · rintro ⟨inside, outside | same⟩
      · exact .inr ⟨inside, outside⟩
      · exact .inl same
    · rintro (rfl | ⟨inside, outside⟩)
      · exact ⟨search.onStack_visited here, .inr rfl⟩
      · exact ⟨inside, .inl outside⟩
  refine ⟨fun _ inside => search.onStack_visited inside.1, fun y finishedY z step => ?_,
    fun y finishedY cycle => ?_⟩
  · rw [finished] at finishedY ⊢
    rcases finishedY with rfl | finishedY
    · exact .inr (successors z step)
    · exact .inr (search.closed y finishedY z step)
  · rcases (finished y).mp finishedY with rfl | finishedY
    · obtain ⟨z, step, path⟩ := TransGen.head'_iff.mp cycle
      exact (search.finished_of_reflTransGen (successors z step) path).2 here
    · exact search.acyclic y finishedY cycle

/-- A step back to the stack closes a cycle, if the stack leads to where the search is. -/
theorem cycle_of_onStack {x y : α} (path : ReflTransGen r y x) (step : r x y) : TransGen r y y :=
  TransGen.tail' path step

/-- **A search that has visited a node** and has an empty stack has found no cycle there. -/
theorem not_transGen (search : DepthFirst r visited ∅) {x : α} (seen : x ∈ visited) :
    ¬TransGen r x x := search.acyclic x ⟨seen, Set.notMem_empty x⟩

end DepthFirst

end Quickstep.Lib
