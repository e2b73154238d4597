import Mathlib.Data.Finset.Card
import Mathlib.Data.Nat.Find
import Mathlib.Logic.Relation
import Mathlib.Order.Bounds.Basic

/-!
# Levels of a finite acyclic relation

Level 0 of a relation holds the nodes without a successor, and the next level the nodes with a successor
on the level before. A node may be on many levels; its depth is the last of them. Depths fall along the
relation, and the number of nonempty levels is the number of nodes on a longest path.
-/

namespace Quickstep.Lib
open Relation

variable {α : Type*}

/-- A relation without cycles whose related elements are among finitely many nodes. -/
structure FiniteAcyclic (r : α → α → Prop) (nodes : Finset α) : Prop where
  inside : ∀ {i j}, r i j → i ∈ nodes ∧ j ∈ nodes
  irreflexive : ∀ i, ¬ TransGen r i i

/-- The element begins a path with `k` steps to a node without successors. -/
def Level (r : α → α → Prop) (nodes : Finset α) : Nat → α → Prop
  | 0, i => i ∈ nodes ∧ ∀ j, ¬ r i j
  | k + 1, i => ∃ j, r i j ∧ Level r nodes k j

/-- A path through nodes, each related to the next. -/
structure IsPath (r : α → α → Prop) (nodes : Finset α) (path : List α) : Prop where
  chain : path.IsChain r
  inside : ∀ i ∈ path, i ∈ nodes

/-- The levels before a nonempty one are not empty. -/
theorem Level.exists_of_le {r : α → α → Prop} {nodes : Finset α} {k l : Nat} {i : α} (level : Level r nodes k i) (le : l ≤ k) :
    ∃ j, Level r nodes l j := by
  induction k generalizing i with
  | zero =>
    obtain rfl := Nat.le_zero.mp le
    exact ⟨i, level⟩
  | succ k ih =>
    obtain ⟨j, step, later⟩ := level
    rcases Nat.le_succ_iff.mp le with before | rfl
    · exact ih later before
    · exact ⟨i, j, step, later⟩

section Paths

variable {r : α → α → Prop} {nodes : Finset α} (acyclic : FiniteAcyclic r nodes)
include acyclic

theorem Level.mem {k : Nat} {i : α} (level : Level r nodes k i) : i ∈ nodes := by
  cases k with
  | zero => exact level.1
  | succ k =>
    obtain ⟨j, step, _⟩ := level
    exact (acyclic.inside step).1

/-- A node on a level begins a path. -/
theorem Level.exists_path {k : Nat} {i : α} (level : Level r nodes k i) :
    ∃ rest, IsPath r nodes (i :: rest) ∧ rest.length = k := by
  induction k generalizing i with
  | zero => exact ⟨[], ⟨.singleton i, by simpa using level.1⟩, rfl⟩
  | succ k ih =>
    obtain ⟨j, step, later⟩ := level
    obtain ⟨rest, path, length⟩ := ih later
    refine ⟨j :: rest, ⟨.cons_cons step path.chain, ?_⟩, by rw [List.length_cons, length]⟩
    intro u mem
    rcases List.mem_cons.mp mem with rfl | mem
    · exact (acyclic.inside step).1
    · exact path.inside u mem

/-- A path does not meet a node twice. -/
theorem IsPath.nodup {path : List α} (isPath : IsPath r nodes path) : path.Nodup := by
  have chain : path.IsChain (TransGen r) := isPath.chain.imp fun _ _ => TransGen.single
  apply (List.isChain_iff_pairwise.mp chain).imp
  rintro i j reaches rfl
  exact acyclic.irreflexive i reaches

theorem IsPath.length_le {path : List α} (isPath : IsPath r nodes path) :
    path.length ≤ nodes.card := by
  classical
  rw [← List.toFinset_card_of_nodup (isPath.nodup acyclic)]
  apply Finset.card_le_card
  intro i mem
  exact isPath.inside i (List.mem_toFinset.mp mem)

theorem Level.lt_card {k : Nat} {i : α} (level : Level r nodes k i) : k < nodes.card := by
  obtain ⟨rest, path, rfl⟩ := level.exists_path acyclic
  exact path.length_le acyclic

/-- Every node is on some level, as what it reaches becomes less along the relation. -/
theorem exists_level {i : α} (mem : i ∈ nodes) : ∃ k, Level r nodes k i := by
  classical
  induction size : (nodes.filter (TransGen r i)).card using Nat.strong_induction_on generalizing i with
  | _ size ih =>
    by_cases sink : ∃ j, r i j
    · obtain ⟨j, step⟩ := sink
      have fewer : (nodes.filter (TransGen r j)).card < (nodes.filter (TransGen r i)).card := by
        apply Finset.card_lt_card
        rw [Finset.ssubset_iff_of_subset]
        · refine ⟨j, Finset.mem_filter.mpr ⟨(acyclic.inside step).2, .single step⟩, ?_⟩
          intro again
          exact acyclic.irreflexive j (Finset.mem_filter.mp again).2
        · intro u later
          obtain ⟨node, reaches⟩ := Finset.mem_filter.mp later
          exact Finset.mem_filter.mpr ⟨node, .head step reaches⟩
      obtain ⟨k, level⟩ := ih _ (size ▸ fewer) (acyclic.inside step).2 rfl
      exact ⟨k + 1, j, step, level⟩
    · exact ⟨0, mem, fun j step => sink ⟨j, step⟩⟩

end Paths

section Depth

open Classical in
/-- The last level of a node. -/
noncomputable def depth (r : α → α → Prop) (nodes : Finset α) (i : α) : Nat :=
  Nat.findGreatest (fun k => Level r nodes k i) nodes.card

variable {r : α → α → Prop} {nodes : Finset α} (acyclic : FiniteAcyclic r nodes)
include acyclic

theorem level_depth {i : α} (mem : i ∈ nodes) : Level r nodes (depth r nodes i) i := by
  classical
  obtain ⟨k, level⟩ := exists_level acyclic mem
  exact Nat.findGreatest_spec (P := fun k => Level r nodes k i)
    (Nat.le_of_lt (level.lt_card acyclic)) level

theorem Level.le_depth {k : Nat} {i : α} (level : Level r nodes k i) : k ≤ depth r nodes i := by
  classical
  exact Nat.le_findGreatest (Nat.le_of_lt (level.lt_card acyclic)) level

/-- **Depths fall** along the relation. -/
theorem depth_lt {i j : α} (step : r i j) : depth r nodes j < depth r nodes i := by
  have level : Level r nodes (depth r nodes j + 1) i :=
    ⟨j, step, level_depth acyclic (acyclic.inside step).2⟩
  exact level.le_depth acyclic

theorem IsPath.length_le_depth {i : α} {rest : List α} (path : IsPath r nodes (i :: rest)) :
    rest.length ≤ depth r nodes i := by
  induction rest generalizing i with
  | nil => exact Nat.zero_le _
  | cons j rest ih =>
    obtain ⟨step, chain⟩ := List.isChain_cons_cons.mp path.chain
    have later := ih ⟨chain, fun u mem => path.inside u (List.mem_cons_of_mem _ mem)⟩
    exact Nat.lt_of_le_of_lt later (depth_lt acyclic step)

/-- **The number of levels** is the number of nodes on a longest path. -/
theorem isGreatest_path_length {levels : Nat} (nonempty : ∀ k < levels, ∃ i, Level r nodes k i)
    (empty : ∀ i, ¬ Level r nodes levels i) :
    IsGreatest {n | ∃ path, IsPath r nodes path ∧ path.length = n} levels := by
  constructor
  · cases levels with
    | zero => exact ⟨[], ⟨.nil, by simp⟩, rfl⟩
    | succ levels =>
      obtain ⟨i, level⟩ := nonempty levels (Nat.lt_succ_self levels)
      obtain ⟨rest, path, length⟩ := level.exists_path acyclic
      exact ⟨i :: rest, path, by rw [List.length_cons, length]⟩
  · rintro n ⟨path, isPath, rfl⟩
    cases path with
    | nil => exact Nat.zero_le _
    | cons i rest =>
      have level := level_depth acyclic (isPath.inside i List.mem_cons_self)
      have within : depth r nodes i < levels := by
        by_contra beyond
        obtain ⟨j, later⟩ := level.exists_of_le (Nat.le_of_not_lt beyond)
        exact empty j later
      exact Nat.lt_of_le_of_lt (isPath.length_le_depth acyclic) within

end Depth

end Quickstep.Lib
