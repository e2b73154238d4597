import Mathlib.Algebra.Group.Int.Defs
import Mathlib.Data.Finset.Basic
import Mathlib.Logic.Relation
import Quickstep.Lib.WhileLoop

/-!
# Directed acyclic graphs

`DAG` of `utility/DAG.hpp`: nodes with a payload, links from dependencies to dependents, and the stages
in which the nodes start and finish.
-/

namespace Quickstep.Utility
open Quickstep.Lib

/-- A `DAGNode`. The links to the dependents carry metadata. -/
structure DAGNode (T LinkMetadataT : Type) where
  payload : T
  dependencies : Finset Nat := ∅
  dependentsWithMetadata : List (Nat × LinkMetadataT) := []

namespace DAGNode

variable {T LinkMetadataT : Type} (node : DAGNode T LinkMetadataT)

def dependents : List Nat := node.dependentsWithMetadata.map Prod.fst

/-- `emplace` keeps a link that is there already. -/
def addDependent (nodeIndex : Nat) (linkMetadata : LinkMetadataT) : DAGNode T LinkMetadataT :=
  if nodeIndex ∈ node.dependents then node
  else { node with
    dependentsWithMetadata := node.dependentsWithMetadata ++ [(nodeIndex, linkMetadata)] }

def addDependency (nodeIndex : Nat) : DAGNode T LinkMetadataT :=
  { node with dependencies := insert nodeIndex node.dependencies }

@[simp] theorem addDependent_dependencies (nodeIndex : Nat) (linkMetadata : LinkMetadataT) :
    (node.addDependent nodeIndex linkMetadata).dependencies = node.dependencies := by
  unfold addDependent
  split <;> rfl

@[simp] theorem addDependency_dependents (nodeIndex : Nat) :
    (node.addDependency nodeIndex).dependents = node.dependents := rfl

@[simp] theorem mem_addDependent {nodeIndex i : Nat} {linkMetadata : LinkMetadataT} :
    i ∈ (node.addDependent nodeIndex linkMetadata).dependents ↔ i = nodeIndex ∨ i ∈ node.dependents := by
  unfold addDependent
  split
  · next present =>
    constructor
    · exact .inr
    · rintro (rfl | mem)
      · exact present
      · exact mem
  · simp [dependents, or_comm]

@[simp] theorem mem_addDependency {nodeIndex i : Nat} :
    i ∈ (node.addDependency nodeIndex).dependencies ↔ i = nodeIndex ∨ i ∈ node.dependencies :=
  Finset.mem_insert

end DAGNode

section Nodes

variable {T LinkMetadataT : Type}

/-- The dependencies of the node at an index. -/
def dependenciesAt (nodes : List (DAGNode T LinkMetadataT)) (i : Nat) : Finset Nat :=
  (nodes[i]?.map DAGNode.dependencies).getD ∅

def dependentsAt (nodes : List (DAGNode T LinkMetadataT)) (i : Nat) : List Nat :=
  (nodes[i]?.map DAGNode.dependents).getD []

variable {nodes : List (DAGNode T LinkMetadataT)} {dependencyIndex dependentIndex : Nat}
  {linkMetadata : LinkMetadataT}

/-- The nodes after a link was added. -/
def linkNodes (nodes : List (DAGNode T LinkMetadataT)) (dependencyIndex dependentIndex : Nat)
    (linkMetadata : LinkMetadataT) : List (DAGNode T LinkMetadataT) :=
  (nodes.modify dependencyIndex (·.addDependent dependentIndex linkMetadata)).modify
    dependentIndex (·.addDependency dependencyIndex)

theorem mem_dependenciesAt_link (inside : dependentIndex < nodes.length) {i j : Nat} :
    i ∈ dependenciesAt (linkNodes nodes dependencyIndex dependentIndex linkMetadata) j ↔
      (i = dependencyIndex ∧ j = dependentIndex) ∨ i ∈ dependenciesAt nodes j := by
  unfold dependenciesAt linkNodes
  rw [List.getElem?_modify, List.getElem?_modify]
  cases here : nodes[j]? with
  | none =>
    have : j ≠ dependentIndex := by
      rintro rfl
      exact absurd (List.getElem?_eq_none_iff.mp here) (Nat.not_le_of_lt inside)
    simp [this]
  | some node =>
    by_cases dependent : dependentIndex = j
    · subst dependent
      by_cases dependency : dependencyIndex = dependentIndex <;> simp [dependency]
    · by_cases dependency : dependencyIndex = j <;> simp [dependent, dependency, Ne.symm dependent]

theorem mem_dependentsAt_link (inside : dependencyIndex < nodes.length) {i j : Nat} :
    j ∈ dependentsAt (linkNodes nodes dependencyIndex dependentIndex linkMetadata) i ↔
      (i = dependencyIndex ∧ j = dependentIndex) ∨ j ∈ dependentsAt nodes i := by
  unfold dependentsAt linkNodes
  rw [List.getElem?_modify, List.getElem?_modify]
  cases here : nodes[i]? with
  | none =>
    have : i ≠ dependencyIndex := by
      rintro rfl
      exact absurd (List.getElem?_eq_none_iff.mp here) (Nat.not_le_of_lt inside)
    simp [this]
  | some node =>
    by_cases dependency : dependencyIndex = i
    · subst dependency
      by_cases dependent : dependentIndex = dependencyIndex <;> simp [dependent]
    · by_cases dependent : dependentIndex = i <;> simp [dependent, dependency, Ne.symm dependency]

end Nodes

/-- A `DAG`: every link is known at both of its nodes. That it has no cycle is up to its users. -/
structure DAG (T LinkMetadataT : Type) where
  nodes : List (DAGNode T LinkMetadataT)
  linked : ∀ i j, j ∈ dependentsAt nodes i ↔ i ∈ dependenciesAt nodes j

namespace DAG

variable {T LinkMetadataT : Type}

def empty : DAG T LinkMetadataT := ⟨[], by simp [dependentsAt, dependenciesAt]⟩

def size (dag : DAG T LinkMetadataT) : Nat := dag.nodes.length

/-- `createNode` returns the index of the new node. -/
def createNode (dag : DAG T LinkMetadataT) (payload : T) : DAG T LinkMetadataT × Nat :=
  (⟨dag.nodes ++ [{ payload := payload }], by
    have fresh (i : Nat) : dependenciesAt (dag.nodes ++ [{ payload := payload }]) i =
          dependenciesAt dag.nodes i ∧
        dependentsAt (dag.nodes ++ [{ payload := payload }]) i = dependentsAt dag.nodes i := by
      unfold dependenciesAt dependentsAt
      rcases Nat.lt_trichotomy i dag.nodes.length with old | rfl | beyond
      · simp [List.getElem?_append_left old]
      · simp [DAGNode.dependents]
      · have past : (dag.nodes ++ [({ payload := payload } : DAGNode T LinkMetadataT)]).length ≤ i := by
          rw [List.length_append, List.length_singleton]
          exact beyond
        simp [List.getElem?_eq_none past, List.getElem?_eq_none (Nat.le_of_lt beyond)]
    intro i j
    rw [(fresh i).2, (fresh j).1]
    exact dag.linked i j⟩, dag.nodes.length)

/-- `createLink`, between nodes of the graph. -/
def createLink (dag : DAG T LinkMetadataT) {dependencyIndex dependentIndex : Nat}
    (dependencyInside : dependencyIndex < dag.size) (dependentInside : dependentIndex < dag.size)
    (linkMetadata : LinkMetadataT) : DAG T LinkMetadataT where
  nodes := linkNodes dag.nodes dependencyIndex dependentIndex linkMetadata
  linked i j := by
    rw [mem_dependenciesAt_link dependentInside, mem_dependentsAt_link dependencyInside, dag.linked i j]

/-- There is a link from a node to a dependent. -/
def Link (dag : DAG T LinkMetadataT) (i j : Nat) : Prop := i ∈ dependenciesAt dag.nodes j

/-- No node is its own indirect dependent: `hasCycle` is false. -/
def Acyclic (dag : DAG T LinkMetadataT) : Prop := ∀ i, ¬ Relation.TransGen dag.Link i i

end DAG

/-! ## Stages -/

/-- The order in which the standard library iterates over an `unordered_set`. -/
structure IterationOrder where
  iterate : Finset Nat → List Nat
  mem_iterate : ∀ indices i, i ∈ iterate indices ↔ i ∈ indices

attribute [simp] IterationOrder.mem_iterate

/-- A `size_t` computed as a difference wraps below zero. No graph is large enough for it to wrap at the
other end. -/
def sizeT (difference : Int) : Nat :=
  (if difference < 0 then difference + 2 ^ 64 else difference).toNat

/-- The state of the backward sweep. Finish stages are counted from the end. -/
structure FinishSweep where
  nodeFinishStageOffsets : List Nat
  currentStageFinish : Finset Nat
  numStages : Nat

/-- Node indices that can start at a stage, and those that must finish in or before it. -/
abbrev Stage := List Nat × List Nat

namespace DAG

variable {T LinkMetadataT : Type} (order : IterationOrder) (dag : DAG T LinkMetadataT)

/-- The nodes without dependents finish in the last stage. -/
def startSweep : Exec FinishSweep :=
  (List.range dag.size).foldlM
    (fun s nodeIndex => do
      let node ← readAt dag.nodes nodeIndex
      if node.dependents.isEmpty then do
        let offsets ← writeAt s.nodeFinishStageOffsets nodeIndex 1
        pure { s with
          nodeFinishStageOffsets := offsets
          currentStageFinish := insert nodeIndex s.currentStageFinish }
      else pure s)
    ⟨List.replicate dag.size 0, ∅, 1⟩

/-- The dependencies of one node move to the prior stage, whatever stage they had. -/
def sweepNode (numStages : Nat) (acc : List Nat × Finset Nat) (node : Nat) :
    Exec (List Nat × Finset Nat) := do
  let currentDagNode ← readAt dag.nodes node
  (order.iterate currentDagNode.dependencies).foldlM
    (fun acc dependencyNode => do
      let offsets ← writeAt acc.1 dependencyNode numStages
      pure (offsets, insert dependencyNode acc.2))
    acc

/-- One round of the backward sweep. -/
def sweepStage (s : FinishSweep) : Exec FinishSweep := do
  let numStages := s.numStages + 1
  let acc ← (order.iterate s.currentStageFinish).foldlM (sweepNode order dag numStages)
    (s.nodeFinishStageOffsets, ∅)
  pure ⟨acc.1, acc.2, numStages⟩

/-- The test of the sweep: the round before has found dependencies. -/
def sweepContinues (s : FinishSweep) : Exec Bool := pure (decide (s.currentStageFinish ≠ ∅))

/-- One past the latest finish stage of the dependencies. -/
def startStage (offsets : List Nat) (numStages nodeIndex : Nat) : Exec Nat := do
  let dagNodeAtIndex ← readAt dag.nodes nodeIndex
  (order.iterate dagNodeAtIndex.dependencies).foldlM
    (fun nodeStartStage dependencyNode => do
      let offset ← readAt offsets dependencyNode
      let candidateStartStage := sizeT (numStages - offset + 1)
      pure (if candidateStartStage > nodeStartStage then candidateStartStage else nodeStartStage))
    0

def startStages (offsets : List Nat) (numStages : Nat) : Exec (List Nat) :=
  (List.range dag.size).foldlM
    (fun starts nodeIndex => do
      let start ← startStage order dag offsets numStages nodeIndex
      writeAt starts nodeIndex start)
    (List.replicate dag.size 0)

/-- A node is pushed to the stage where it starts and to the stage where it finishes. -/
def pushNode (starts offsets : List Nat) (numStages : Nat) (stages : List Stage)
    (nodeIndex : Nat) : Exec (List Stage) := do
  let start ← readAt starts nodeIndex
  let starting ← readAt stages start
  let stages ← writeAt stages start (starting.1 ++ [nodeIndex], starting.2)
  let offset ← readAt offsets nodeIndex
  let finishing ← readAt stages (sizeT (numStages - offset))
  writeAt stages (sizeT (numStages - offset)) (finishing.1, finishing.2 ++ [nodeIndex])

/-- The last round of the sweep does not make a stage. -/
def computeStageSequence (fuel : Nat) : Exec (List Stage) := do
  let sweep ← dag.startSweep
  let sweep ← whileLoop sweepContinues (sweepStage order dag) fuel sweep
  let numStages := sizeT (sweep.numStages - 1)
  let starts ← startStages order dag sweep.nodeFinishStageOffsets numStages
  (List.range dag.size).foldlM (pushNode starts sweep.nodeFinishStageOffsets numStages)
    (List.replicate numStages ([], []))

end DAG

end Quickstep.Utility
