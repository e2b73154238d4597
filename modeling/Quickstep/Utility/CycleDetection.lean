import Quickstep.Lib.DepthFirst
import Quickstep.Utility.StageSequence

/-!
# Cycle detection

`DAG::hasCycle` searches depth-first from every node. A node that is visited again is only on a cycle
if it is still on the stack of the search, as it is not where two paths meet.
-/

namespace Quickstep.Utility
open Quickstep.Lib Relation

/-- The vectors `visited` and `on_stack`. -/
structure SearchMarks where
  visited : List Bool
  onStack : List Bool

namespace SearchMarks

def setVisited (marks : SearchMarks) (nodeIndex : Nat) (mark : Bool) : Exec SearchMarks := do
  pure { marks with visited := ← writeAt marks.visited nodeIndex mark }

def setOnStack (marks : SearchMarks) (nodeIndex : Nat) (mark : Bool) : Exec SearchMarks := do
  pure { marks with onStack := ← writeAt marks.onStack nodeIndex mark }

end SearchMarks

namespace DAG

variable {T LinkMetadataT : Type} (order : IterationOrder) (dag : DAG T LinkMetadataT)

/-- The first operand of the test in the loop: a dependent that is not visited is searched. -/
def searchUnvisited (search : Nat → SearchMarks → Exec (Bool × SearchMarks)) (dependent : Nat)
    (marks : SearchMarks) : Exec (Bool × SearchMarks) := do
  if ← readAt marks.visited dependent then pure (false, marks) else search dependent marks

/-- The loop over the dependents. It returns at the first dependent that closes a cycle. -/
def searchDependents (search : Nat → SearchMarks → Exec (Bool × SearchMarks)) :
    List Nat → SearchMarks → Exec (Bool × SearchMarks)
  | [], marks => pure (false, marks)
  | dependent :: dependents, marks => do
    let (found, marks) ← searchUnvisited search dependent marks
    if found then pure (true, marks)
    else if ← readAt marks.onStack dependent then pure (true, marks)
    else searchDependents search dependents marks

/-- `hasCycleHelper`, for recursions that are less than `fuel` deep. -/
def hasCycleHelper : Nat → Nat → SearchMarks → Exec (Bool × SearchMarks)
  | 0, _, _ => .error .outOfFuel
  | fuel + 1, nodeIndex, marks => do
    if ← readAt marks.visited nodeIndex then do
      pure (false, ← marks.setOnStack nodeIndex false)
    else do
      let marks ← marks.setVisited nodeIndex true
      let marks ← marks.setOnStack nodeIndex true
      let dependentNode ← readAt dag.nodes nodeIndex
      let (found, marks) ← searchDependents (hasCycleHelper fuel)
        (order.iterate dependentNode.dependents.toFinset) marks
      if found then pure (true, marks)
      else pure (false, ← marks.setOnStack nodeIndex false)

/-- The loop over all nodes. -/
def searchNodes (fuel : Nat) : List Nat → SearchMarks → Exec Bool
  | [], _ => pure false
  | currNodeIndex :: rest, marks => do
    let (found, marks) ← hasCycleHelper order dag fuel currNodeIndex marks
    if found then pure true else searchNodes fuel rest marks

def hasCycle (fuel : Nat) : Exec Bool :=
  searchNodes order dag fuel (List.range dag.size)
    ⟨List.replicate dag.size false, List.replicate dag.size false⟩

end DAG

/-! ## What is marked -/

namespace SearchMarks

/-- The nodes that are marked in a vector. -/
def marked (vector : List Bool) : Set Nat := { i | vector[i]? = some true }

theorem marked_set {vector : List Bool} {i : Nat} (inside : i < vector.length) :
    marked (vector.set i true) = insert i (marked vector) ∧
      marked (vector.set i false) = marked vector \ {i} := by
  have here : ∀ (mark : Bool) (j : Nat), (vector.set i mark)[j]? =
      if j = i then some mark else vector[j]? := by
    intro mark j
    rw [List.getElem?_set]
    by_cases same : i = j
    · subst same
      rw [if_pos rfl, if_pos inside, if_pos rfl]
    · rw [if_neg same, if_neg (Ne.symm same)]
  constructor
  · ext j
    change (vector.set i true)[j]? = some true ↔ j = i ∨ vector[j]? = some true
    rw [here]
    by_cases same : j = i <;> simp [same]
  · ext j
    change (vector.set i false)[j]? = some true ↔ vector[j]? = some true ∧ j ≠ i
    rw [here]
    by_cases same : j = i <;> simp [same]

theorem readAt_marked {vector : List Bool} {i : Nat} (inside : i < vector.length) :
    ∃ mark, readAt vector i = .ok mark ∧ (mark = true ↔ i ∈ marked vector) := by
  refine ⟨vector[i], readAt_of_lt inside, ?_⟩
  change _ ↔ vector[i]? = some true
  rw [List.getElem?_eq_getElem inside, Option.some.injEq]

theorem marked_lt {vector : List Bool} {i : Nat} (isMarked : i ∈ marked vector) : i < vector.length := by
  by_contra outside
  have none : vector[i]? = none := List.getElem?_eq_none (Nat.not_lt.mp outside)
  exact absurd (isMarked.symm.trans none) nofun

theorem marked_replicate (n : Nat) : marked (List.replicate n false) = ∅ := by
  ext i
  change (List.replicate n false)[i]? = some true ↔ False
  rw [iff_false, List.getElem?_replicate]
  split <;> nofun

end SearchMarks

namespace DAG

open SearchMarks

variable {T LinkMetadataT : Type} {order : IterationOrder} {dag : DAG T LinkMetadataT}

/-- The invariant of the search. -/
structure Searching (dag : DAG T LinkMetadataT) (marks : SearchMarks) : Prop where
  visitedLength : marks.visited.length = dag.size
  onStackLength : marks.onStack.length = dag.size
  search : DepthFirst dag.Link (marked marks.visited) (marked marks.onStack)

/-- What a search leaves behind: either a cycle is known, or the stack is as before, and more was
visited. -/
structure Searched (dag : DAG T LinkMetadataT) (marks : SearchMarks) (found : Bool)
    (marks' : SearchMarks) : Prop where
  cycle : found = true → ∃ i, TransGen dag.Link i i
  searching : found = false → Searching dag marks'
  sameStack : found = false → marked marks'.onStack = marked marks.onStack
  visitedMore : found = false → marked marks.visited ⊆ marked marks'.visited

/-- The number of nodes that are not visited yet. -/
def unvisited (dag : DAG T LinkMetadataT) (marks : SearchMarks) : Nat :=
  ((Finset.range dag.size).filter fun i => marks.visited[i]? ≠ some true).card

section Marking

variable {marks marks' : SearchMarks}

theorem unvisited_le (more : marked marks.visited ⊆ marked marks'.visited) :
    dag.unvisited marks' ≤ dag.unvisited marks := by
  unfold unvisited
  apply Finset.card_le_card
  intro i fresh
  rw [Finset.mem_filter] at fresh ⊢
  exact ⟨fresh.1, fun seen => fresh.2 (more seen)⟩

theorem unvisited_lt {i : Nat} (inside : i < dag.size) (fresh : i ∉ marked marks.visited)
    (now : i ∈ marked marks'.visited) (more : marked marks.visited ⊆ marked marks'.visited) :
    dag.unvisited marks' < dag.unvisited marks := by
  unfold unvisited
  apply Finset.card_lt_card
  refine ⟨fun j fresh' => ?_, fun same => ?_⟩
  · rw [Finset.mem_filter] at fresh' ⊢
    exact ⟨fresh'.1, fun seen => fresh'.2 (more seen)⟩
  · have stillFresh := same (Finset.mem_filter.mpr ⟨Finset.mem_range.mpr inside, fresh⟩)
    exact (Finset.mem_filter.mp stillFresh).2 now

/-- A node that is not visited is visited and goes on the stack. -/
theorem Searching.push (searching : Searching dag marks) {i : Nat} (inside : i < dag.size)
    (fresh : i ∉ marked marks.visited) :
    ∃ marks₁ marks₂, marks.setVisited i true = .ok marks₁ ∧ marks₁.setOnStack i true = .ok marks₂ ∧
      Searching dag marks₂ ∧ marked marks₂.visited = insert i (marked marks.visited) ∧
        marked marks₂.onStack = insert i (marked marks.onStack) := by
  have visitedInside : i < marks.visited.length := searching.visitedLength ▸ inside
  have onStackInside : i < marks.onStack.length := searching.onStackLength ▸ inside
  refine ⟨⟨marks.visited.set i true, marks.onStack⟩,
    ⟨marks.visited.set i true, marks.onStack.set i true⟩, ?_, ?_, ⟨?_, ?_, ?_⟩,
    (marked_set visitedInside).1, (marked_set onStackInside).1⟩
  · unfold setVisited
    rw [writeAt_of_lt visitedInside]
    rfl
  · unfold setOnStack
    rw [writeAt_of_lt onStackInside]
    rfl
  · exact (List.length_set ..).trans searching.visitedLength
  · exact (List.length_set ..).trans searching.onStackLength
  · rw [(marked_set visitedInside).1, (marked_set onStackInside).1]
    exact searching.search.push fresh

/-- A node whose dependents are finished leaves the stack. -/
theorem Searching.pop (searching : Searching dag marks) {i : Nat}
    (here : i ∈ marked marks.onStack)
    (successors : ∀ j, dag.Link i j → j ∈ marked marks.visited \ marked marks.onStack) :
    ∃ marks', marks.setOnStack i false = .ok marks' ∧ Searching dag marks' ∧
      marks'.visited = marks.visited ∧ marked marks'.onStack = marked marks.onStack \ {i} := by
  have inside := marked_lt here
  refine ⟨⟨marks.visited, marks.onStack.set i false⟩, ?_, ⟨searching.visitedLength, ?_, ?_⟩, rfl,
    (marked_set inside).2⟩
  · unfold setOnStack
    rw [writeAt_of_lt inside]
    rfl
  · exact (List.length_set ..).trans searching.onStackLength
  · rw [(marked_set inside).2]
    exact searching.search.pop here successors

end Marking

/-! ## The recursion -/

section Recursion

/-- What a search from a node that is not visited does while at most `fuel` nodes are left. The nodes
on the stack lead to it. -/
def SearchesFrom (dag : DAG T LinkMetadataT) (fuel : Nat)
    (search : Nat → SearchMarks → Exec (Bool × SearchMarks)) : Prop :=
  ∀ i marks, i < dag.size → Searching dag marks → i ∉ marked marks.visited →
    (∀ s ∈ marked marks.onStack, TransGen dag.Link s i) → dag.unvisited marks ≤ fuel →
      ∃ found marks', search i marks = .ok (found, marks') ∧ Searched dag marks found marks' ∧
        (found = false → i ∈ marked marks'.visited)

/-- One dependent: it closes a cycle, or is finished afterwards. -/
theorem searchDependent_searched {fuel : Nat}
    {search : Nat → SearchMarks → Exec (Bool × SearchMarks)} (searches : SearchesFrom dag fuel search)
    {i j : Nat} (link : dag.Link i j) {marks : SearchMarks} (searching : Searching dag marks)
    (toHere : ∀ s ∈ marked marks.onStack, ReflTransGen dag.Link s i)
    (enough : dag.unvisited marks ≤ fuel) :
    ∃ found marks', searchUnvisited search j marks = .ok (found, marks') ∧
      Searched dag marks found marks' ∧ (found = false → j ∈ marked marks'.visited) := by
  have inside := link.inside.2
  obtain ⟨mark, read, isVisited⟩ :=
    @readAt_marked marks.visited _ (searching.visitedLength ▸ inside)
  unfold searchUnvisited
  rw [read, Exec.ok_bind]
  cases mark with
  | true =>
    exact ⟨false, marks, rfl, ⟨nofun, fun _ => searching, fun _ => rfl, fun _ => subset_rfl⟩,
      fun _ => isVisited.mp rfl⟩
  | false =>
    have fresh : j ∉ marked marks.visited := fun seen => Bool.false_ne_true (isVisited.mpr seen)
    exact searches j marks inside searching fresh (fun s onStack => .tail' (toHere s onStack) link)
      enough

theorem searchDependents_searched {fuel : Nat}
    {search : Nat → SearchMarks → Exec (Bool × SearchMarks)} (searches : SearchesFrom dag fuel search)
    {i : Nat} {dependents : List Nat} (links : ∀ j ∈ dependents, dag.Link i j) {marks : SearchMarks}
    (searching : Searching dag marks)
    (toHere : ∀ s ∈ marked marks.onStack, ReflTransGen dag.Link s i)
    (enough : dag.unvisited marks ≤ fuel) :
    ∃ found marks', searchDependents search dependents marks = .ok (found, marks') ∧
      Searched dag marks found marks' ∧
        (found = false → ∀ j ∈ dependents, j ∈ marked marks'.visited \ marked marks'.onStack) := by
  induction dependents generalizing marks with
  | nil =>
    exact ⟨false, marks, rfl, ⟨nofun, fun _ => searching, fun _ => rfl, fun _ => subset_rfl⟩,
      fun _ _ inside => absurd inside List.not_mem_nil⟩
  | cons j dependents ih =>
    obtain ⟨link, links⟩ := List.forall_mem_cons.mp links
    obtain ⟨found, marks₁, run, searched, seen⟩ :=
      searchDependent_searched searches link searching toHere enough
    unfold searchDependents
    rw [run, Exec.ok_bind]
    cases found with
    | true => exact ⟨true, marks₁, rfl, ⟨searched.cycle, nofun, nofun, nofun⟩, nofun⟩
    | false =>
      have searching₁ := searched.searching rfl
      have stack₁ := searched.sameStack rfl
      have more₁ := searched.visitedMore rfl
      obtain ⟨mark, read, isOnStack⟩ :=
        @readAt_marked marks₁.onStack _ (searching₁.onStackLength ▸ link.inside.2)
      simp only [Bool.false_eq_true, if_false]
      rw [read, Exec.ok_bind]
      cases mark with
      | true =>
        refine ⟨true, marks₁, rfl, ⟨fun _ => ⟨j, ?_⟩, nofun, nofun, nofun⟩, nofun⟩
        have onStack : j ∈ marked marks.onStack := stack₁ ▸ isOnStack.mp rfl
        exact DepthFirst.cycle_of_onStack (toHere j onStack) link
      | false =>
        have offStack : j ∉ marked marks₁.onStack :=
          fun onStack => Bool.false_ne_true (isOnStack.mpr onStack)
        obtain ⟨found, marks₂, run₂, searched₂, finished⟩ :=
          ih links searching₁ (stack₁.symm ▸ toHere) ((unvisited_le more₁).trans enough)
        refine ⟨found, marks₂, run₂, ⟨searched₂.cycle, searched₂.searching,
          fun no => (searched₂.sameStack no).trans stack₁,
          fun no => more₁.trans (searched₂.visitedMore no)⟩, fun no k inside => ?_⟩
        rcases List.mem_cons.mp inside with rfl | inside
        · refine ⟨searched₂.visitedMore no (seen rfl), ?_⟩
          rw [searched₂.sameStack no]
          exact offStack
        · exact finished no k inside

/-- **The recursion** from a node that is not visited. -/
theorem hasCycleHelper_searches (order : IterationOrder) (dag : DAG T LinkMetadataT) (fuel : Nat) :
    SearchesFrom dag fuel (hasCycleHelper order dag fuel) := by
  induction fuel with
  | zero =>
    intro i marks inside _ fresh _ enough
    have none : i ∈ (Finset.range dag.size).filter fun i => marks.visited[i]? ≠ some true :=
      Finset.mem_filter.mpr ⟨Finset.mem_range.mpr inside, fresh⟩
    exact absurd (Finset.card_pos.mpr ⟨i, none⟩) (Nat.not_lt.mpr enough)
  | succ fuel ih =>
    intro i marks inside searching fresh toHere enough
    obtain ⟨mark, read, isVisited⟩ :=
      @readAt_marked marks.visited _ (searching.visitedLength ▸ inside)
    obtain rfl : mark = false := Bool.eq_false_iff.mpr fun seen => fresh (isVisited.mp seen)
    obtain ⟨marks₁, marks₂, setVisited, setOnStack, searching₂, visited₂, onStack₂⟩ :=
      searching.push inside fresh
    have more₂ : marked marks.visited ⊆ marked marks₂.visited := by
      rw [visited₂]
      exact Set.subset_insert i _
    have seen₂ : i ∈ marked marks₂.visited := visited₂ ▸ Set.mem_insert i _
    have insideNodes : i < dag.nodes.length := inside
    have links : ∀ j, j ∈ order.iterate dag.nodes[i].dependents.toFinset ↔ dag.Link i j := by
      intro j
      have dependents : dependentsAt dag.nodes i = dag.nodes[i].dependents := by
        unfold dependentsAt
        rw [List.getElem?_eq_getElem insideNodes]
        rfl
      rw [order.mem_iterate, List.mem_toFinset, ← dependents]
      exact dag.linked i j
    have toHere₂ : ∀ s ∈ marked marks₂.onStack, ReflTransGen dag.Link s i := by
      intro s onStack
      rw [onStack₂] at onStack
      rcases onStack with rfl | onStack
      · exact .refl
      · exact (toHere s onStack).to_reflTransGen
    have enough₂ : dag.unvisited marks₂ ≤ fuel :=
      Nat.le_of_lt_succ ((unvisited_lt inside fresh seen₂ more₂).trans_le enough)
    obtain ⟨found, marks₃, run, searched, finished⟩ :=
      searchDependents_searched ih (fun j => (links j).mp) searching₂ toHere₂ enough₂
    unfold hasCycleHelper
    rw [read, Exec.ok_bind]
    simp only [Bool.false_eq_true, if_false]
    rw [setVisited, Exec.ok_bind, setOnStack, Exec.ok_bind, readAt_of_lt insideNodes, Exec.ok_bind,
      run, Exec.ok_bind]
    cases found with
    | true => exact ⟨true, marks₃, rfl, ⟨searched.cycle, nofun, nofun, nofun⟩, nofun⟩
    | false =>
      have stack₃ := (searched.sameStack rfl).trans onStack₂
      have more₃ := more₂.trans (searched.visitedMore rfl)
      have here : i ∈ marked marks₃.onStack := stack₃ ▸ Set.mem_insert i _
      have offStack : i ∉ marked marks.onStack := fun onStack =>
        fresh (searching.search.onStack_visited onStack)
      obtain ⟨marks₄, popped, searching₄, visited₄, stack₄⟩ := (searched.searching rfl).pop here
        fun j link => finished rfl j ((links j).mpr link)
      refine ⟨false, marks₄, ?_, ⟨nofun, fun _ => searching₄, fun _ => ?_, fun _ => ?_⟩, fun _ => ?_⟩
      · simp only [Bool.false_eq_true, if_false]
        rw [popped]
        rfl
      · rw [stack₄, stack₃, Set.insert_sdiff_self_of_notMem offStack]
      · rw [visited₄]
        exact more₃
      · rw [visited₄]
        exact searched.visitedMore rfl seen₂

end Recursion

/-! ## All nodes -/

section Nodes

variable (order : IterationOrder) (dag : DAG T LinkMetadataT)

/-- One round of the loop over all nodes. The stack is empty between two rounds. -/
theorem hasCycleHelper_round {fuel i : Nat} {marks : SearchMarks} (inside : i < dag.size)
    (searching : Searching dag marks) (emptyStack : marked marks.onStack = ∅)
    (enough : dag.unvisited marks < fuel) :
    ∃ found marks', hasCycleHelper order dag fuel i marks = .ok (found, marks') ∧
      Searched dag marks found marks' ∧ (found = false → i ∈ marked marks'.visited) := by
  by_cases seen : i ∈ marked marks.visited
  · obtain ⟨fuel, rfl⟩ : ∃ k, fuel = k + 1 := ⟨fuel - 1, by omega⟩
    obtain ⟨mark, read, isVisited⟩ :=
      @readAt_marked marks.visited _ (searching.visitedLength ▸ inside)
    obtain rfl : mark = true := isVisited.mpr seen
    have onStackInside : i < marks.onStack.length := searching.onStackLength ▸ inside
    have sameStack : marked (marks.onStack.set i false) = marked marks.onStack := by
      rw [(marked_set onStackInside).2, emptyStack, Set.empty_sdiff]
    refine ⟨false, ⟨marks.visited, marks.onStack.set i false⟩, ?_, ⟨nofun, fun _ => ?_,
      fun _ => sameStack, fun _ => subset_rfl⟩, fun _ => seen⟩
    · unfold hasCycleHelper setOnStack
      rw [read, Exec.ok_bind, writeAt_of_lt onStackInside]
      rfl
    · refine ⟨searching.visitedLength, (List.length_set ..).trans searching.onStackLength, ?_⟩
      rw [sameStack]
      exact searching.search
  · refine hasCycleHelper_searches order dag fuel i marks inside searching seen ?_ enough.le
    rw [emptyStack]
    exact fun s onStack => absurd onStack (Set.notMem_empty s)

theorem searchNodes_returns {fuel : Nat} {nodes : List Nat} (inside : ∀ i ∈ nodes, i < dag.size)
    {marks : SearchMarks} (searching : Searching dag marks) (emptyStack : marked marks.onStack = ∅)
    (enough : dag.unvisited marks < fuel) :
    ∃ found, searchNodes order dag fuel nodes marks = .ok found ∧
      (found = true → ∃ i, TransGen dag.Link i i) ∧
        (found = false → ∃ visited, DepthFirst dag.Link visited ∅ ∧ marked marks.visited ⊆ visited ∧
          ∀ i ∈ nodes, i ∈ visited) := by
  induction nodes generalizing marks with
  | nil =>
    refine ⟨false, rfl, nofun, fun _ => ⟨_, emptyStack ▸ searching.search, subset_rfl, ?_⟩⟩
    exact fun _ none => absurd none List.not_mem_nil
  | cons i nodes ih =>
    obtain ⟨here, inside⟩ := List.forall_mem_cons.mp inside
    obtain ⟨found, marks₁, run, searched, seen⟩ :=
      hasCycleHelper_round order dag here searching emptyStack enough
    unfold searchNodes
    rw [run, Exec.ok_bind]
    cases found with
    | true => exact ⟨true, rfl, searched.cycle, nofun⟩
    | false =>
      have more := searched.visitedMore rfl
      obtain ⟨found, run₁, cycle, acyclic⟩ := ih inside (searched.searching rfl)
        ((searched.sameStack rfl).trans emptyStack) ((unvisited_le more).trans_lt enough)
      refine ⟨found, run₁, cycle, fun no => ?_⟩
      obtain ⟨visited, search, more₁, all⟩ := acyclic no
      refine ⟨visited, search, more.trans more₁, fun j inside => ?_⟩
      rcases List.mem_cons.mp inside with rfl | inside
      · exact more₁ (seen rfl)
      · exact all j inside

theorem searching_start :
    Searching dag ⟨List.replicate dag.size false, List.replicate dag.size false⟩ := by
  refine ⟨List.length_replicate, List.length_replicate, ?_⟩
  rw [marked_replicate]
  exact .start dag.Link

theorem hasCycle_returns {fuel : Nat} (enough : dag.size < fuel) :
    ∃ found, hasCycle order dag fuel = .ok found ∧
      (found = true ↔ ∃ i, TransGen dag.Link i i) := by
  have few : dag.unvisited ⟨List.replicate dag.size false, List.replicate dag.size false⟩ < fuel := by
    refine lt_of_le_of_lt (Finset.card_filter_le _ _) ?_
    rw [Finset.card_range]
    exact enough
  obtain ⟨found, run, cycle, acyclic⟩ := searchNodes_returns order dag
    (fun i => List.mem_range.mp) (searching_start dag) (marked_replicate dag.size) few
  refine ⟨found, run, cycle, ?_⟩
  rintro ⟨i, path⟩
  by_contra no
  obtain ⟨visited, search, -, all⟩ := acyclic (Bool.eq_false_iff.mpr no)
  obtain ⟨j, link, -⟩ := TransGen.head'_iff.mp path
  exact search.not_transGen (all i (List.mem_range.mpr link.inside.1)) path

/-- **`hasCycle`** ends, with recursions no deeper than there are nodes, and finds a cycle exactly if
some node is its own indirect dependent. -/
theorem hasCycle_exact :
    ∃ found, (∀ fuel, dag.size < fuel → hasCycle order dag fuel = .ok found) ∧
      (found = true ↔ ∃ i, TransGen dag.Link i i) := by
  obtain ⟨found, run, iff⟩ := hasCycle_returns order dag (Nat.lt_succ_self dag.size)
  refine ⟨found, fun fuel enough => ?_, iff⟩
  obtain ⟨found', run', iff'⟩ := hasCycle_returns order dag enough
  rw [run', Bool.eq_iff_iff.mpr (iff'.trans iff.symm)]

end Nodes

end DAG

end Quickstep.Utility
