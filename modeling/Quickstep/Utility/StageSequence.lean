import Mathlib.Data.Finset.Range
import Mathlib.Data.Finset.Sort
import Mathlib.Data.List.Nodup
import Mathlib.Data.List.GetD
import Quickstep.Lib.Levels
import Quickstep.Utility.DAG

/-!
# The stage sequence of an acyclic graph

The rounds of the backward sweep visit the levels of the links. The last round that reaches a node is
its depth, so a node finishes as many stages before the end as its longest path has links, and starts
one stage after its dependencies have finished.
-/

namespace Quickstep.Utility
open Quickstep.Lib

namespace DAG

variable {T LinkMetadataT : Type} (order : IterationOrder) {dag : DAG T LinkMetadataT}

/-! ## Links and levels -/

/-- The levels of the links. -/
abbrev OnLevel (dag : DAG T LinkMetadataT) : Nat → Nat → Prop := Level dag.Link (Finset.range dag.size)

theorem dependenciesAt_of_lt {i : Nat} (inside : i < dag.nodes.length) :
    dependenciesAt dag.nodes i = dag.nodes[i].dependencies := by
  unfold dependenciesAt
  rw [List.getElem?_eq_getElem inside]
  rfl

theorem Link.inside {i j : Nat} (link : dag.Link i j) : i < dag.size ∧ j < dag.size := by
  constructor
  · have dependent : j ∈ dependentsAt dag.nodes i := (dag.linked i j).mpr link
    by_contra beyond
    unfold dependentsAt at dependent
    rw [List.getElem?_eq_none (Nat.le_of_not_lt beyond)] at dependent
    cases dependent
  · by_contra beyond
    unfold Link dependenciesAt at link
    rw [List.getElem?_eq_none (Nat.le_of_not_lt beyond)] at link
    cases link

theorem Acyclic.finiteAcyclic (acyclic : dag.Acyclic) :
    FiniteAcyclic dag.Link (Finset.range dag.size) where
  inside link := by
    simpa only [Finset.mem_range] using link.inside
  irreflexive := acyclic

/-- A node is on the first level if it has no dependents. -/
theorem onLevel_zero_iff {i : Nat} (inside : i < dag.nodes.length) :
    dag.OnLevel 0 i ↔ dag.nodes[i].dependents.isEmpty = true := by
  have mem : i ∈ Finset.range dag.size := Finset.mem_range.mpr inside
  have dependents : dependentsAt dag.nodes i = dag.nodes[i].dependents := by
    unfold dependentsAt
    rw [List.getElem?_eq_getElem inside]
    rfl
  rw [List.isEmpty_iff, List.eq_nil_iff_forall_not_mem]
  constructor
  · intro level j isDependent
    exact level.2 j ((dag.linked i j).mp (dependents ▸ isDependent))
  · intro none
    refine ⟨mem, fun j link => none j ?_⟩
    rw [← dependents]
    exact (dag.linked i j).mpr link

/-! ## The backward sweep -/

/-- The sweep has visited the levels up to `k`. The offset of a node is one past the last level on which
it was met. -/
structure Swept (dag : DAG T LinkMetadataT) (k : Nat) (s : FinishSweep) : Prop where
  numStages : s.numStages = k + 1
  length : s.nodeFinishStageOffsets.length = dag.size
  current : ∀ i, i ∈ s.currentStageFinish ↔ dag.OnLevel k i
  visited : ∀ l i, l ≤ k → dag.OnLevel l i → l < s.nodeFinishStageOffsets.getD i 0
  offset : ∀ l i, s.nodeFinishStageOffsets.getD i 0 = l + 1 → dag.OnLevel l i

theorem getD_set {α : Type} {xs : List α} {i : Nat} (inside : i < xs.length) (x default : α) (j : Nat) :
    (xs.set i x).getD j default = if j = i then x else xs.getD j default := by
  rw [List.getD_eq_getElem?_getD, List.getElem?_set, List.getD_eq_getElem?_getD]
  by_cases here : i = j
  · subst here
    simp [inside]
  · simp [here, Ne.symm here]

theorem getD_replicate_zero (n i : Nat) : (List.replicate n 0).getD i 0 = 0 := by
  rw [List.getD_eq_getElem?_getD, List.getElem?_replicate]
  split <;> rfl

/-- An element of the loop over all nodes is a node. -/
theorem lt_of_range_eq {n a : Nat} {done rest : List Nat} (split : List.range n = done ++ a :: rest) :
    a < n := by
  rw [← List.mem_range, split]
  exact List.mem_append_right done List.mem_cons_self

/-- The first loop has looked at the nodes `done`. -/
structure Started (dag : DAG T LinkMetadataT) (done : List Nat) (s : FinishSweep) : Prop where
  numStages : s.numStages = 1
  length : s.nodeFinishStageOffsets.length = dag.size
  current : ∀ i, i ∈ s.currentStageFinish ↔ i ∈ done ∧ dag.OnLevel 0 i
  offset : ∀ i, s.nodeFinishStageOffsets.getD i 0 = if i ∈ s.currentStageFinish then 1 else 0

theorem exists_startSweep :
    ∃ s, dag.startSweep = .ok s ∧ Started dag (List.range dag.size) s := by
  unfold startSweep
  apply exists_foldlM (Started dag)
  · exact ⟨rfl, List.length_replicate, by simp, fun i => getD_replicate_zero dag.size i⟩
  · intro done a rest s split started
    have inside : a < dag.nodes.length := lt_of_range_eq split
    have level := onLevel_zero_iff inside
    rw [readAt_of_lt inside]
    cases sink : dag.nodes[a].dependents.isEmpty with
    | false =>
      have notLevel : ¬ dag.OnLevel 0 a := by simp [level, sink]
      refine ⟨s, by simp [sink, bind, Except.bind, pure, Except.pure], started.numStages,
        started.length, ?_, started.offset⟩
      intro i
      rw [started.current]
      by_cases here : i = a
      · simp [here, notLevel]
      · simp [here]
    | true =>
      have onLevel : dag.OnLevel 0 a := level.mpr sink
      have room : a < s.nodeFinishStageOffsets.length := started.length ▸ inside
      refine ⟨{ s with
        nodeFinishStageOffsets := s.nodeFinishStageOffsets.set a 1
        currentStageFinish := insert a s.currentStageFinish }, ?_, started.numStages, ?_, ?_, ?_⟩
      · simp [sink, bind, Except.bind, pure, Except.pure, writeAt_of_lt room]
      · rw [List.length_set, started.length]
      · intro i
        rw [Finset.mem_insert, started.current, List.mem_append, List.mem_singleton]
        by_cases here : i = a
        · simp [here, onLevel]
        · simp [here]
      · intro i
        rw [getD_set room, started.offset]
        by_cases here : i = a <;> simp [here]

/-- The loop over all nodes finds the first level. -/
theorem swept_startSweep : ∃ s, dag.startSweep = .ok s ∧ Swept dag 0 s := by
  obtain ⟨s, run, started⟩ : ∃ s, dag.startSweep = .ok s ∧ Started dag (List.range dag.size) s :=
    exists_startSweep
  have current (i : Nat) : i ∈ s.currentStageFinish ↔ dag.OnLevel 0 i := by
    rw [started.current, and_iff_right_iff_imp, List.mem_range]
    intro level
    exact Finset.mem_range.mp level.1
  refine ⟨s, run, started.numStages, started.length, current, ?_, ?_⟩
  · intro l i first level
    obtain rfl := Nat.le_zero.mp first
    rw [started.offset, if_pos ((current i).mpr level)]
    exact Nat.one_pos
  · intro l i offset
    rw [started.offset] at offset
    split at offset
    · next met =>
      obtain rfl : l = 0 := by omega
      exact (current i).mp met
    · omega

/-- The nodes of a set were given the stage `numStages` and added to the prior stage. -/
structure Marked (numStages : Nat) (marks : Nat → Prop) (acc acc' : List Nat × Finset Nat) : Prop where
  length : acc'.1.length = acc.1.length
  mem : ∀ i, i ∈ acc'.2 ↔ i ∈ acc.2 ∨ marks i
  marked : ∀ i, marks i → acc'.1.getD i 0 = numStages
  kept : ∀ i, ¬ marks i → acc'.1.getD i 0 = acc.1.getD i 0

theorem Marked.trans {numStages : Nat} {marks marks' : Nat → Prop}
    {acc acc' acc'' : List Nat × Finset Nat} (first : Marked numStages marks acc acc')
    (second : Marked numStages marks' acc' acc'') :
    Marked numStages (fun i => marks i ∨ marks' i) acc acc'' where
  length := second.length.trans first.length
  mem i := by rw [second.mem, first.mem, or_assoc]
  marked i isMarked := by
    by_cases later : marks' i
    · exact second.marked i later
    · rw [second.kept i later]
      exact first.marked i (isMarked.resolve_right later)
  kept i notMarked := by
    rw [second.kept i fun later => notMarked (.inr later)]
    exact first.kept i fun before => notMarked (.inl before)

/-- The dependencies of one node. -/
theorem sweepNode_marks (numStages : Nat) {node : Nat} (inside : node < dag.size)
    {acc : List Nat × Finset Nat} (length : acc.1.length = dag.size) :
    ∃ acc', sweepNode order dag numStages acc node = .ok acc' ∧
      Marked numStages (fun i => dag.Link i node) acc acc' := by
  unfold sweepNode
  rw [readAt_of_lt inside]
  have links (i : Nat) : i ∈ order.iterate dag.nodes[node].dependencies ↔ dag.Link i node := by
    rw [order.mem_iterate, ← dependenciesAt_of_lt inside]
    rfl
  obtain ⟨acc', run, marked⟩ : ∃ acc', (order.iterate dag.nodes[node].dependencies).foldlM
      (fun acc dependencyNode => do
        let offsets ← writeAt acc.1 dependencyNode numStages
        pure (offsets, insert dependencyNode acc.2)) acc = .ok acc' ∧
      Marked numStages (· ∈ order.iterate dag.nodes[node].dependencies) acc acc' := by
    apply exists_foldlM fun done acc' => Marked numStages (· ∈ done) acc acc'
    · exact ⟨rfl, by simp, by simp, by simp⟩
    · intro done a rest acc' split marked
      have link : dag.Link a node := by
        rw [← links, split]
        exact List.mem_append_right done List.mem_cons_self
      have room : a < acc'.1.length := by
        rw [marked.length, length]
        exact link.inside.1
      have here : Marked numStages (· = a) acc' (acc'.1.set a numStages, insert a acc'.2) := by
        refine ⟨List.length_set, ?_, ?_, ?_⟩
        · intro i
          rw [Finset.mem_insert, or_comm]
        · rintro i rfl
          rw [getD_set room, if_pos rfl]
        · intro i other
          rw [getD_set room, if_neg other]
      refine ⟨(acc'.1.set a numStages, insert a acc'.2), ?_, ?_⟩
      · rw [writeAt_of_lt room]
        rfl
      · simpa only [List.mem_append, List.mem_singleton] using marked.trans here
  refine ⟨acc', run, ?_⟩
  simpa only [links] using marked

/-- **One round** of the sweep visits the next level. -/
theorem Swept.sweepStage (acyclic : FiniteAcyclic dag.Link (Finset.range dag.size)) {k : Nat}
    {s : FinishSweep} (swept : Swept dag k s) :
    ∃ s', sweepStage order dag s = .ok s' ∧ Swept dag (k + 1) s' := by
  unfold DAG.sweepStage
  obtain ⟨acc, run, marked⟩ : ∃ acc, (order.iterate s.currentStageFinish).foldlM
      (sweepNode order dag (s.numStages + 1)) (s.nodeFinishStageOffsets, ∅) = .ok acc ∧
      Marked (s.numStages + 1) (fun i => ∃ c ∈ order.iterate s.currentStageFinish, dag.Link i c)
        (s.nodeFinishStageOffsets, ∅) acc := by
    apply exists_foldlM fun done acc => Marked (s.numStages + 1) (fun i => ∃ c ∈ done, dag.Link i c)
      (s.nodeFinishStageOffsets, ∅) acc
    · exact ⟨rfl, by simp, by simp, by simp⟩
    · intro done a rest acc split marked
      have level : dag.OnLevel k a := by
        rw [← swept.current, ← order.mem_iterate, split]
        exact List.mem_append_right done List.mem_cons_self
      have inside : a < dag.size := Finset.mem_range.mp (level.mem acyclic)
      obtain ⟨acc', run, here⟩ := sweepNode_marks order (s.numStages + 1) inside
        (marked.length.trans swept.length)
      refine ⟨acc', run, ?_⟩
      simpa only [List.mem_append, List.mem_singleton, or_and_right, exists_or, exists_eq_left] using
        marked.trans here
  have next (i : Nat) : (∃ c ∈ order.iterate s.currentStageFinish, dag.Link i c) ↔
      dag.OnLevel (k + 1) i := by
    constructor
    · rintro ⟨c, isCurrent, link⟩
      exact ⟨c, link, (swept.current c).mp ((order.mem_iterate _ _).mp isCurrent)⟩
    · rintro ⟨c, link, level⟩
      exact ⟨c, (order.mem_iterate _ _).mpr ((swept.current c).mpr level), link⟩
  simp only [next] at marked
  refine ⟨⟨acc.1, acc.2, s.numStages + 1⟩, ?_, ?_, ?_, ?_, ?_, ?_⟩
  · show (List.foldlM _ _ _ >>= _) = _
    rw [run]
    rfl
  · rw [swept.numStages]
  · exact marked.length.trans swept.length
  · intro i
    rw [marked.mem]
    simp
  · intro l i le level
    by_cases last : dag.OnLevel (k + 1) i
    · show l < acc.1.getD i 0
      rw [marked.marked i last, swept.numStages]
      omega
    · show l < acc.1.getD i 0
      rw [marked.kept i last]
      have before : l ≠ k + 1 := by
        rintro rfl
        exact last level
      exact swept.visited l i (by omega) level
  · intro l i offset
    replace offset : acc.1.getD i 0 = l + 1 := offset
    by_cases last : dag.OnLevel (k + 1) i
    · rw [marked.marked i last, swept.numStages] at offset
      obtain rfl : l = k + 1 := by omega
      exact last
    · rw [marked.kept i last] at offset
      exact swept.offset l i offset

/-- **The sweep ends** one round after the last level. -/
theorem exists_sweep (acyclic : FiniteAcyclic dag.Link (Finset.range dag.size)) {s : FinishSweep}
    (swept : Swept dag 0 s) :
    ∃ levels s', Ends sweepContinues (DAG.sweepStage order dag) s s' ∧ Swept dag levels s' ∧
      (∀ k < levels, ∃ i, dag.OnLevel k i) ∧ ∀ i, ¬ dag.OnLevel levels i := by
  have round : ∀ s, (∃ k, Swept dag k s ∧ ∀ l < k, ∃ i, dag.OnLevel l i) →
      sweepContinues s = .ok false ∨ ∃ next, sweepContinues s = .ok true ∧
        DAG.sweepStage order dag s = .ok next ∧
        (∃ k, Swept dag k next ∧ ∀ l < k, ∃ i, dag.OnLevel l i) ∧
        dag.size + 1 - next.numStages < dag.size + 1 - s.numStages := by
    rintro s ⟨k, swept, nonempty⟩
    by_cases done : s.currentStageFinish = ∅
    · exact .inl (by simp [sweepContinues, done, pure, Except.pure])
    · obtain ⟨i, isCurrent⟩ := Finset.nonempty_iff_ne_empty.mpr done
      have level := (swept.current i).mp isCurrent
      have bound := level.lt_card acyclic
      rw [Finset.card_range] at bound
      obtain ⟨next, run, swept'⟩ := swept.sweepStage order acyclic
      refine .inr ⟨next, by simp [sweepContinues, done, pure, Except.pure], run, ⟨k + 1, swept', ?_⟩, ?_⟩
      · intro l before
        exact level.exists_of_le (Nat.le_of_lt_succ before)
      · rw [swept'.numStages, swept.numStages]
        omega
  obtain ⟨s', ends, ⟨levels, swept', nonempty⟩, done⟩ := exists_ends _ _ round ⟨0, swept, by simp⟩
  refine ⟨levels, s', ends, swept', nonempty, ?_⟩
  intro i level
  have isCurrent := (swept'.current i).mpr level
  have empty : s'.currentStageFinish = ∅ := by
    simpa [sweepContinues, pure, Except.pure] using done
  rw [empty] at isCurrent
  cases isCurrent

/-- After the sweep the offset of a node is one more than its depth. -/
theorem Swept.offset_eq (acyclic : FiniteAcyclic dag.Link (Finset.range dag.size)) {levels : Nat}
    {s : FinishSweep} (swept : Swept dag levels s) (last : ∀ i, ¬ dag.OnLevel levels i) {i : Nat}
    (inside : i < dag.size) :
    depth dag.Link (Finset.range dag.size) i < levels ∧
      s.nodeFinishStageOffsets.getD i 0 = depth dag.Link (Finset.range dag.size) i + 1 := by
  have level := level_depth acyclic (Finset.mem_range.mpr inside)
  have within : depth dag.Link (Finset.range dag.size) i < levels := by
    by_contra beyond
    obtain ⟨j, later⟩ := level.exists_of_le (Nat.le_of_not_lt beyond)
    exact last j later
  have above := swept.visited _ i (Nat.le_of_lt within) level
  obtain ⟨l, offset⟩ := Nat.exists_eq_add_of_le' (Nat.succ_le_of_lt (Nat.zero_lt_of_lt above))
  have below := (swept.offset l i offset).le_depth acyclic
  exact ⟨within, by omega⟩

/-! ## Start and finish stages -/

section Stages

variable {levels : Nat} {offsets : List Nat}

theorem sizeT_of_le {x y : Nat} (le : y ≤ x) : sizeT (x - y) = x - y := by
  unfold sizeT
  rw [if_neg (by omega)]
  omega

/-- The stage after the one in which a node of the given depth finishes. -/
theorem sizeT_candidate {d : Nat} (within : d < levels) :
    sizeT ((levels : Int) - (d + 1 : Nat) + 1) = levels - d := by
  unfold sizeT
  rw [if_neg (by omega)]
  omega

/-- The offsets that the sweep leaves: no subtraction from the number of stages underflows. -/
structure Offsets (dag : DAG T LinkMetadataT) (levels : Nat) (offsets : List Nat) : Prop where
  length : offsets.length = dag.size
  depth_lt : ∀ i, i < dag.size → depth dag.Link (Finset.range dag.size) i < levels
  offset : ∀ i, i < dag.size → offsets.getD i 0 = depth dag.Link (Finset.range dag.size) i + 1

/-- A node starts one stage after the last of its dependencies, or in the first stage. -/
structure StartsAt (dag : DAG T LinkMetadataT) (levels i start : Nat) : Prop where
  after : ∀ d, dag.Link d i → levels - depth dag.Link (Finset.range dag.size) d ≤ start
  reached : start = 0 ∨
    ∃ d, dag.Link d i ∧ start = levels - depth dag.Link (Finset.range dag.size) d

theorem exists_startStage (left : Offsets dag levels offsets) {i : Nat} (inside : i < dag.size) :
    ∃ start, startStage order dag offsets levels i = .ok start ∧ StartsAt dag levels i start := by
  unfold startStage
  rw [readAt_of_lt inside]
  have links (d : Nat) : d ∈ order.iterate dag.nodes[i].dependencies ↔ dag.Link d i := by
    rw [order.mem_iterate, ← dependenciesAt_of_lt inside]
    rfl
  obtain ⟨start, run, after, reached⟩ : ∃ start, (order.iterate dag.nodes[i].dependencies).foldlM
      (fun nodeStartStage dependencyNode => do
        let offset ← readAt offsets dependencyNode
        let candidateStartStage := sizeT (levels - offset + 1)
        pure (if candidateStartStage > nodeStartStage then candidateStartStage else nodeStartStage))
      0 = .ok start ∧
      (∀ d ∈ order.iterate dag.nodes[i].dependencies,
        levels - depth dag.Link (Finset.range dag.size) d ≤ start) ∧
      (start = 0 ∨ ∃ d ∈ order.iterate dag.nodes[i].dependencies,
        start = levels - depth dag.Link (Finset.range dag.size) d) := by
    apply exists_foldlM fun done start =>
      (∀ d ∈ done, levels - depth dag.Link (Finset.range dag.size) d ≤ start) ∧
      (start = 0 ∨ ∃ d ∈ done, start = levels - depth dag.Link (Finset.range dag.size) d)
    · simp
    · rintro done a rest start split ⟨after, reached⟩
      have link : dag.Link a i := by
        rw [← links, split]
        exact List.mem_append_right done List.mem_cons_self
      have inside' : a < dag.size := link.inside.1
      have room : a < offsets.length := left.length ▸ inside'
      have offset : offsets[a] = depth dag.Link (Finset.range dag.size) a + 1 := by
        rw [← left.offset a inside', List.getD_eq_getElem _ _ room]
      refine ⟨max (levels - depth dag.Link (Finset.range dag.size) a) start, ?_, ?_, ?_⟩
      · rw [readAt_of_lt room, offset]
        show Except.ok (if sizeT _ > start then sizeT _ else start) = _
        rw [sizeT_candidate (left.depth_lt a inside')]
        split
        · next later => rw [Nat.max_eq_left (Nat.le_of_lt later)]
        · next before => rw [Nat.max_eq_right (Nat.le_of_not_lt before)]
      · intro d mem
        rcases List.mem_append.mp mem with before | last
        · exact Nat.le_trans (after d before) (Nat.le_max_right _ _)
        · obtain rfl := List.mem_singleton.mp last
          exact Nat.le_max_left _ _
      · rcases Nat.le_total start (levels - depth dag.Link (Finset.range dag.size) a) with le | le
        · exact .inr ⟨a, by simp, Nat.max_eq_left le⟩
        · rw [Nat.max_eq_right le]
          rcases reached with rfl | ⟨d, before, same⟩
          · exact .inl rfl
          · exact .inr ⟨d, List.mem_append_left _ before, same⟩
  simp only [links] at after reached
  exact ⟨start, run, after, reached⟩

/-- A node starts no later than it finishes, and after its dependencies have finished. -/
theorem StartsAt.lt (acyclic : FiniteAcyclic dag.Link (Finset.range dag.size))
    (left : Offsets dag levels offsets) {i start : Nat} (starts : StartsAt dag levels i start)
    (inside : i < dag.size) : start + depth dag.Link (Finset.range dag.size) i < levels := by
  have within := left.depth_lt i inside
  rcases starts.reached with rfl | ⟨d, link, rfl⟩
  · omega
  · have deeper := depth_lt acyclic link
    have within' := left.depth_lt d link.inside.1
    omega

theorem exists_startStages (left : Offsets dag levels offsets) :
    ∃ starts, startStages order dag offsets levels = .ok starts ∧ starts.length = dag.size ∧
      ∀ i, i < dag.size → StartsAt dag levels i (starts.getD i 0) := by
  unfold startStages
  obtain ⟨starts, run, length, startsAt⟩ : ∃ starts, (List.range dag.size).foldlM
      (fun starts nodeIndex => do
        let start ← startStage order dag offsets levels nodeIndex
        writeAt starts nodeIndex start) (List.replicate dag.size 0) = .ok starts ∧
      starts.length = dag.size ∧
      ∀ i ∈ List.range dag.size, StartsAt dag levels i (starts.getD i 0) := by
    apply exists_foldlM fun (done starts : List Nat) => starts.length = dag.size ∧
      ∀ i ∈ done, StartsAt dag levels i (starts.getD i 0)
    · simp
    · rintro done a rest starts split ⟨length, startsAt⟩
      have inside : a < dag.size := lt_of_range_eq split
      have room : a < starts.length := length ▸ inside
      obtain ⟨start, run, here⟩ := exists_startStage order left inside
      refine ⟨starts.set a start, ?_, by rw [List.length_set, length], ?_⟩
      · rw [run]
        exact writeAt_of_lt room start
      · intro i mem
        rw [getD_set room]
        split
        · next same => exact same ▸ here
        · next other =>
          apply startsAt i
          simpa [other] using mem
  exact ⟨starts, run, length, fun i inside => startsAt i (List.mem_range.mpr inside)⟩

/-- Pushing a node appends it to the lists of two stages. -/
theorem exists_pushNode {starts : List Nat} {stages : List Stage} {i start finish : Nat}
    (startsAt : readAt starts i = .ok start) {offset : Nat} (finishesAt : readAt offsets i = .ok offset)
    (subtraction : sizeT ((levels : Int) - offset) = finish) (room : start < stages.length)
    (room' : finish < stages.length) :
    ∃ stages', pushNode starts offsets levels stages i = .ok stages' ∧
      stages'.length = stages.length ∧
      ∀ k, stages'.getD k ([], []) =
        ((stages.getD k ([], [])).1 ++ if k = start then [i] else [],
          (stages.getD k ([], [])).2 ++ if k = finish then [i] else []) := by
  obtain ⟨mid, isMid⟩ : ∃ mid, mid = stages.set start (stages[start].1 ++ [i], stages[start].2) :=
    ⟨_, rfl⟩
  have first (k : Nat) : mid.getD k ([], []) = _ := isMid ▸ getD_set room _ _ k
  have room'' : finish < mid.length := by
    rw [isMid, List.length_set]
    exact room'
  refine ⟨mid.set finish (mid[finish].1, mid[finish].2 ++ [i]), ?_, ?_, ?_⟩
  · unfold pushNode
    rw [startsAt, finishesAt]
    show (readAt stages start >>= _) = _
    rw [readAt_of_lt room]
    show (writeAt stages start _ >>= _) = _
    rw [writeAt_of_lt room, ← isMid]
    show (readAt mid (sizeT ((levels : Int) - offset)) >>= _) = _
    rw [subtraction, readAt_of_lt room'']
    exact writeAt_of_lt room'' _
  · rw [List.length_set, isMid, List.length_set]
  · intro k
    rw [getD_set room'', first, ← List.getD_eq_getElem _ ([], []) room'', first]
    by_cases atStart : k = start
    · subst atStart
      by_cases atFinish : k = finish
      · subst atFinish
        simp [List.getElem?_eq_getElem room]
      · simp [atFinish, List.getElem?_eq_getElem room]
    · by_cases atFinish : k = finish
      · subst atFinish
        simp [atStart]
      · simp [atStart, atFinish]

/-- The stages after the nodes `done` were pushed. -/
structure Pushed (levels : Nat) (start finish : Nat → Nat) (done : List Nat) (stages : List Stage) :
    Prop where
  length : stages.length = levels
  stage : ∀ k, k < levels → stages.getD k ([], []) =
    (done.filter fun i => start i = k, done.filter fun i => finish i = k)

theorem exists_pushed {starts : List Nat} (left : Offsets dag levels offsets)
    (size : starts.length = dag.size)
    (within : ∀ i, i < dag.size → starts.getD i 0 < levels) :
    ∃ stages, (List.range dag.size).foldlM (pushNode starts offsets levels)
        (List.replicate levels ([], [])) = .ok stages ∧
      Pushed levels (starts.getD · 0) (fun i => levels - (depth dag.Link (Finset.range dag.size) i + 1))
        (List.range dag.size) stages := by
  apply exists_foldlM fun (done : List Nat) (stages : List Stage) => Pushed levels (starts.getD · 0)
    (fun i => levels - (depth dag.Link (Finset.range dag.size) i + 1)) done stages
  · refine ⟨List.length_replicate, fun k _ => ?_⟩
    rw [List.getD_eq_getElem?_getD, List.getElem?_replicate]
    split <;> rfl
  · intro done a rest stages split pushed
    have inside : a < dag.size := lt_of_range_eq split
    have deep := left.depth_lt a inside
    have offset := left.offset a inside
    have start := within a inside
    have startsAt : readAt starts a = .ok (starts.getD a 0) := by
      rw [readAt_of_lt (size ▸ inside), List.getD_eq_getElem]
    have finishesAt : readAt offsets a = .ok (depth dag.Link (Finset.range dag.size) a + 1) := by
      rw [readAt_of_lt (left.length ▸ inside), ← offset, List.getD_eq_getElem]
    obtain ⟨stages', run, length, stage⟩ := exists_pushNode startsAt finishesAt (sizeT_of_le deep)
      (pushed.length ▸ start) (by rw [pushed.length]; omega)
    refine ⟨stages', run, length.trans pushed.length, ?_⟩
    intro k bound
    rw [stage, pushed.stage k bound, List.filter_append, List.filter_append]
    simp only [List.filter_singleton, Bool.cond_decide, eq_comm]

/-- The nodes, sorted into the stages that a function puts them in. -/
theorem perm_flatMap_filter {n : Nat} {place : Nat → Nat} (within : ∀ i, i < n → place i < levels) :
    ((List.range levels).flatMap fun k => (List.range n).filter fun i => place i = k).Perm
      (List.range n) := by
  rw [List.perm_ext_iff_of_nodup _ List.nodup_range]
  · intro i
    simp only [List.mem_flatMap, List.mem_range, List.mem_filter, decide_eq_true_eq]
    constructor
    · rintro ⟨_, _, inside, _⟩
      exact inside
    · intro inside
      exact ⟨place i, within i inside, inside, rfl⟩
  · rw [List.nodup_flatMap]
    refine ⟨fun k _ => List.nodup_range.filter _, ?_⟩
    apply List.nodup_range.imp
    intro k l other i inFirst inSecond
    simp only [List.mem_filter, decide_eq_true_eq] at inFirst inSecond
    exact other (inFirst.2.symm.trans inSecond.2)

/-- The pieces of the stages. -/
theorem Pushed.flatMap {start finish : Nat → Nat} {done : List Nat} {stages : List Stage}
    (pushed : Pushed levels start finish done stages) :
    stages.flatMap Prod.fst = (List.range levels).flatMap (fun k => done.filter fun i => start i = k) ∧
      stages.flatMap Prod.snd =
        (List.range levels).flatMap fun k => done.filter fun i => finish i = k := by
  have same : stages = (List.range levels).map fun k =>
      (done.filter fun i => start i = k, done.filter fun i => finish i = k) := by
    apply List.ext_getElem
    · simp [pushed.length]
    · intro k bound bound'
      rw [List.getElem_map, List.getElem_range, ← pushed.stage k (pushed.length ▸ bound),
        List.getD_eq_getElem _ _ bound]
  constructor
  · rw [same, List.flatMap_map]
  · rw [same, List.flatMap_map]

/-- A node is in the lists of the stages where it starts and finishes alone. -/
theorem Pushed.mem {start finish : Nat → Nat} {done : List Nat} {stages : List Stage} {i k : Nat}
    (pushed : Pushed levels start finish done stages) :
    (i ∈ (stages.getD k ([], [])).1 → i ∈ done ∧ start i = k) ∧
      (i ∈ (stages.getD k ([], [])).2 → i ∈ done ∧ finish i = k) := by
  rcases Nat.lt_or_ge k levels with bound | beyond
  · rw [pushed.stage k bound]
    simp
  · have none : stages.getD k ([], []) = ([], []) :=
      List.getD_eq_default _ _ (pushed.length.le.trans beyond)
    rw [none]
    simp

end Stages

/-- What a stage sequence is for: every node starts once and finishes once, no earlier than it starts
and before its dependents start, and there are no more stages than a longest path needs. -/
structure Staged (dag : DAG T LinkMetadataT) (stages : List Stage) : Prop where
  starts : (stages.flatMap Prod.fst).Perm (List.range dag.size)
  finishes : (stages.flatMap Prod.snd).Perm (List.range dag.size)
  ordered : ∀ i start finish, i ∈ (stages.getD start ([], [])).1 →
    i ∈ (stages.getD finish ([], [])).2 → start ≤ finish
  links : ∀ i j, dag.Link i j → ∀ finish start, i ∈ (stages.getD finish ([], [])).2 →
    j ∈ (stages.getD start ([], [])).1 → finish < start
  longest : IsGreatest {n | ∃ path, IsPath dag.Link (Finset.range dag.size) path ∧ path.length = n}
    stages.length

/-- **Staging an acyclic graph** terminates without a fault, whatever the order of iteration. -/
theorem computeStageSequence_staged (dag : DAG T LinkMetadataT) (acyclic : dag.Acyclic) :
    ∃ fuel stages, computeStageSequence order dag fuel = .ok stages ∧ Staged dag stages := by
  have finite := acyclic.finiteAcyclic
  obtain ⟨first, begins, swept⟩ : ∃ s, dag.startSweep = .ok s ∧ Swept dag 0 s := swept_startSweep
  obtain ⟨levels, sweep, ⟨fuel, sweeps⟩, swept', nonempty, last⟩ := exists_sweep order finite swept
  have left : Offsets dag levels sweep.nodeFinishStageOffsets :=
    ⟨swept'.length, fun i inside => (swept'.offset_eq finite last inside).1,
      fun i inside => (swept'.offset_eq finite last inside).2⟩
  obtain ⟨starts, startRun, size, startsAt⟩ := exists_startStages order left
  have early (i : Nat) (inside : i < dag.size) := (startsAt i inside).lt finite left inside
  obtain ⟨stages, pushRun, pushed⟩ := exists_pushed left size fun i inside =>
    Nat.lt_of_le_of_lt (Nat.le_add_right _ _) (early i inside)
  refine ⟨fuel, stages, ?_, ?_, ?_, ?_, ?_, ?_⟩
  · have numStages : sizeT ((sweep.numStages : Int) - 1) = levels := by
      rw [swept'.numStages]
      exact sizeT_of_le (Nat.succ_le_succ (Nat.zero_le levels))
    unfold computeStageSequence
    rw [begins]
    show (whileLoop sweepContinues (sweepStage order dag) fuel first >>= _) = _
    rw [sweeps]
    show (startStages order dag sweep.nodeFinishStageOffsets (sizeT _) >>= _) = _
    rw [numStages, startRun]
    exact pushRun
  · rw [pushed.flatMap.1]
    apply perm_flatMap_filter
    intro i inside
    exact Nat.lt_of_le_of_lt (Nat.le_add_right _ _) (early i inside)
  · rw [pushed.flatMap.2]
    apply perm_flatMap_filter
    intro i inside
    have := left.depth_lt i inside
    omega
  · intro i start finish starting finishing
    obtain ⟨mem, rfl⟩ := pushed.mem.1 starting
    obtain ⟨-, rfl⟩ := pushed.mem.2 finishing
    have := early i (List.mem_range.mp mem)
    omega
  · intro i j link finish start finishing starting
    obtain ⟨mem, rfl⟩ := pushed.mem.2 finishing
    obtain ⟨mem', rfl⟩ := pushed.mem.1 starting
    have after := (startsAt j (List.mem_range.mp mem')).after i link
    have := left.depth_lt i (List.mem_range.mp mem)
    show levels - (depth dag.Link (Finset.range dag.size) i + 1) < starts.getD j 0
    omega
  · rw [pushed.length]
    exact isGreatest_path_length finite nonempty last

/-! ## A diamond with a chord -/

/-- Sets of indices, iterated in ascending order. -/
def ascending : IterationOrder := ⟨fun indices => indices.sort (· ≤ ·), fun _ _ => Finset.mem_sort _⟩

def fourNodes : DAG Unit Unit :=
  ((((empty.createNode ()).1.createNode ()).1.createNode ()).1.createNode ()).1

/-- Node 0 comes before nodes 1 and 2, and these before node 3; node 1 also comes before node 2. -/
def diamond : DAG Unit Unit :=
  let first : DAG Unit Unit := @createLink Unit Unit fourNodes 0 1 (by decide) (by decide) ()
  let second : DAG Unit Unit := @createLink Unit Unit first 0 2 (by decide) (by decide) ()
  let third : DAG Unit Unit := @createLink Unit Unit second 1 3 (by decide) (by decide) ()
  let fourth : DAG Unit Unit := @createLink Unit Unit third 2 3 (by decide) (by decide) ()
  @createLink Unit Unit fourth 1 2 (by decide) (by decide) ()

theorem diamond_acyclic : diamond.Acyclic := by
  have ascends : ∀ j < 4, ∀ i ∈ dependenciesAt diamond.nodes j, i < j := by decide
  have lt {i j : Nat} (link : diamond.Link i j) : i < j := ascends j link.inside.2 i link
  intro i cycle
  have below {j : Nat} (reaches : Relation.TransGen diamond.Link i j) : i < j := by
    induction reaches with
    | single link => exact lt link
    | tail _ link ih => exact Nat.lt_trans ih (lt link)
  exact Nat.lt_irrefl i (below cycle)

theorem computeStageSequence_staged_diamond :
    ∃ fuel stages, computeStageSequence ascending diamond fuel = .ok stages ∧
      Staged diamond stages :=
  computeStageSequence_staged ascending diamond diamond_acyclic

end DAG

end Quickstep.Utility
