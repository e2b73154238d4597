import Quickstep.Lib.WhileLoop
import Quickstep.Types.DefaultOperators

/-!
# Comparison loops with faults

The loops of the vectorised entry points of a comparator, where a comparison may be undefined: it
reads through pointers, and one may be null. A loop has a result exactly if every comparison that it
makes has one.
-/

namespace Quickstep.Types
open Quickstep.Lib Quickstep.Common TupleIdSequence

variable {n : Nat}

/-- `TupleIdSequence::set` of any id. -/
def setTuple (result : TupleIdSequence n) (id : Nat) (value : Bool) : Exec (TupleIdSequence n) :=
  if inside : id < n then .ok (result.set ⟨id, inside⟩ value) else .error .undefinedBehaviour

/-- Make the listed comparisons one after the other and set the bits of a new sequence. -/
def setCompared (bits : List (Nat × Exec Bool)) : Exec (TupleIdSequence n) :=
  bits.foldlM (fun result bit => bit.2 >>= setTuple result bit.1) (.create n)

/-- `&&`: nothing is compared where the guard fails. -/
def guarded (guard : Bool) (comparison : Exec Bool) : Exec Bool :=
  if guard then comparison else .ok false

def intersectWithFilter (filter : Option (TupleIdSequence n)) (result : TupleIdSequence n) :
    TupleIdSequence n :=
  match filter with
  | some filter => result.intersectWith filter
  | none => result

/-- A column loop. The comparison sees the position in the column and the tuple id. `skips` is for
the loops that leave a tuple out where the filter has none, `unmapped` are the bits that are set
without an existence map. -/
def columnVectorLoop (skips : Bool) (build : Build) (filter existenceMap : Option (TupleIdSequence n))
    (unmapped : List (Nat × Exec Bool)) (compareAt : Nat → Fin n → Exec Bool) :
    Exec (TupleIdSequence n) :=
  match build.vectorPredicateShortCircuit, filter, existenceMap with
  | true, some filter, some existenceMap =>
    if skips then
      setCompared ((existenceMap.ids.zipIdx.filter fun entry => filter.get entry.1).map fun entry =>
        (entry.1.val, compareAt entry.2 entry.1))
    else
      setCompared (existenceMap.ids.zipIdx.map fun entry =>
        (entry.1.val, guarded (filter.get entry.1) (compareAt entry.2 entry.1)))
  | true, some filter, none => setCompared (filter.ids.map fun id : Fin n => (id.val, compareAt id id))
  | _, filter, some existenceMap => do
    let result ← setCompared (existenceMap.ids.zipIdx.map fun entry =>
      (entry.1.val, compareAt entry.2 entry.1))
    pure (intersectWithFilter filter result)
  | _, filter, none => do
    let result ← setCompared unmapped
    pure (intersectWithFilter filter result)

/-- The bits of a loop over the positions of a column. -/
def positionBits (size : Nat) (compareAt : Nat → Exec Bool) : List (Nat × Exec Bool) :=
  (List.range size).map fun pos => (pos, compareAt pos)

/-- A loop over an accessor. -/
def valueAccessorLoop (build : Build) (accessor : ValueAccessor n)
    (filter : Option (TupleIdSequence n)) (compareAt : Fin n → Exec Bool) :
    Exec (TupleIdSequence n) :=
  match build.vectorPredicateShortCircuit, filter with
  | true, some filter => setCompared (filter.ids.map fun id => (id.val, compareAt id))
  | _, filter => do
    let result ← setCompared (accessor.positions.map fun id => (id.val, compareAt id))
    pure (intersectWithFilter filter result)

/-! ## What a loop returns -/

/-- A loop that compares the visited tuples and returns the candidates that compare. -/
structure Runs (execution : Exec (TupleIdSequence n)) (visited candidate : Fin n → Prop)
    (judge : Fin n → Exec Bool) : Prop where
  returns : (∃ result, execution = .ok result) ↔ ∀ t, visited t → ∃ holds, judge t = .ok holds
  mem : ∀ result, execution = .ok result → ∀ t, t ∈ result ↔ candidate t ∧ judge t = .ok true

/-- The tuples that a loop compares: without short circuit also those outside of the filter. -/
def Visited (build : Build) (filter existenceMap : Option (TupleIdSequence n)) (t : Fin n) : Prop :=
  Candidate (if build.vectorPredicateShortCircuit then filter else none) existenceMap t

theorem visited_of_candidate {build : Build} {filter existenceMap : Option (TupleIdSequence n)}
    {t : Fin n} (within : Within filter existenceMap) (candidate : Candidate filter existenceMap t) :
    Visited build filter existenceMap t := by
  unfold Visited
  split
  · exact candidate
  · exact candidate.exists_of_within within

/-- The result of a comparison, if it has one. -/
def verdict : Exec Bool → Bool
  | .ok holds => holds
  | .error _ => false

theorem verdict_eq_true {comparison : Exec Bool} :
    verdict comparison = true ↔ comparison = .ok true := by
  cases comparison with
  | ok holds => simp [verdict]
  | error fault => simp [verdict]

@[simp] theorem guarded_true (comparison : Exec Bool) : guarded true comparison = comparison := rfl

@[simp] theorem guarded_false (comparison : Exec Bool) : guarded false comparison = .ok false := rfl

theorem Visited.exists_of_within {build : Build} {filter existenceMap : Option (TupleIdSequence n)}
    {t : Fin n} (visited : Visited build filter existenceMap t) (within : Within filter existenceMap) :
    Candidate none existenceMap t := by
  unfold Visited at visited
  split at visited
  · exact visited.exists_of_within within
  · exact visited

section Loops

variable {ids : List (Fin n)} {judge : Fin n → Exec Bool}

theorem setTuple_fin (result : TupleIdSequence n) (id : Fin n) (value : Bool) :
    setTuple result id value = .ok (result.set id value) := dif_pos id.isLt

theorem foldlM_setTuple {start result : TupleIdSequence n} :
    (ids.map fun id => (id.val, judge id)).foldlM
        (fun result bit => bit.2 >>= setTuple result bit.1) start = .ok result ↔
      (∀ id ∈ ids, ∃ holds, judge id = .ok holds) ∧
        result = (ids.map fun id => (id, verdict (judge id))).foldl
          (fun result bit => result.set bit.1 bit.2) start := by
  induction ids generalizing start with
  | nil =>
    simp only [List.map_nil, List.foldlM_nil, List.foldl_nil, List.not_mem_nil, false_imp_iff,
      implies_true, true_and]
    exact ⟨fun same => (Except.ok.inj same).symm, fun same => congrArg Except.ok same.symm⟩
  | cons id ids ih =>
    rw [List.map_cons, List.foldlM_cons, List.map_cons, List.foldl_cons]
    cases compared : judge id with
    | error fault =>
      have faulty : ¬∀ id' ∈ id :: ids, ∃ holds, judge id' = .ok holds := by
        intro all
        obtain ⟨holds, ok⟩ := all id List.mem_cons_self
        rw [compared] at ok
        cases ok
      exact iff_of_false (fun contra => nomatch contra) fun both => faulty both.1
    | ok holds =>
      have step : (Except.ok holds >>= setTuple start id.val : Exec (TupleIdSequence n)) =
          .ok (start.set id holds) := setTuple_fin start id holds
      rw [step, Exec.ok_bind, ih]
      refine and_congr_left fun _ => ?_
      rw [List.forall_mem_cons]
      exact (and_iff_right ⟨holds, compared⟩).symm

/-- **One loop** over ids. -/
theorem setCompared_runs :
    Runs (setCompared (ids.map fun id : Fin n => (id.val, judge id))) (· ∈ ids) (· ∈ ids) judge where
  returns := by
    unfold setCompared
    simp only [foldlM_setTuple]
    exact ⟨fun returned => returned.choose_spec.1, fun all => ⟨_, all, rfl⟩⟩
  mem result run t := by
    obtain ⟨-, rfl⟩ := foldlM_setTuple.mp run
    rw [← verdict_eq_true]
    exact mem_setEach

variable {visited candidate : Fin n → Prop} {execution : Exec (TupleIdSequence n)}

theorem Runs.congr {visited' candidate' : Fin n → Prop} (runs : Runs execution visited candidate judge)
    (sameVisited : ∀ t, visited' t ↔ visited t)
    (sameCandidates : ∀ t, candidate' t ↔ candidate t) :
    Runs execution visited' candidate' judge where
  returns := by simp only [sameVisited, runs.returns]
  mem result run t := by rw [sameCandidates, runs.mem result run t]

/-- Comparisons that are the same where they are made. -/
theorem Runs.congr_judge {judge' : Fin n → Exec Bool} (runs : Runs execution visited candidate judge)
    (visits : ∀ t, candidate t → visited t) (same : ∀ t, visited t → judge' t = judge t) :
    Runs execution visited candidate judge' where
  returns := by
    rw [runs.returns]
    exact forall₂_congr fun t here => by rw [same t here]
  mem result run t := by
    rw [runs.mem result run t]
    exact and_congr_right fun here => by rw [same t (visits t here)]

/-- A loop that compares only inside of a filter. -/
theorem Runs.of_guarded {filter : Fin n → Bool}
    (runs : Runs execution (· ∈ ids) (· ∈ ids) fun t => guarded (filter t) (judge t)) :
    Runs execution (· ∈ ids.filter filter) (· ∈ ids.filter filter) judge where
  returns := by
    rw [runs.returns]
    constructor
    · intro all t mem
      obtain ⟨listed, inside⟩ := List.mem_filter.mp mem
      have compared := all t listed
      rwa [inside] at compared
    · intro all t listed
      cases inside : filter t with
      | true => exact all t (List.mem_filter.mpr ⟨listed, inside⟩)
      | false => exact ⟨false, rfl⟩
  mem result run t := by
    rw [runs.mem result run t, List.mem_filter]
    cases filter t with
    | true => simp
    | false => simp

/-- The intersection with the filter after a loop. -/
theorem Runs.intersectWithFilter {filter existenceMap : Option (TupleIdSequence n)}
    (runs : Runs execution (Candidate none existenceMap) (Candidate none existenceMap) judge)
    (within : Within filter existenceMap) :
    Runs (do let result ← execution; pure (intersectWithFilter filter result))
      (Candidate none existenceMap) (Candidate filter existenceMap) judge where
  returns := by
    rw [← runs.returns]
    constructor
    · rintro ⟨result, run⟩
      obtain ⟨before, ok, -⟩ := Exec.bind_ok run
      exact ⟨before, ok⟩
    · rintro ⟨before, ok⟩
      rw [ok]
      exact ⟨_, rfl⟩
  mem result run t := by
    obtain ⟨before, ok, intersected⟩ := Exec.bind_ok run
    cases intersected
    have mem := runs.mem before ok t
    cases filter with
    | none => exact mem
    | some filter =>
      show t ∈ before.intersectWith filter ↔ _
      rw [mem_intersectWith, mem, candidate_filter]
      constructor
      · rintro ⟨⟨-, holds⟩, inside⟩
        exact ⟨inside, holds⟩
      · rintro ⟨inside, holds⟩
        have inFilter : Candidate (some filter) existenceMap t := inside
        exact ⟨⟨inFilter.exists_of_within within, holds⟩, inside⟩

/-- **A loop over an accessor.** -/
theorem valueAccessorLoop_runs {build : Build} {accessor : ValueAccessor n}
    {filter : Option (TupleIdSequence n)} (within : Within filter accessor.tupleIdSequence) :
    Runs (valueAccessorLoop build accessor filter judge)
      (Visited build filter accessor.tupleIdSequence)
      (Candidate filter accessor.tupleIdSequence) judge := by
  have plain : Runs (setCompared (accessor.positions.map fun id => (id.val, judge id)))
      (Candidate none accessor.tupleIdSequence) (Candidate none accessor.tupleIdSequence) judge :=
    setCompared_runs.congr (fun _ => mem_iterated.symm) (fun _ => mem_iterated.symm)
  unfold valueAccessorLoop Visited
  cases build.vectorPredicateShortCircuit with
  | false =>
    have after := plain.intersectWithFilter within
    cases filter <;> exact after
  | true =>
    cases filter with
    | none => exact plain.intersectWithFilter within
    | some filter => exact setCompared_runs.congr (fun _ => mem_ids.symm) (fun _ => mem_ids.symm)

/-- Positions count the listed ids. -/
theorem compareAt_of_mem_zipIdx {compareAt : Nat → Fin n → Exec Bool}
    (aligned : ∀ position id, ids[position]? = some id → compareAt position id = judge id)
    {entry : Fin n × Nat} (mem : entry ∈ ids.zipIdx) : compareAt entry.2 entry.1 = judge entry.1 :=
  aligned _ _ (List.mem_zipIdx_iff_getElem?.mp mem)

theorem zipIdx_map_eq (bit : Fin n → Nat × Exec Bool) :
    (ids.zipIdx.map fun entry => bit entry.1) = ids.map bit := by
  change ids.zipIdx.map (bit ∘ Prod.fst) = _
  rw [← List.map_map, List.zipIdx_map_fst]

theorem zipIdx_filter_map_eq (inside : Fin n → Bool) (bit : Fin n → Nat × Exec Bool) :
    ((ids.zipIdx.filter fun entry => inside entry.1).map fun entry => bit entry.1) =
      (ids.filter inside).map bit := by
  change (ids.zipIdx.filter (inside ∘ Prod.fst)).map (bit ∘ Prod.fst) = _
  rw [← List.map_map, ← List.filter_map, List.zipIdx_map_fst]

/-- The visited tuples where a filter is looked at while the existence map is iterated. -/
theorem mem_existing_filter {filter existenceMap : TupleIdSequence n} {t : Fin n}
    (within : Within (some filter) (some existenceMap)) :
    t ∈ filter ↔ t ∈ existenceMap.ids.filter filter.get := by
  rw [List.mem_filter, mem_ids]
  exact ⟨fun inside => ⟨within filter existenceMap rfl rfl t inside, inside⟩, fun both => both.2⟩

/-- **A column loop**, whose comparisons at a position are those of the tuple there. -/
theorem columnVectorLoop_runs {skips : Bool} {build : Build}
    {filter existenceMap : Option (TupleIdSequence n)} {unmapped : List (Nat × Exec Bool)}
    {compareAt : Nat → Fin n → Exec Bool} (within : Within filter existenceMap)
    (aligned : ∀ position id, (iterated existenceMap)[position]? = some id →
      compareAt position id = judge id)
    (all : existenceMap = none →
      unmapped = (iterated existenceMap).map fun id => (id.val, judge id)) :
    Runs (columnVectorLoop skips build filter existenceMap unmapped compareAt)
      (Visited build filter existenceMap) (Candidate filter existenceMap) judge := by
  have plain : Runs (setCompared ((iterated existenceMap).map fun id => (id.val, judge id)))
      (Candidate none existenceMap) (Candidate none existenceMap) judge :=
    setCompared_runs.congr (fun _ => mem_iterated.symm) (fun _ => mem_iterated.symm)
  have after := plain.intersectWithFilter within
  unfold columnVectorLoop Visited
  cases existenceMap with
  | none =>
    rw [all rfl]
    cases build.vectorPredicateShortCircuit with
    | false => cases filter <;> exact after
    | true =>
      cases filter with
      | none => exact after
      | some filter =>
        have same : (filter.ids.map fun id : Fin n => (id.val, compareAt id id)) =
            filter.ids.map fun id => (id.val, judge id) := by
          refine List.map_congr_left fun id _ => ?_
          rw [aligned id id (by simp [iterated])]
        simp only [same]
        exact setCompared_runs.congr (fun _ => mem_ids.symm) (fun _ => mem_ids.symm)
  | some existenceMap =>
    have mapped : (existenceMap.ids.zipIdx.map fun entry =>
          (entry.1.val, compareAt entry.2 entry.1)) =
        existenceMap.ids.map fun id => (id.val, judge id) := by
      rw [← zipIdx_map_eq]
      refine List.map_congr_left fun entry mem => ?_
      rw [compareAt_of_mem_zipIdx aligned mem]
    cases build.vectorPredicateShortCircuit with
    | false =>
      simp only [mapped]
      cases filter <;> exact after
    | true =>
      cases filter with
      | none =>
        simp only [mapped]
        exact after
      | some filter =>
        have inside (t : Fin n) := mem_existing_filter (t := t) within
        cases skips with
        | true =>
          have skipped : ((existenceMap.ids.zipIdx.filter fun entry => filter.get entry.1).map
                fun entry => (entry.1.val, compareAt entry.2 entry.1)) =
              (existenceMap.ids.filter filter.get).map fun id => (id.val, judge id) := by
            rw [← zipIdx_filter_map_eq]
            refine List.map_congr_left fun entry mem => ?_
            rw [compareAt_of_mem_zipIdx aligned (List.mem_filter.mp mem).1]
          simp only [if_true, skipped]
          exact setCompared_runs.congr inside inside
        | false =>
          have masked : (existenceMap.ids.zipIdx.map fun entry =>
                (entry.1.val, guarded (filter.get entry.1) (compareAt entry.2 entry.1))) =
              existenceMap.ids.map fun id => (id.val, guarded (filter.get id) (judge id)) := by
            rw [← zipIdx_map_eq]
            refine List.map_congr_left fun entry mem => ?_
            rw [compareAt_of_mem_zipIdx aligned mem]
          simp only [Bool.false_eq_true, if_false, masked]
          exact setCompared_runs.of_guarded.congr inside inside

end Loops

/-! ## Calls -/

/-- The vectorised entry points of `UncheckedComparator`, where each may be undefined. -/
structure VectorisedComparator where
  compareColumnVectors : Build → {n : Nat} → ColumnVector → ColumnVector →
    Option (TupleIdSequence n) → Option (TupleIdSequence n) → Exec (TupleIdSequence n)
  compareColumnVectorAndStaticValue : Build → {n : Nat} → ColumnVector → TypedValue →
    Option (TupleIdSequence n) → Option (TupleIdSequence n) → Exec (TupleIdSequence n)
  compareStaticValueAndColumnVector : Build → {n : Nat} → TypedValue → ColumnVector →
    Option (TupleIdSequence n) → Option (TupleIdSequence n) → Exec (TupleIdSequence n)
  compareSingleValueAccessor : Build → {n : Nat} → ValueAccessor n → Nat → Nat →
    Option (TupleIdSequence n) → Exec (TupleIdSequence n)
  compareValueAccessorAndStaticValue : Build → {n : Nat} → ValueAccessor n → Nat → TypedValue →
    Option (TupleIdSequence n) → Exec (TupleIdSequence n)
  compareStaticValueAndValueAccessor : Build → {n : Nat} → TypedValue → ValueAccessor n → Nat →
    Option (TupleIdSequence n) → Exec (TupleIdSequence n)
  compareColumnVectorAndValueAccessor : Build → {n : Nat} → ColumnVector → ValueAccessor n → Nat →
    Option (TupleIdSequence n) → Option (TupleIdSequence n) → Exec (TupleIdSequence n)
  compareValueAccessorAndColumnVector : Build → {n : Nat} → ValueAccessor n → Nat → ColumnVector →
    Option (TupleIdSequence n) → Option (TupleIdSequence n) → Exec (TupleIdSequence n)

/-- One call of a vectorised entry point. A column is given by the value of each tuple. -/
inductive VectorisedCall (n : Nat) where
  | columnVectors (left right : Fin n → TypedValue)
    (filter existenceMap : Option (TupleIdSequence n))
  | columnVectorAndStaticValue (left : Fin n → TypedValue) (right : TypedValue)
    (filter existenceMap : Option (TupleIdSequence n))
  | staticValueAndColumnVector (left : TypedValue) (right : Fin n → TypedValue)
    (filter existenceMap : Option (TupleIdSequence n))
  | singleValueAccessor (accessor : ValueAccessor n) (leftId rightId : Nat)
    (filter : Option (TupleIdSequence n))
  | valueAccessorAndStaticValue (accessor : ValueAccessor n) (leftId : Nat) (right : TypedValue)
    (filter : Option (TupleIdSequence n))
  | staticValueAndValueAccessor (left : TypedValue) (accessor : ValueAccessor n) (rightId : Nat)
    (filter : Option (TupleIdSequence n))
  | columnVectorAndValueAccessor (left : Fin n → TypedValue) (accessor : ValueAccessor n)
    (rightId : Nat) (filter existenceMap : Option (TupleIdSequence n))
  | valueAccessorAndColumnVector (accessor : ValueAccessor n) (leftId : Nat)
    (right : Fin n → TypedValue) (filter existenceMap : Option (TupleIdSequence n))

namespace VectorisedCall

/-- The left value of a tuple. -/
def left : VectorisedCall n → Fin n → TypedValue
  | columnVectors left _ _ _ | columnVectorAndStaticValue left _ _ _
  | columnVectorAndValueAccessor left _ _ _ _ => left
  | staticValueAndColumnVector left _ _ _ | staticValueAndValueAccessor left _ _ _ => fun _ => left
  | singleValueAccessor accessor leftId _ _ | valueAccessorAndStaticValue accessor leftId _ _
  | valueAccessorAndColumnVector accessor leftId _ _ _ =>
    accessor.getTypedValueAtAbsolutePosition leftId

/-- The right value of a tuple. -/
def right : VectorisedCall n → Fin n → TypedValue
  | columnVectors _ right _ _ | staticValueAndColumnVector _ right _ _
  | valueAccessorAndColumnVector _ _ right _ _ => right
  | columnVectorAndStaticValue _ right _ _ | valueAccessorAndStaticValue _ _ right _ => fun _ => right
  | singleValueAccessor accessor _ rightId _ | staticValueAndValueAccessor _ accessor rightId _
  | columnVectorAndValueAccessor _ accessor rightId _ _ =>
    accessor.getTypedValueAtAbsolutePosition rightId

def filter : VectorisedCall n → Option (TupleIdSequence n)
  | columnVectors _ _ filter _ | columnVectorAndStaticValue _ _ filter _
  | staticValueAndColumnVector _ _ filter _ | singleValueAccessor _ _ _ filter
  | valueAccessorAndStaticValue _ _ _ filter | staticValueAndValueAccessor _ _ _ filter
  | columnVectorAndValueAccessor _ _ _ filter _ | valueAccessorAndColumnVector _ _ _ filter _ =>
    filter

/-- The existing tuples: those of the existence map, or those of the accessor. -/
def existenceMap : VectorisedCall n → Option (TupleIdSequence n)
  | columnVectors _ _ _ existenceMap | columnVectorAndStaticValue _ _ _ existenceMap
  | staticValueAndColumnVector _ _ _ existenceMap | columnVectorAndValueAccessor _ _ _ _ existenceMap
  | valueAccessorAndColumnVector _ _ _ _ existenceMap => existenceMap
  | singleValueAccessor accessor _ _ _ | valueAccessorAndStaticValue accessor _ _ _
  | staticValueAndValueAccessor _ accessor _ _ => accessor.tupleIdSequence

/-- A filter names existing tuples, and the existence map next to an accessor is its own. -/
def WellFormed (call : VectorisedCall n) : Prop :=
  Within call.filter call.existenceMap ∧
    match call with
    | columnVectorAndValueAccessor _ accessor _ _ existenceMap
    | valueAccessorAndColumnVector accessor _ _ _ existenceMap => accessor.Describes existenceMap
    | _ => True

/-- What is known of the values of the existing tuples. -/
def Reads (call : VectorisedCall n) (leftAdmits rightAdmits : TypedValue → Prop) : Prop :=
  ∀ t, Candidate none call.existenceMap t → leftAdmits (call.left t) ∧ rightAdmits (call.right t)

def run (call : VectorisedCall n) (comparator : VectorisedComparator) (build : Build) :
    Exec (TupleIdSequence n) :=
  match call with
  | columnVectors left right filter existenceMap =>
    comparator.compareColumnVectors build ((iterated existenceMap).map left)
      ((iterated existenceMap).map right) filter existenceMap
  | columnVectorAndStaticValue left right filter existenceMap =>
    comparator.compareColumnVectorAndStaticValue build ((iterated existenceMap).map left) right
      filter existenceMap
  | staticValueAndColumnVector left right filter existenceMap =>
    comparator.compareStaticValueAndColumnVector build left ((iterated existenceMap).map right)
      filter existenceMap
  | singleValueAccessor accessor leftId rightId filter =>
    comparator.compareSingleValueAccessor build accessor leftId rightId filter
  | valueAccessorAndStaticValue accessor leftId right filter =>
    comparator.compareValueAccessorAndStaticValue build accessor leftId right filter
  | staticValueAndValueAccessor left accessor rightId filter =>
    comparator.compareStaticValueAndValueAccessor build left accessor rightId filter
  | columnVectorAndValueAccessor left accessor rightId filter existenceMap =>
    comparator.compareColumnVectorAndValueAccessor build ((iterated existenceMap).map left) accessor
      rightId filter existenceMap
  | valueAccessorAndColumnVector accessor leftId right filter existenceMap =>
    comparator.compareValueAccessorAndColumnVector build accessor leftId
      ((iterated existenceMap).map right) filter existenceMap

/-- The call returns exactly the candidates whose values are not NULL and compare. -/
def Selects (call : VectorisedCall n) (comparator : VectorisedComparator) (build : Build)
    (holds : TypedValue → TypedValue → Prop) : Prop :=
  ∃ result, call.run comparator build = .ok result ∧
    ∀ t, t ∈ result ↔ Candidate call.filter call.existenceMap t ∧
      (call.left t).isNull = false ∧ (call.right t).isNull = false ∧
        holds (call.left t) (call.right t)

/-- What the loop of a call compares, if this does not depend on anything but the two values. -/
def Judges (call : VectorisedCall n) (comparator : VectorisedComparator) (build : Build)
    (judge : TypedValue → TypedValue → Exec Bool) : Prop :=
  Runs (call.run comparator build) (Visited build call.filter call.existenceMap)
    (Candidate call.filter call.existenceMap) fun t => judge (call.left t) (call.right t)

/-- **Selection** holds exactly if every comparison made has a result, and the right one on the
candidates. -/
theorem Judges.selects_iff {call : VectorisedCall n} {comparator : VectorisedComparator}
    {build : Build} {judge : TypedValue → TypedValue → Exec Bool}
    {holds : TypedValue → TypedValue → Prop} (judges : call.Judges comparator build judge) :
    call.Selects comparator build holds ↔
      (∀ t, Visited build call.filter call.existenceMap t →
        ∃ verdict, judge (call.left t) (call.right t) = .ok verdict) ∧
      ∀ t, Candidate call.filter call.existenceMap t →
        (judge (call.left t) (call.right t) = .ok true ↔
          (call.left t).isNull = false ∧ (call.right t).isNull = false ∧
            holds (call.left t) (call.right t)) := by
  rw [← judges.returns]
  constructor
  · rintro ⟨result, run, mem⟩
    refine ⟨⟨result, run⟩, fun t candidate => ?_⟩
    have same := (mem t).symm.trans (judges.mem result run t)
    rw [and_congr_right_iff] at same
    exact (same candidate).symm
  · rintro ⟨⟨result, run⟩, agree⟩
    refine ⟨result, run, fun t => ?_⟩
    rw [judges.mem result run t]
    exact and_congr_right (agree t)

end VectorisedCall

end Quickstep.Types
