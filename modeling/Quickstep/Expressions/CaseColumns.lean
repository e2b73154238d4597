import Quickstep.Expressions.ScalarCaseExpression

/-!
# The columns of CASE expressions

The branch columns of a CASE, each over the tuples of its branch, and the column that they are
multiplexed into. It has the value of every tuple at its place if the column of the branch of each
tuple is of the class that the type of the CASE demands.
-/

namespace Quickstep.Expressions
open Quickstep.Common Quickstep.Types Quickstep.Lib TupleIdSequence

section Cases

variable {α : Type} {n : Nat} {read : Fin n → AttributeReader}
  {branches : List (PredicateMethods × α)} {start : TupleIdSequence n}
  {split : List (TupleIdSequence n × α) × TupleIdSequence n}

theorem Split.firstMatch_case (splits : Split read branches start split) (elseBranch : α)
    {case : TupleIdSequence n × α} (isCase : case ∈ split.1) {t : Fin n} (mem : t ∈ case.1) :
    t ∈ start ∧ firstMatch (read t) branches elseBranch = case.2 := by
  obtain ⟨number, isNumber⟩ := List.getElem?_of_mem isCase
  obtain ⟨isBranch, -, chosen⟩ := splits.case number case isNumber
  obtain ⟨inside, first⟩ := (chosen t).mp mem
  refine ⟨inside, ?_⟩
  rw [firstMatch_eq, first, resultAt, isBranch, Option.getD_some]

theorem Split.firstMatch_otherwise (splits : Split read branches start split) (elseBranch : α)
    {t : Fin n} (mem : t ∈ split.2) :
    t ∈ start ∧ firstMatch (read t) branches elseBranch = elseBranch := by
  obtain ⟨inside, first⟩ := (splits.otherwise t).mp mem
  refine ⟨inside, ?_⟩
  rw [firstMatch_eq, first, resultAt, List.getElem?_eq_none (Nat.le_refl _)]
  rfl

theorem Split.exists_case (splits : Split read branches start split) {t : Fin n} (mem : t ∈ start) :
    (∃ case ∈ split.1, t ∈ case.1) ∨ t ∈ split.2 := by
  rcases Nat.lt_or_eq_of_le (@firstHolding_le _ (read t) branches) with below | last
  · have inside := splits.covered t mem _ below (Nat.le_refl _)
    have isCase := List.getElem?_eq_getElem inside
    exact .inl ⟨_, List.getElem_mem inside, ((splits.case _ _ isCase).2.2 t).mpr ⟨mem, rfl⟩⟩
  · exact .inr ((splits.otherwise t).mpr ⟨mem, last⟩)

end Cases

/-! ## Multiplexing -/

section Multiplexing

variable {n : Nat} {sourceSequence : Option (TupleIdSequence n)}

/-- One branch column writes the output at the tuples of its branch. -/
theorem writeCaseResult_eq {caseMatches : TupleIdSequence n}
    (inside : ∀ t, t ∈ caseMatches → t ∈ iterated sourceSequence) (f h : Fin n → TypedValue) :
    writeCaseResult sourceSequence caseMatches (caseMatches.ids.map f)
        ((iterated sourceSequence).map h) =
      (iterated sourceSequence).map fun t => if t ∈ caseMatches then f t else h t := by
  unfold writeCaseResult
  cases sourceSequence with
  | none => simp only [iterated, scatter_finRange, mem_ids]
  | some source =>
    have subset : ∀ t, t ∈ caseMatches → t ∈ source := fun t mem => mem_ids.mp (inside t mem)
    simp only [iterated, ids_of_subset subset, distribute_map]
    rfl

/-- The branch columns together write the output at the tuples of all the branches. -/
theorem foldl_writeCaseResult {sequences : List (TupleIdSequence n)}
    (inside : ∀ s ∈ sequences, ∀ t, t ∈ s → t ∈ iterated sourceSequence)
    (f h : Fin n → TypedValue) :
    (sequences.map fun s => (s, s.ids.map f)).foldl
        (fun output case =>
          if case.1.empty then output else writeCaseResult sourceSequence case.1 case.2 output)
        ((iterated sourceSequence).map h) =
      (iterated sourceSequence).map fun t => if ∃ s ∈ sequences, t ∈ s then f t else h t := by
  induction sequences generalizing h with
  | nil => simp
  | cons s sequences ih =>
    obtain ⟨first, rest⟩ := List.forall_mem_cons.mp inside
    have written : (if s.empty then (iterated sourceSequence).map h
        else writeCaseResult sourceSequence s (s.ids.map f) ((iterated sourceSequence).map h)) =
        (iterated sourceSequence).map fun t => if t ∈ s then f t else h t := by
      split
      · rename_i empty
        have none := empty_iff.mp empty
        simp [none]
      · exact writeCaseResult_eq first f h
    simp only [List.map_cons, List.foldl_cons, written, ih rest]
    refine List.map_congr_left fun t _ => ?_
    by_cases here : t ∈ s <;> simp [here]

/-- The loop over the branch columns has a result unless one with tuples is of another class. -/
theorem foldlM_multiplexColumnVector (type : DataType)
    (caseResults : List (TupleIdSequence n × TypedColumn)) (output : ColumnVector) :
    caseResults.foldlM
        (fun output case =>
          if case.1.empty then .ok output
          else multiplexColumnVector type sourceSequence case.1 case.2 output) output =
      if ∀ case ∈ caseResults, case.1.empty = true ∨ SameLayout case.2.type type then
        .ok (caseResults.foldl
          (fun output case =>
            if case.1.empty then output
            else writeCaseResult sourceSequence case.1 case.2.values output) output)
      else .error .undefinedBehaviour := by
  rw [← Exec.foldlM_guarded]
  congr 1
  funext output case
  unfold multiplexColumnVector
  cases case.1.empty <;> simp

variable {α : Type} {read : Fin n → AttributeReader} {branches : List (PredicateMethods × α)}
  {start : TupleIdSequence n} {split : List (TupleIdSequence n × α) × TupleIdSequence n}

/-- The columns of a split. -/
def Split.columns (split : List (TupleIdSequence n × α) × TupleIdSequence n) (columnType : α → DataType)
    (value : α → Fin n → TypedValue) : List (TupleIdSequence n × TypedColumn) :=
  split.1.map fun case => (case.1, ⟨columnType case.2, case.1.ids.map (value case.2)⟩)

/-- Every value is written at its tuple. -/
theorem Split.foldl_columns (splits : Split read branches start split) (elseBranch : α)
    (starts : ∀ t, t ∈ start ↔ t ∈ iterated sourceSequence) (columnType : α → DataType)
    (value : α → Fin n → TypedValue) (h : Fin n → TypedValue) :
    (Split.columns split columnType value).foldl
        (fun output case =>
          if case.1.empty then output else writeCaseResult sourceSequence case.1 case.2.values output)
        ((iterated sourceSequence).map h) =
      (iterated sourceSequence).map fun t =>
        if t ∈ split.2 then h t else value (firstMatch (read t) branches elseBranch) t := by
  have columns : (Split.columns split columnType value).map (fun case => (case.1, case.2.values)) =
      (split.1.map Prod.fst).map fun s =>
        (s, s.ids.map fun t => value (firstMatch (read t) branches elseBranch) t) := by
    unfold Split.columns
    rw [List.map_map, List.map_map]
    refine List.map_congr_left fun case isCase => ?_
    simp only [Function.comp_apply, Prod.mk.injEq, true_and]
    refine List.map_congr_left fun t mem => ?_
    rw [(splits.firstMatch_case elseBranch isCase (mem_ids.mp mem)).2]
  have inside : ∀ s ∈ split.1.map Prod.fst, ∀ t, t ∈ s → t ∈ iterated sourceSequence := by
    intro s isSequence t mem
    obtain ⟨case, isCase, rfl⟩ := List.mem_map.mp isSequence
    exact (starts t).mp (splits.firstMatch_case elseBranch isCase mem).1
  have written := foldl_writeCaseResult inside
    (fun t => value (firstMatch (read t) branches elseBranch) t) h
  rw [← columns, List.foldl_map] at written
  rw [written]
  refine List.map_congr_left fun t visited => ?_
  by_cases last : t ∈ split.2
  · rw [if_pos last, if_neg]
    rintro ⟨s, isSequence, mem⟩
    obtain ⟨case, isCase, rfl⟩ := List.mem_map.mp isSequence
    obtain ⟨number, isNumber⟩ := List.getElem?_of_mem isCase
    obtain ⟨isBranch, -, chosen⟩ := splits.case number case isNumber
    obtain ⟨branch, isBranch, -⟩ := Option.map_eq_some_iff.mp isBranch
    have bound := (List.getElem?_eq_some_iff.mp isBranch).1
    have first := ((chosen t).mp mem).2
    have beyond := ((splits.otherwise t).mp last).2
    omega
  · obtain ⟨case, isCase, mem⟩ := (splits.exists_case ((starts t).mpr visited)).resolve_right last
    rw [if_neg last, if_pos ⟨case.1, List.mem_map_of_mem isCase, mem⟩]

/-- **Multiplexing** the columns of a split puts every value at its tuple, unless the column of the
branch of some tuple is not of the class that the type demands. -/
theorem Split.multiplexColumnVectors_eq (splits : Split read branches start split) (elseBranch : α)
    (starts : ∀ t, t ∈ start ↔ t ∈ iterated sourceSequence) (type : DataType)
    (columnType : α → DataType) (value : α → Fin n → TypedValue) :
    multiplexColumnVectors type (iterated sourceSequence).length sourceSequence
        (Split.columns split columnType value) split.2
        (if split.2.empty then none
          else some ⟨columnType elseBranch, split.2.ids.map (value elseBranch)⟩) =
      if ∀ t ∈ iterated sourceSequence,
          SameLayout (columnType (firstMatch (read t) branches elseBranch)) type then
        .ok ((iterated sourceSequence).map fun t => value (firstMatch (read t) branches elseBranch) t)
      else .error .undefinedBehaviour := by
  have initial : List.replicate (iterated sourceSequence).length (default : TypedValue) =
      (iterated sourceSequence).map fun _ => default := List.map_const'.symm
  have written := splits.foldl_columns elseBranch starts columnType value fun _ => default
  have elseInside : ∀ t, t ∈ split.2 → t ∈ iterated sourceSequence := fun t mem =>
    (starts t).mp (splits.firstMatch_otherwise elseBranch mem).1
  unfold multiplexColumnVectors
  rw [initial, foldlM_multiplexColumnVector, written]
  -- A case has a tuple of the branch, unless it is skipped.
  have caseLayouts (layouts : ∀ t ∈ iterated sourceSequence,
      SameLayout (columnType (firstMatch (read t) branches elseBranch)) type) :
      ∀ case ∈ Split.columns split columnType value,
        case.1.empty = true ∨ SameLayout case.2.type type := by
    intro column isColumn
    obtain ⟨case, isCase, rfl⟩ := List.mem_map.mp isColumn
    rw [or_iff_not_imp_left, empty_iff, not_forall_not]
    rintro ⟨t, mem⟩
    obtain ⟨inside, first⟩ := splits.firstMatch_case elseBranch isCase mem
    have layout := layouts t ((starts t).mp inside)
    rwa [first] at layout
  by_cases layouts : ∀ t ∈ iterated sourceSequence,
      SameLayout (columnType (firstMatch (read t) branches elseBranch)) type
  · rw [if_pos layouts, if_pos (caseLayouts layouts), Exec.ok_bind]
    cases empty : split.2.empty with
    | true =>
      refine congrArg Except.ok (List.map_congr_left fun t _ => ?_)
      exact if_neg (empty_iff.mp empty t)
    | false =>
      obtain ⟨t, mem⟩ : ∃ t, t ∈ split.2 := by
        rw [← Bool.not_eq_true, empty_iff] at empty
        exact not_forall_not.mp empty
      obtain ⟨inside, first⟩ := splits.firstMatch_otherwise elseBranch mem
      have layout := layouts t ((starts t).mp inside)
      rw [first] at layout
      simp only [Bool.false_eq_true, if_false]
      refine (if_pos layout).trans (congrArg Except.ok ?_)
      rw [writeCaseResult_eq elseInside]
      refine List.map_congr_left fun t _ => ?_
      by_cases last : t ∈ split.2
      · rw [if_pos last, (splits.firstMatch_otherwise elseBranch last).2]
      · rw [if_neg last, if_neg last]
  · rw [if_neg layouts]
    simp only [not_forall] at layouts
    obtain ⟨t, visited, differs⟩ := layouts
    rcases splits.exists_case ((starts t).mpr visited) with ⟨case, isCase, mem⟩ | last
    · rw [if_neg]
      · rfl
      · intro allowed
        have column := allowed (case.1, ⟨columnType case.2, case.1.ids.map (value case.2)⟩)
          (List.mem_map_of_mem isCase)
        rw [(splits.firstMatch_case elseBranch isCase mem).2] at differs
        exact column.elim (fun empty => empty_iff.mp empty t mem) differs
    · rw [(splits.firstMatch_otherwise elseBranch last).2] at differs
      have nonempty : split.2.empty = false := by
        rw [← Bool.not_eq_true, empty_iff, not_forall_not]
        exact ⟨t, last⟩
      split
      · simp only [Exec.ok_bind, nonempty, Bool.false_eq_true, if_false]
        exact if_neg differs
      · rfl

end Multiplexing

/-! ## The value and the column of a CASE -/

/-- The value of a CASE is the value of the branch it chooses. -/
theorem scalarCaseExpression_valueFor {branches : List (PredicateMethods × ScalarMethods)}
    {elseResultExpression : ScalarMethods} (resultType : DataType) (read : AttributeReader)
    (static : ∀ fixed value, fixedBranch branches elseResultExpression = some fixed →
      fixed.staticValue = some value → fixed.valueFor read = value) :
    (scalarCaseExpression resultType branches elseResultExpression).valueFor read =
      (chosenBranch read branches elseResultExpression).valueFor read := by
  unfold scalarCaseExpression chosenBranch
  cases resolved : fixedBranch branches elseResultExpression with
  | none => rfl
  | some fixed =>
    cases isStatic : fixed.staticValue with
    | none => simp [isStatic]
    | some value => simp [isStatic, static fixed value resolved isStatic]

/-- A static value of a CASE is that of the branch it chooses. -/
theorem scalarCaseExpression_staticValue {branches : List (PredicateMethods × ScalarMethods)}
    {elseResultExpression : ScalarMethods} {resultType : DataType} (read : AttributeReader)
    {value : TypedValue}
    (static : (scalarCaseExpression resultType branches elseResultExpression).staticValue =
      some value) :
    (chosenBranch read branches elseResultExpression).staticValue = some value := by
  obtain ⟨fixed, resolved, isStatic⟩ := Option.bind_eq_some_iff.mp static
  rwa [chosenBranch, resolved]

section Columns

variable {n : Nat} {read : Fin n → AttributeReader} {tuples : List (Fin n)} {build : Build}
  {resultType : DataType} {branches : List (PredicateMethods × ScalarMethods)}
  {elseResultExpression : ScalarMethods}

/-- All that the evaluation of a CASE without a fixed branch evaluates agrees: the WHENs on what those
before them leave, the result expressions on the tuples of their branches. -/
structure BranchesAgree (build : Build) (read : Fin n → AttributeReader) (tuples : List (Fin n))
    (branches : List (PredicateMethods × ScalarMethods)) (elseResultExpression : ScalarMethods) :
    Prop where
  whenPredicate : ∀ (number : Nat) (branch : PredicateMethods × ScalarMethods),
    branches[number]? = some branch →
    whenCandidates read (branches.map Prod.fst) number tuples ≠ [] →
    branch.1.AgreesOn build read tuples (whenCandidates read (branches.map Prod.fst) number tuples)
  result : ∀ (number : Nat) (branch : PredicateMethods × ScalarMethods),
    branches[number]? = some branch →
    whenCandidates read (branches.map Prod.fst) number tuples ≠ [] →
    branch.2.AgreesOn build read (branchTuples read (branches.map Prod.fst) number tuples)
  elseResult : branchTuples read (branches.map Prod.fst) branches.length tuples ≠ [] →
    elseResultExpression.AgreesOn build read
      (branchTuples read (branches.map Prod.fst) branches.length tuples)

variable {accessor : ValueAccessor n}

/-- The tuples that the loop over the WHENs starts with. -/
theorem Iterates.selects (iterates : Iterates read tuples accessor) :
    Selects read tuples tuples accessor
      (some (assignFromCandidates none accessor.tupleIdSequence)) accessor.tupleIdSequence := by
  obtain ⟨rfl, rfl⟩ := iterates
  have whole := @selects_self n accessor none _ accessor.describes_self (by nofun)
  rw [ids_assignFromCandidates] at whole
  exact whole.asFilter

theorem mem_start (iterates : Iterates read tuples accessor) (t : Fin n) :
    t ∈ assignFromCandidates none accessor.tupleIdSequence ↔ t ∈ tuples := by
  rw [← mem_ids, ids_assignFromCandidates, ← iterates.positions]
  rfl

/-- The adapter for a branch iterates over its tuples. -/
theorem Split.iterates_case {split : List (TupleIdSequence n × ScalarMethods) × TupleIdSequence n}
    (splits : Split read branches (assignFromCandidates none accessor.tupleIdSequence) split)
    (iterates : Iterates read tuples accessor) {number : Nat} {case : TupleIdSequence n × ScalarMethods}
    (isCase : split.1[number]? = some case) :
    Iterates read (branchTuples read (branches.map Prod.fst) number tuples)
      (accessor.createSharedTupleIdSequenceAdapter case.1) := by
  apply iterates.adapter
  intro t
  rw [(splits.case number case isCase).2.2 t, mem_start iterates, decide_eq_true_iff]

theorem Split.iterates_otherwise {split : List (TupleIdSequence n × ScalarMethods) × TupleIdSequence n}
    (splits : Split read branches (assignFromCandidates none accessor.tupleIdSequence) split)
    (iterates : Iterates read tuples accessor) :
    Iterates read (branchTuples read (branches.map Prod.fst) branches.length tuples)
      (accessor.createSharedTupleIdSequenceAdapter split.2) := by
  apply iterates.adapter
  intro t
  rw [splits.otherwise t, mem_start iterates, decide_eq_true_iff]

theorem Split.whenCandidates_ne_nil
    {split : List (TupleIdSequence n × ScalarMethods) × TupleIdSequence n}
    (splits : Split read branches (assignFromCandidates none accessor.tupleIdSequence) split)
    (iterates : Iterates read tuples accessor) {number : Nat} {case : TupleIdSequence n × ScalarMethods}
    (isCase : split.1[number]? = some case) :
    whenCandidates read (branches.map Prod.fst) number tuples ≠ [] := by
  obtain ⟨-, ⟨t, mem, reached⟩, -⟩ := splits.case number case isCase
  apply List.ne_nil_of_mem (a := t)
  rw [whenCandidates, List.mem_filter, decide_eq_true_iff]
  exact ⟨(mem_start iterates t).mp mem, reached⟩

theorem Split.empty_iff_branchTuples
    {split : List (TupleIdSequence n × ScalarMethods) × TupleIdSequence n}
    (splits : Split read branches (assignFromCandidates none accessor.tupleIdSequence) split)
    (iterates : Iterates read tuples accessor) :
    split.2.empty = true ↔ branchTuples read (branches.map Prod.fst) branches.length tuples = [] := by
  apply empty_iff_of_ids
  exact (splits.iterates_otherwise iterates).positions

/-- The column of a branch lists the values of its tuples. -/
theorem branchColumn_eq {result : ScalarMethods} {caseMatches : TupleIdSequence n}
    {inBranch : List (Fin n)}
    (iterates : Iterates read inBranch (accessor.createSharedTupleIdSequenceAdapter caseMatches))
    (agrees : result.AgreesOn build read inBranch) :
    branchColumn build accessor result caseMatches =
      .ok ⟨result.columnType, caseMatches.ids.map fun t => result.valueFor (read t)⟩ := by
  unfold branchColumn
  rw [agrees _ iterates, ← iterates.positions, ValueAccessor.positions_adapter]
  rfl

/-- **CASE without a fixed branch**: the columns are multiplexed back into the values of the tuples,
unless the column of the branch of some tuple is of another class than the type of the CASE. -/
theorem caseGetAllValues_eq (iterates : Iterates read tuples accessor)
    (agree : BranchesAgree build read tuples branches elseResultExpression) :
    caseGetAllValues resultType branches elseResultExpression build accessor =
      if ∀ t ∈ tuples,
          SameLayout (firstMatch (read t) branches elseResultExpression).columnType resultType then
        .ok (tuples.map fun t =>
          (firstMatch (read t) branches elseResultExpression).valueFor (read t))
      else .error .undefinedBehaviour := by
  obtain ⟨split, ran, splits⟩ := caseMatches_eq iterates.selects agree.whenPredicate
  have existing : iterated accessor.tupleIdSequence = tuples := iterates.positions
  have length : (iterated accessor.tupleIdSequence).length = accessor.getNumTuples :=
    ValueAccessor.length_positions accessor
  have columns := splits.multiplexColumnVectors_eq elseResultExpression
    (fun t => (mem_start iterates t).trans (by rw [existing])) resultType ScalarMethods.columnType
    fun result t => result.valueFor (read t)
  rw [length, existing] at columns
  have caseResults : split.1.mapM (fun case => do
      let caseResult ← branchColumn build accessor case.2 case.1
      pure (case.1, caseResult)) =
      .ok (Split.columns split ScalarMethods.columnType fun result t => result.valueFor (read t)) := by
    apply Exec.mapM_eq_ok
    intro case isCase
    obtain ⟨number, isNumber⟩ := List.getElem?_of_mem isCase
    obtain ⟨branch, isBranch, same⟩ :=
      Option.map_eq_some_iff.mp (splits.case number case isNumber).1
    have caseAgrees := agree.result number branch isBranch
      (splits.whenCandidates_ne_nil iterates isNumber)
    rw [same] at caseAgrees
    rw [branchColumn_eq (splits.iterates_case iterates isNumber) caseAgrees]
    rfl
  have elseResult : elseColumn build accessor elseResultExpression split.2 =
      .ok (if split.2.empty then none
        else some ⟨elseResultExpression.columnType,
          split.2.ids.map fun t => elseResultExpression.valueFor (read t)⟩) := by
    unfold elseColumn
    cases empty : split.2.empty with
    | true => rfl
    | false =>
      have nonempty := (not_congr (splits.empty_iff_branchTuples iterates)).mp
        (Bool.eq_false_iff.mp empty)
      rw [if_neg Bool.false_ne_true,
        branchColumn_eq (splits.iterates_otherwise iterates) (agree.elseResult nonempty)]
      rfl
  unfold caseGetAllValues
  simp only [ran, Exec.ok_bind, caseResults, elseResult, columns]

/-- Where the evaluation has a result, all that it evaluates agrees, if that does which has one. -/
theorem caseGetAllValues_returns (iterates : Iterates read tuples accessor)
    (whenReturned : ∀ (number : Nat) (branch : PredicateMethods × ScalarMethods),
      branches[number]? = some branch → ∀ filter,
      Selects read tuples (whenCandidates read (branches.map Prod.fst) number tuples) accessor filter
        accessor.tupleIdSequence →
      (branch.1.getAllMatches build accessor filter accessor.tupleIdSequence).Returns →
      branch.1.AgreesOn build read tuples (whenCandidates read (branches.map Prod.fst) number tuples))
    (resultReturned : ∀ (number : Nat) (branch : PredicateMethods × ScalarMethods),
      branches[number]? = some branch → ∀ adapter,
      Iterates read (branchTuples read (branches.map Prod.fst) number tuples) adapter →
      (branch.2.getAllValues build adapter).Returns →
      branch.2.AgreesOn build read (branchTuples read (branches.map Prod.fst) number tuples))
    (elseReturned : ∀ adapter,
      Iterates read (branchTuples read (branches.map Prod.fst) branches.length tuples) adapter →
      (elseResultExpression.getAllValues build adapter).Returns →
      elseResultExpression.AgreesOn build read
        (branchTuples read (branches.map Prod.fst) branches.length tuples))
    (returns : (caseGetAllValues resultType branches elseResultExpression build accessor).Returns) :
    BranchesAgree build read tuples branches elseResultExpression := by
  unfold caseGetAllValues at returns
  obtain ⟨split, ran, later⟩ := returns.of_bind
  have whenAgree := caseMatches_returns iterates.selects whenReturned ⟨split, ran⟩
  obtain ⟨split', ranToo, splits⟩ := caseMatches_eq iterates.selects whenAgree
  obtain rfl : split = split' := Except.ok.inj (ran.symm.trans ranToo)
  obtain ⟨cases, elseMatches⟩ := split
  obtain ⟨caseResults, ranCases, rest⟩ := later.of_bind
  obtain ⟨elseResult, ranElse, _⟩ := rest.of_bind
  refine ⟨whenAgree, fun number branch isBranch nonempty => ?_, fun nonempty => ?_⟩
  · obtain ⟨t, mem⟩ := List.exists_mem_of_ne_nil _ nonempty
    rw [whenCandidates, List.mem_filter, decide_eq_true_iff] at mem
    have inside := splits.covered t ((mem_start iterates t).mpr mem.1) number
      (List.getElem?_eq_some_iff.mp isBranch).1 mem.2
    have isCase := List.getElem?_eq_getElem inside
    have same := (splits.case number _ isCase).1
    rw [isBranch] at same
    have caseReturns := Exec.Returns.of_mapM ⟨caseResults, ranCases⟩ _ (List.getElem_mem inside)
    obtain ⟨column, ranColumn, _⟩ := caseReturns.of_bind
    obtain ⟨values, ranValues, _⟩ := Exec.bind_ok ranColumn
    apply resultReturned number branch isBranch _ (splits.iterates_case iterates isCase)
    rw [Option.some.inj same]
    exact ⟨values, ranValues⟩
  · have notEmpty : elseMatches.empty = false :=
      Bool.eq_false_iff.mpr ((not_congr (splits.empty_iff_branchTuples iterates)).mpr nonempty)
    rw [elseColumn, notEmpty, if_neg Bool.false_ne_true] at ranElse
    obtain ⟨column, ranColumn, _⟩ := Exec.bind_ok ranElse
    obtain ⟨values, ranValues, _⟩ := Exec.bind_ok ranColumn
    exact elseReturned _ (splits.iterates_otherwise iterates) ⟨values, ranValues⟩

end Columns

/-! The branch that the constructor fixed is evaluated alone, unless its value is static. -/

section Fixed

variable {n : Nat} {read : Fin n → AttributeReader} {tuples : List (Fin n)} {build : Build}
  {resultType : DataType} {branches : List (PredicateMethods × ScalarMethods)}
  {elseResultExpression fixed : ScalarMethods}

theorem scalarCaseExpression_agrees_fixed
    (resolved : fixedBranch branches elseResultExpression = some fixed)
    (agrees : fixed.staticValue = none → fixed.AgreesOn build read tuples) :
    (scalarCaseExpression resultType branches elseResultExpression).AgreesOn build read tuples := by
  intro accessor iterates
  unfold scalarCaseExpression
  simp only [resolved]
  cases static : fixed.staticValue with
  | some value => exact congrArg Except.ok (makeVectorOfValue_eq iterates value)
  | none => exact agrees static accessor iterates

theorem scalarCaseExpression_returns_fixed {accessor : ValueAccessor n}
    (resolved : fixedBranch branches elseResultExpression = some fixed)
    (dynamic : fixed.staticValue = none)
    (returns : ((scalarCaseExpression resultType branches elseResultExpression).getAllValues build
      accessor).Returns) : (fixed.getAllValues build accessor).Returns := by
  unfold scalarCaseExpression at returns
  simpa only [resolved, dynamic] using returns

end Fixed

/-! Without a fixed branch the tuples are split among the branches. -/

section Dynamic

variable {n : Nat} {read : Fin n → AttributeReader} {tuples : List (Fin n)} {build : Build}
  {resultType : DataType} {branches : List (PredicateMethods × ScalarMethods)}
  {elseResultExpression : ScalarMethods}
  (unresolved : fixedBranch branches elseResultExpression = none)
include unresolved

theorem scalarCaseExpression_dynamic (accessor : ValueAccessor n) :
    (scalarCaseExpression resultType branches elseResultExpression).getAllValues build accessor =
      caseGetAllValues resultType branches elseResultExpression build accessor := by
  unfold scalarCaseExpression
  simp only [unresolved]

theorem scalarCaseExpression_valueFor_dynamic (read : AttributeReader) :
    (scalarCaseExpression resultType branches elseResultExpression).valueFor read =
      (firstMatch read branches elseResultExpression).valueFor read := by
  unfold scalarCaseExpression
  simp only [unresolved]

/-- A CASE agrees where the branch of every tuple yields a column of the class of the CASE. -/
theorem scalarCaseExpression_agrees_iff
    (agree : BranchesAgree build read tuples branches elseResultExpression)
    (realised : ∃ accessor, Iterates read tuples accessor) :
    (scalarCaseExpression resultType branches elseResultExpression).AgreesOn build read tuples ↔
      ∀ t ∈ tuples,
        SameLayout (firstMatch (read t) branches elseResultExpression).columnType resultType := by
  have column {accessor : ValueAccessor n} (iterates : Iterates read tuples accessor) :=
    (scalarCaseExpression_dynamic unresolved accessor).trans
      (@caseGetAllValues_eq _ _ _ _ resultType _ _ _ iterates agree)
  constructor
  · intro agrees
    obtain ⟨accessor, iterates⟩ := realised
    have ran := (column iterates).symm.trans (agrees accessor iterates)
    by_contra layouts
    rw [if_neg layouts] at ran
    cases ran
  · intro layouts accessor iterates
    rw [column iterates, if_pos layouts]
    simp only [scalarCaseExpression_valueFor_dynamic unresolved]

end Dynamic

end Quickstep.Expressions
