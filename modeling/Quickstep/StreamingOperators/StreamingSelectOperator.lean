import Quickstep.Expressions.VectorisedExactness

/-!
# The streaming select operator

The operator of `streaming_operators/StreamingSelectOperator.cpp`: every batch of a call is filtered
by the predicates and projected onto a batch of its own. An output tuple only refers to the bytes of its
strings, and the columns of the select expressions are gone when `next` returns.
-/

namespace Quickstep.StreamingOperators
open Quickstep.Common Quickstep.Types Quickstep.Expressions Quickstep.Lib TupleIdSequence

/-- The constructors of `SelectSpec`; the one from attributes is a simple projection. -/
inductive SelectSpec where
  | ofExpressions (predicates : List Predicate) (selectExpressions : List Scalar)
  | ofAttributes (predicates : List Predicate) (selectAttributes : List Nat)

def SelectSpec.predicates : SelectSpec → List Predicate
  | ofExpressions predicates _ | ofAttributes predicates _ => predicates

inductive QuerySpec where
  | select (selectSpec : SelectSpec)
  | selectWindow

/-- The operator is open while it holds a specification. -/
structure StreamingSelectOperator where
  selectSpec : Option SelectSpec

/-- The tuples of a `TupleVectorValueAccessor`. -/
abbrev Batch := List Tuple

def Batch.accessor (input : Batch) : ValueAccessor input.length where
  store := .tupleVector ⟨input.toArray, List.size_toArray⟩
  tupleIdSequence := none

/-- What a reader of the output finds: `none` for a string whose bytes have been freed. -/
abbrev OutputValue := Option TypedValue

abbrev OutputBatch := List (List OutputValue)

/-- Values that were read in place are there as long as the input is. -/
def Batch.inPlace (tuples : Batch) : OutputBatch := tuples.map (List.map some)

section References

variable (ops : Operations) (read : AttributeReader)

mutual

/-- Whether the value in the column of an expression refers to bytes of the input. An attribute of
variable length is kept as a reference, and CASE moves the values of its branches; a CHAR is copied into
the column, and literals and results of operations own their bytes. -/
def refersToInput : Scalar → Bool
  | .literal _ _ | .unaryExpression _ _ | .binaryExpression _ _ _ => false
  | .ofAttribute attr => attr.type.isVariableLength
  | .caseExpression _ branches elseResultExpression =>
    chosenBranch read (branchesReferToInput branches) (refersToInput elseResultExpression)

def branchesReferToInput : List Branch → List (PredicateMethods × Bool)
  | [] => []
  | .mk whenPredicate resultExpression :: branches =>
    (whenPredicate.methods ops, refersToInput resultExpression) :: branchesReferToInput branches

end

/-- The value of an expression in an output tuple, after the columns have been freed. -/
def releasedValue (selectExpression : Scalar) (value : TypedValue) : OutputValue :=
  if value.hasOutOfLineData && !refersToInput ops read selectExpression then none else some value

end References

section Operator

variable (ops : Operations) (build : Build)

/-- The loop over the predicates: each one looks at the matches of the one before. -/
def filterResult {n : Nat} (input : ValueAccessor n) (predicates : List Predicate)
    (filter : Option (TupleIdSequence n)) : Exec (Option (TupleIdSequence n)) :=
  predicates.foldlM
    (fun filterResult predicate => do
      let filterResult ← (predicate.methods ops).getAllMatches build input filterResult none
      pure (some filterResult))
    filter

/-- The accessor of the selection, which reads the input at the selected positions. -/
def selectionAccessor {n : Nat} (input : ValueAccessor n) :
    Option (TupleIdSequence n) → ValueAccessor n
  | some filterResult => input.createSharedTupleIdSequenceAdapter filterResult
  | none => input

/-- The tuples read through a `ColumnVectorsValueAccessor` with the given columns. -/
def argumentTuples (columns : List ColumnVector) : Batch :=
  let argumentsAccessor : ValueAccessor (columnLength columns) := ⟨.columnVectors columns rfl, none⟩
  argumentsAccessor.positions.map fun t =>
    (List.range columns.length).map fun attributeId =>
      argumentsAccessor.getTypedValueAtAbsolutePosition attributeId t

/-- One round of the loop over the inputs, as it is found after the round. -/
def selectFrom (selectSpec : SelectSpec) (input : Batch) : Exec OutputBatch := do
  let filterResult ← filterResult ops build input.accessor selectSpec.predicates none
  let accessor := selectionAccessor input.accessor filterResult
  match selectSpec with
  | .ofAttributes _ selectAttributes =>
    pure <| Batch.inPlace <| accessor.positions.map fun t =>
      selectAttributes.map fun attributeId => accessor.getTypedValueAtAbsolutePosition attributeId t
  | .ofExpressions _ selectExpressions =>
    let columns ← selectExpressions.mapM fun selectExpression =>
      (selectExpression.methods ops).getAllValues build accessor
    pure <| List.zipWith
      (fun t => List.zipWith (releasedValue ops (readSingleTuple accessor t)) selectExpressions)
      accessor.positions (argumentTuples columns)

namespace StreamingSelectOperator

/-- `open` succeeds on a closed operator with a specification for select. -/
def openWith (op : StreamingSelectOperator) (planSpecs : QuerySpec) :
    Bool × StreamingSelectOperator :=
  match op.selectSpec, planSpecs with
  | none, .select selectSpec => (true, ⟨some selectSpec⟩)
  | none, .selectWindow | some _, _ => (false, op)

/-- `next` dereferences the specification, so it is undefined on a closed operator. -/
def next (op : StreamingSelectOperator) (inputs : List Batch) : Exec (List OutputBatch) :=
  match op.selectSpec with
  | some selectSpec => inputs.mapM (selectFrom ops build selectSpec)
  | none => .error .undefinedBehaviour

def close (op : StreamingSelectOperator) : Bool × StreamingSelectOperator :=
  match op.selectSpec with
  | none => (false, op)
  | some _ => (true, ⟨none⟩)

/-- The outputs of the calls of `next` after a successful `open`. -/
def run (selectSpec : SelectSpec) (calls : List (List Batch)) : Exec (List (List OutputBatch)) :=
  let opened := (openWith ⟨none⟩ (.select selectSpec)).2
  calls.mapM (opened.next ops build)

end StreamingSelectOperator

/-- An operator that a plan opened can be closed, and is as before then. -/
theorem StreamingSelectOperator.close_openWith {op : StreamingSelectOperator} {planSpecs : QuerySpec}
    (opened : (op.openWith planSpecs).1 = true) : (op.openWith planSpecs).2.close = (true, op) := by
  obtain ⟨selectSpec⟩ := op
  cases selectSpec with
  | some selectSpec => cases opened
  | none =>
    cases planSpecs with
    | select selectSpec => rfl
    | selectWindow => cases opened

/-! ## Selection and projection tuple by tuple -/

def SelectSpec.satisfies (selectSpec : SelectSpec) {n : Nat} (input : ValueAccessor n) (t : Fin n) :
    Bool :=
  selectSpec.predicates.all fun predicate => (predicate.methods ops).matchesForSingleTuple input t

def SelectSpec.project (selectSpec : SelectSpec) {n : Nat} (input : ValueAccessor n) (t : Fin n) :
    Tuple :=
  match selectSpec with
  | ofAttributes _ selectAttributes =>
    selectAttributes.map fun attributeId => input.getTypedValueAtAbsolutePosition attributeId t
  | ofExpressions _ selectExpressions =>
    selectExpressions.map fun selectExpression =>
      (selectExpression.methods ops).getValueForSingleTuple input t

/-- The tuples of a batch that satisfy all predicates, in their order. -/
def SelectSpec.selected (selectSpec : SelectSpec) (input : Batch) : List (Fin input.length) :=
  (List.finRange input.length).filter (selectSpec.satisfies ops input.accessor)

/-- The projection of the tuples of a batch that satisfy all predicates. -/
def SelectSpec.selection (selectSpec : SelectSpec) (input : Batch) : Batch :=
  (selectSpec.selected ops input).map (selectSpec.project ops input.accessor)

/-- An empty list of expressions loses the tuples of a batch that has any to select. -/
def SelectSpec.KeepsTuples (selectSpec : SelectSpec) (input : Batch) : Prop :=
  match selectSpec with
  | ofAttributes _ _ => True
  | ofExpressions _ selectExpressions =>
    selectExpressions ≠ [] ∨ ∀ t, selectSpec.satisfies ops input.accessor t = false

/-- The strings that are selected from a batch all have their bytes in the input. -/
def SelectSpec.KeepsStrings (selectSpec : SelectSpec) (input : Batch) : Prop :=
  match selectSpec with
  | ofAttributes _ _ => True
  | ofExpressions _ selectExpressions =>
    ∀ t, selectSpec.satisfies ops input.accessor t = true → ∀ e ∈ selectExpressions,
      ((e.methods ops).getValueForSingleTuple input.accessor t).hasOutOfLineData = true →
      refersToInput ops (readSingleTuple input.accessor t) e = true

/-! ## The calls for a batch -/

/-- Each predicate is called for the candidates that the ones before it have left. -/
def predicateCalls {n : Nat} (input : ValueAccessor n) : List Predicate → List (Fin n) →
    List (Evaluation n)
  | [], _ => []
  | predicate :: predicates, candidates =>
    .matching predicate input.positions candidates ::
      predicateCalls input predicates
        (candidates.filter fun t => (predicate.methods ops).matchesForSingleTuple input t)

/-- What `next` evaluates for a batch: the predicates, and then the expressions on what they select. -/
def SelectSpec.batchCalls (selectSpec : SelectSpec) (input : Batch) : List (Evaluation input.length) :=
  predicateCalls ops input.accessor selectSpec.predicates input.accessor.positions ++
    match selectSpec with
    | ofAttributes _ _ => []
    | ofExpressions _ selectExpressions =>
      selectExpressions.map fun e => .values e (selectSpec.selected ops input)

/-- What is found of a batch after the round: no tuple if there are no expressions, and no string that was
read from a column. -/
def SelectSpec.output (selectSpec : SelectSpec) (input : Batch) : OutputBatch :=
  match selectSpec with
  | ofAttributes _ _ => (selectSpec.selection ops input).inPlace
  | ofExpressions _ [] => []
  | ofExpressions _ (e :: es) => (selectSpec.selected ops input).map fun t =>
      (e :: es).map fun e => releasedValue ops (readSingleTuple input.accessor t) e
        ((e.methods ops).getValueForSingleTuple input.accessor t)

end Operator

section Projection

variable {ops : Operations} {build : Build}

/-- **The loop over the predicates** leaves the candidates that satisfy them all. -/
theorem filterResult_eq {n : Nat} {read : Fin n → AttributeReader} {tuples : List (Fin n)}
    {input : ValueAccessor n} (predicates : List Predicate) {candidates : List (Fin n)}
    {filter : Option (TupleIdSequence n)} (selects : Selects read tuples candidates input filter none)
    (agree : ∀ call ∈ predicateCalls ops input predicates candidates, call.Agrees ops build read) :
    ∃ result, filterResult ops build input predicates filter = .ok result ∧
      Selects read tuples
        (candidates.filter fun t =>
          predicates.all fun p => (p.methods ops).matchesForSingleTuple input t)
        input result none := by
  induction predicates generalizing candidates filter with
  | nil =>
    refine ⟨filter, rfl, ?_⟩
    simpa using selects
  | cons p predicates ih =>
    obtain ⟨here, later⟩ := List.forall_mem_cons.mp agree
    rw [selects.positions] at here
    obtain ⟨sequence, ran, chooses⟩ := here input filter none selects
    have matched (t) : (p.methods ops).matchesForSingleTuple input t =
        (p.methods ops).matchesFor (read t) := by rw [← selects.reads]; rfl
    simp only [← matched] at chooses
    obtain ⟨result, rest, selected⟩ := ih (selects.restrict chooses) later
    refine ⟨result, ?_, ?_⟩
    · unfold filterResult at rest ⊢
      rw [List.foldlM_cons, ran]
      exact rest
    · rw [List.filter_filter] at selected
      simpa only [List.all_cons, Bool.and_comm] using selected

/-- Columns of equal length are read back row by row. -/
theorem argumentTuples_eq {α : Type} (positions : List α) {values : List (α → TypedValue)}
    (nonempty : values ≠ []) :
    argumentTuples (values.map positions.map) = positions.map fun t => values.map fun v => v t := by
  have length : columnLength (values.map positions.map) = positions.length := by
    unfold columnLength
    rw [List.getLast?_map, List.getLast?_eq_some_getLast nonempty]
    exact List.length_map _
  apply List.ext_getElem
  · simp [argumentTuples, ValueAccessor.positions, iterated, length]
  · intro k bound bound'
    rw [List.length_map] at bound'
    apply List.ext_getElem
    · simp [argumentTuples]
    · intro i boundColumn boundValue
      simp only [List.getElem_map, List.length_map] at boundValue
      simp [argumentTuples, ValueAccessor.positions, iterated,
        ValueAccessor.getTypedValueAtAbsolutePosition, TupleStore.getTypedValueAtAbsolutePosition,
        boundValue, bound']

/-- The accessor of the selection reads the selected tuples of the batch. -/
theorem iterates_selectionAccessor (input : Batch) (result : Option (TupleIdSequence input.length)) :
    Iterates (readSingleTuple input.accessor) (iterated result)
      (selectionAccessor input.accessor result) := by
  cases result with
  | none => exact ⟨rfl, rfl⟩
  | some f => exact ⟨rfl, rfl⟩

section Batch

variable {input : Batch} {predicates : List Predicate}
  {result : Option (TupleIdSequence input.length)}
  (filtered : filterResult ops build input.accessor predicates none = .ok result)
include filtered

/-- The simple projection copies the attributes of the selected tuples. -/
theorem selectFrom_ofAttributes (selectAttributes : List Nat) :
    selectFrom ops build (.ofAttributes predicates selectAttributes) input =
      .ok (Batch.inPlace ((iterated result).map fun t =>
        selectAttributes.map fun attributeId =>
          input.accessor.getTypedValueAtAbsolutePosition attributeId t)) := by
  have positions := (iterates_selectionAccessor input result).positions
  have store : (selectionAccessor input.accessor result).store = input.accessor.store := by
    cases result <;> rfl
  unfold selectFrom
  simp only [SelectSpec.predicates, filtered, Exec.ok_bind, positions,
    ValueAccessor.getTypedValueAtAbsolutePosition, store]
  rfl

/-- The expressions are evaluated on the selected tuples, and their columns are freed. -/
theorem selectFrom_ofExpressions {selectExpressions : List Scalar} (nonempty : selectExpressions ≠ [])
    (agree : ∀ e ∈ selectExpressions, (e.methods ops).AgreesOn build (readSingleTuple input.accessor)
      (iterated result)) :
    selectFrom ops build (.ofExpressions predicates selectExpressions) input =
      .ok ((iterated result).map fun t =>
        selectExpressions.map fun e =>
          releasedValue ops (readSingleTuple input.accessor t) e
            ((e.methods ops).getValueForSingleTuple input.accessor t)) := by
  have iterates := iterates_selectionAccessor input result
  have columns := Exec.mapM_eq_ok fun e isExpression => agree e isExpression _ iterates
  have rows : argumentTuples (selectExpressions.map fun e => (iterated result).map fun t =>
        (e.methods ops).valueFor (readSingleTuple input.accessor t)) =
      (iterated result).map fun t => selectExpressions.map fun e =>
        (e.methods ops).valueFor (readSingleTuple input.accessor t) := by
    have rows := @argumentTuples_eq _ (iterated result)
      (selectExpressions.map fun e t => (e.methods ops).valueFor (readSingleTuple input.accessor t))
      (by simpa using nonempty)
    simpa only [List.map_map, Function.comp_def] using rows
  unfold selectFrom
  simp only [SelectSpec.predicates, filtered, Exec.ok_bind, columns, rows, iterates.positions,
    iterates.reads, List.zipWith_map_right, List.zipWith_self]
  rfl

/-- Without an expression there is no column to tell how many tuples are selected. -/
theorem selectFrom_noExpressions :
    selectFrom ops build (.ofExpressions predicates []) input = .ok [] := by
  unfold selectFrom
  simp only [SelectSpec.predicates, filtered, Exec.ok_bind]
  exact congrArg Except.ok List.zipWith_nil_right

end Batch

/-- A value in an output tuple is there unless it is a string of a column. -/
theorem releasedValue_eq_some_iff {read : AttributeReader} {selectExpression : Scalar}
    {value : TypedValue} :
    releasedValue ops read selectExpression value = some value ↔
      (value.hasOutOfLineData = true → refersToInput ops read selectExpression = true) := by
  unfold releasedValue
  cases value.hasOutOfLineData <;> cases refersToInput ops read selectExpression <;> simp

/-! One batch. -/

/-- At first all tuples of a batch are candidates. -/
theorem selects_batch (input : Batch) :
    Selects (readSingleTuple input.accessor) input.accessor.positions input.accessor.positions
      input.accessor none none where
  reads := rfl
  positions := rfl
  describes := input.accessor.describes_self
  within _ _ _ isMap := by cases isMap
  selected := ids_assignFromCandidates none

section Output

variable {selectSpec : SelectSpec} {input : Batch}

/-- The filter of a batch whose calls agree selects the tuples that satisfy all predicates. -/
theorem exists_filterResult (agree : ∀ call ∈ selectSpec.batchCalls ops input,
      call.Agrees ops build (readSingleTuple input.accessor)) :
    ∃ result, filterResult ops build input.accessor selectSpec.predicates none = .ok result ∧
      iterated result = selectSpec.selected ops input := by
  obtain ⟨result, filtered, selects⟩ := filterResult_eq selectSpec.predicates (selects_batch input)
    fun call isCall => agree call (List.mem_append_left _ isCall)
  refine ⟨result, filtered, Eq.trans ?_ selects.selected⟩
  cases result with
  | none => exact (ids_assignFromCandidates none).symm
  | some f => rfl

/-- **One batch** whose calls agree. -/
theorem selectFrom_eq (agree : ∀ call ∈ selectSpec.batchCalls ops input,
      call.Agrees ops build (readSingleTuple input.accessor)) :
    selectFrom ops build selectSpec input = .ok (selectSpec.output ops input) := by
  obtain ⟨result, filtered, selected⟩ := exists_filterResult agree
  cases selectSpec with
  | ofAttributes predicates selectAttributes =>
    change filterResult ops build input.accessor predicates none = _ at filtered
    rw [selectFrom_ofAttributes filtered, selected]
    rfl
  | ofExpressions predicates selectExpressions =>
    change filterResult ops build input.accessor predicates none = _ at filtered
    cases selectExpressions with
    | nil => exact selectFrom_noExpressions filtered
    | cons e es =>
      rw [selectFrom_ofExpressions filtered (List.cons_ne_nil e es), selected]
      · rfl
      · intro e isExpression
        rw [selected]
        exact agree _ (List.mem_append_right _ (List.mem_map_of_mem isExpression))

/-- The output is the projection of the selected tuples, unless there is no expression to tell how many
they are or a string goes with its column. -/
theorem SelectSpec.output_iff :
    selectSpec.output ops input = (selectSpec.selection ops input).inPlace ↔
      selectSpec.KeepsTuples ops input ∧ selectSpec.KeepsStrings ops input := by
  cases selectSpec with
  | ofAttributes predicates selectAttributes => exact iff_of_true rfl ⟨trivial, trivial⟩
  | ofExpressions predicates selectExpressions =>
    cases selectExpressions with
    | nil =>
      unfold SelectSpec.output SelectSpec.selection SelectSpec.selected Batch.inPlace
      rw [eq_comm, List.map_eq_nil_iff, List.map_eq_nil_iff, List.filter_eq_nil_iff]
      simp [SelectSpec.KeepsTuples, SelectSpec.KeepsStrings]
    | cons e es =>
      have keeps : SelectSpec.KeepsTuples ops (.ofExpressions predicates (e :: es)) input :=
        .inl (List.cons_ne_nil e es)
      rw [and_iff_right keeps]
      unfold SelectSpec.output SelectSpec.selection SelectSpec.selected Batch.inPlace
      rw [List.map_map, List.map_inj_left]
      apply forall_congr'
      intro t
      rw [List.mem_filter, and_iff_right (List.mem_finRange t)]
      apply imp_congr_right
      intro _
      show _ = List.map some (List.map _ _) ↔ _
      rw [List.map_map, List.map_inj_left]
      simp only [Function.comp_apply, releasedValue_eq_some_iff]

end Output

/-- What a run puts out, if the calls for its batches agree. -/
theorem run_eq {selectSpec : SelectSpec} {calls : List (List Batch)}
    (agree : ∀ inputs ∈ calls, ∀ input ∈ inputs, ∀ call ∈ selectSpec.batchCalls ops input,
      call.Agrees ops build (readSingleTuple input.accessor)) :
    StreamingSelectOperator.run ops build selectSpec calls =
      .ok (calls.map (List.map (selectSpec.output ops))) :=
  Exec.mapM_eq_ok fun inputs isCall => Exec.mapM_eq_ok fun input isInput =>
    selectFrom_eq (agree inputs isCall input isInput)

end Projection

section Safe

/-- No call that `next` makes for a batch goes wrong. -/
def SelectSpec.Safe (selectSpec : SelectSpec) (platform : Platform) (comparisons : Operations)
    (build : Build) (input : Batch) : Prop :=
  ∀ call ∈ selectSpec.batchCalls (operations platform comparisons) input,
    call.Safe platform comparisons build (readSingleTuple input.accessor)

variable {platform : Platform} {comparisons : Operations} {build : Build}

theorem realised_predicateCalls {ops : Operations} {n : Nat} {input : ValueAccessor n}
    {read : Fin n → AttributeReader} (predicates : List Predicate) {candidates : List (Fin n)}
    {filter : Option (TupleIdSequence n)}
    (selects : Selects read input.positions candidates input filter none) :
    ∀ call ∈ predicateCalls ops input predicates candidates, call.Realised read := by
  induction predicates generalizing candidates filter with
  | nil =>
    intro call isCall
    cases isCall
  | cons p predicates ih =>
    obtain ⟨sequence, restricted⟩ := selects.exists_restrict fun t =>
      (p.methods ops).matchesForSingleTuple input t
    exact List.forall_mem_cons.mpr ⟨⟨input, filter, none, selects⟩, ih restricted⟩

theorem realised_batchCalls {ops : Operations} {selectSpec : SelectSpec} {input : Batch} :
    ∀ call ∈ selectSpec.batchCalls ops input, call.Realised (readSingleTuple input.accessor) := by
  intro call isCall
  rcases List.mem_append.mp isCall with isPredicate | isExpression
  · exact realised_predicateCalls _ (selects_batch input) call isPredicate
  · cases selectSpec with
    | ofAttributes _ _ => cases isExpression
    | ofExpressions predicates selectExpressions =>
      obtain ⟨e, _, rfl⟩ := List.mem_map.mp isExpression
      exact (selects_batch input).toIterates.exists_adapter _

/-- Safe calls agree. -/
theorem SelectSpec.Safe.agree {selectSpec : SelectSpec} {input : Batch}
    (safe : selectSpec.Safe platform comparisons build input) :
    ∀ call ∈ selectSpec.batchCalls (operations platform comparisons) input,
      call.Agrees (operations platform comparisons) build (readSingleTuple input.accessor) :=
  fun call isCall => (safe call isCall).agrees (realised_batchCalls call isCall)

/-- **A run of the operator** whose calls are safe yields for every batch of every call the projection of
its tuples that satisfy all predicates, exactly if no batch meets an empty list of expressions with a tuple
to select, and no string is selected whose bytes belong to a column. -/
theorem run_selects_iff (platform : Platform) (comparisons : Operations) (build : Build)
    (selectSpec : SelectSpec) {calls : List (List Batch)}
    (safe : ∀ inputs ∈ calls, ∀ input ∈ inputs, selectSpec.Safe platform comparisons build input) :
    let ops := operations platform comparisons
    StreamingSelectOperator.run ops build selectSpec calls =
        .ok (calls.map (List.map fun input => (selectSpec.selection ops input).inPlace)) ↔
      ∀ inputs ∈ calls, ∀ input ∈ inputs,
        selectSpec.KeepsTuples ops input ∧ selectSpec.KeepsStrings ops input := by
  intro ops
  rw [run_eq fun inputs isCall input isInput => (safe inputs isCall input isInput).agree,
    Except.ok.injEq, List.map_inj_left]
  refine forall₂_congr fun inputs _ => ?_
  rw [List.map_inj_left]
  exact forall₂_congr fun input _ => SelectSpec.output_iff

end Safe

/-! ## Selecting nothing -/

/-- SELECT without any expression, of the tuples whose attribute is 1. -/
def emptySelect : SelectSpec := .ofExpressions [isOne] []

/-- SELECT of the negated attribute, of the tuples whose attribute is 1. -/
def negatedSelect : SelectSpec := .ofExpressions [isOne] [.unaryExpression .negate intAttribute]

/-- Integers other than the least one are negated safely. -/
theorem safe_negatedSelect {build : Build} {input : Batch}
    (isDefined : ∀ tuple ∈ input,
      UnaryOperation.negate.isDefined (.int true) (tuple.getD 0 default) = true) :
    negatedSelect.Safe integerPlatform intOperations build input := by
  intro call isCall
  rcases List.mem_append.mp isCall with isPredicate | isExpression
  · obtain rfl := List.mem_singleton.mp isPredicate
    exact Evaluation.safe_of_isPlain intOperations_agrees.comparator rfl
  · obtain rfl := List.mem_singleton.mp isExpression
    refine Evaluation.safe_of_evaluates ?_ ⟨trivial, trivial, trivial⟩ ?_
    · exact fun _ t _ => ⟨isDefined _ (List.getElem_mem t.isLt), fun _ stores => by cases stores⟩
    · intro next evaluates
      cases evaluates with
      | operand _ => exact Evaluation.safe_of_isPlain intOperations_agrees.comparator rfl

theorem run_selects_iff_negated :
    StreamingSelectOperator.run (operations integerPlatform intOperations) ⟨true, false⟩ negatedSelect
        [[[[.int 1], [.int 2], [.int 1]], [[.int 2]]], [[[.int 1]]]] =
      .ok [[[[some (.int (-1))], [some (.int (-1))]], []], [[[some (.int (-1))]]]] := by
  refine (run_selects_iff integerPlatform intOperations ⟨true, false⟩ negatedSelect ?_).mpr ?_
  · simp only [List.forall_mem_cons, List.not_mem_nil, false_implies, implies_true, and_true]
    refine ⟨⟨?_, ?_⟩, ?_⟩ <;> exact safe_negatedSelect (by decide)
  · simp only [List.forall_mem_cons, List.not_mem_nil, false_implies, implies_true, and_true]
    unfold negatedSelect SelectSpec.KeepsStrings
    refine ⟨⟨⟨.inl (List.cons_ne_nil _ _), ?_⟩, .inl (List.cons_ne_nil _ _), ?_⟩,
      .inl (List.cons_ne_nil _ _), ?_⟩ <;> decide

theorem not_run_selects_emptySelect :
    StreamingSelectOperator.run (operations integerPlatform intOperations) ⟨true, true⟩ emptySelect
        [[[[.int 1]]]] ≠
      .ok [[(emptySelect.selection (operations integerPlatform intOperations) [[.int 1]]).inPlace]] := by
  intro same
  have empty : StreamingSelectOperator.run (operations integerPlatform intOperations) ⟨true, true⟩
      emptySelect [[[[.int 1]]]] = .ok [[[]]] := rfl
  cases empty.symm.trans same

end Quickstep.StreamingOperators
