import Quickstep.StreamingOperators.StreamingSelectOperator

/-!
# A stream in batches

The streaming select operator keeps nothing between two batches, so where a stream is cut into batches,
and batches into calls, does not show in the tuples that it puts out, nor does the build.
-/

namespace Quickstep.StreamingOperators
open Quickstep.Common Quickstep.Types Quickstep.Expressions TupleIdSequence

/-- What every accessor reads at the position of a tuple. -/
def readTuple (tuple : Tuple) : AttributeReader := fun attr => tuple.getD attr.id default

/-- The tuples of the output that one tuple of the stream gives rise to: none or one. -/
def SelectSpec.outputsFor (ops : Operations) (selectSpec : SelectSpec) (tuple : Tuple) : OutputBatch :=
  if selectSpec.predicates.all fun p => (p.methods ops).matchesFor (readTuple tuple) then
    match selectSpec with
    | .ofAttributes _ selectAttributes =>
      [selectAttributes.map fun attributeId => some (tuple.getD attributeId default)]
    | .ofExpressions _ [] => []
    | .ofExpressions _ (selectExpression :: selectExpressions) =>
      [(selectExpression :: selectExpressions).map fun e =>
        releasedValue ops (readTuple tuple) e ((e.methods ops).valueFor (readTuple tuple))]
  else []

section Batches

variable {ops : Operations} {build : Build}

@[simp] theorem getTypedValue_accessor (input : Batch) (attributeId : Nat) (t : Fin input.length) :
    input.accessor.getTypedValueAtAbsolutePosition attributeId t = input[t].getD attributeId default :=
  rfl

@[simp] theorem readSingleTuple_accessor (input : Batch) (t : Fin input.length) :
    readSingleTuple input.accessor t = readTuple input[t] := rfl

/-- Positions that are filtered and read are tuples that are filtered and mapped. -/
theorem map_filter_finRange {α β : Type} (l : List α) (p : α → Bool) (f : α → β) :
    ((List.finRange l.length).filter fun t => p l[t]).map (fun t => f l[t]) = (l.filter p).map f := by
  have read : (List.finRange l.length).map (fun t => l[t]) = l := by simp
  calc ((List.finRange l.length).filter fun t => p l[t]).map (fun t => f l[t])
      = (((List.finRange l.length).map fun t => l[t]).filter p).map f := by
        rw [List.filter_map, List.map_map]
        rfl
    _ = (l.filter p).map f := by rw [read]

theorem map_filter_eq_flatMap {α β : Type} (l : List α) (p : α → Bool) (f : α → β) :
    (l.filter p).map f = l.flatMap fun x => if p x then [f x] else [] := by
  induction l with
  | nil => rfl
  | cons x l ih =>
    cases holds : p x with
    | true => simp [holds, ih]
    | false => simp [holds, ih]

/-- **One batch**: every tuple gives rise to its outputs, whatever batch it is in. -/
theorem SelectSpec.output_eq_flatMap (selectSpec : SelectSpec) (input : Batch) :
    selectSpec.output ops input = input.flatMap (selectSpec.outputsFor ops) := by
  cases selectSpec with
  | ofAttributes predicates selectAttributes =>
    unfold output selection selected Batch.inPlace
    rw [List.map_map]
    refine (map_filter_finRange input (fun tuple => predicates.all fun p =>
      (p.methods ops).matchesFor (readTuple tuple)) fun tuple =>
        (selectAttributes.map fun attributeId => tuple.getD attributeId default).map some).trans ?_
    rw [map_filter_eq_flatMap]
    simp only [List.map_map]
    rfl
  | ofExpressions predicates selectExpressions =>
    cases selectExpressions with
    | nil =>
      unfold output
      simp [outputsFor]
    | cons e es =>
      unfold output selected
      refine (map_filter_finRange input (fun tuple => predicates.all fun p =>
        (p.methods ops).matchesFor (readTuple tuple)) fun tuple =>
          (e :: es).map fun e => releasedValue ops (readTuple tuple) e
            ((e.methods ops).valueFor (readTuple tuple))).trans ?_
      rw [map_filter_eq_flatMap]
      rfl

/-- **A run** puts out what the tuples of the stream give rise to, one after the other. -/
theorem flatten_map_output (selectSpec : SelectSpec) (calls : List (List Batch)) :
    (calls.map (List.map (selectSpec.output ops))).flatten.flatten =
      calls.flatten.flatten.flatMap (selectSpec.outputsFor ops) := by
  have perBatch : selectSpec.output ops = List.flatMap (selectSpec.outputsFor ops) :=
    funext selectSpec.output_eq_flatMap
  rw [perBatch, ← List.map_flatten]
  induction calls.flatten with
  | nil => rfl
  | cons input inputs ih => simp [ih]

/-- **The cut of a stream does not show**: two runs, of whatever builds, over the same tuples in the
same order put out the same tuples in the same order, if their calls are safe. -/
theorem run_independent_of_batches (platform : Platform) (comparisons : Operations)
    (selectSpec : SelectSpec) (build build' : Build) {calls calls' : List (List Batch)}
    (safe : ∀ inputs ∈ calls, ∀ input ∈ inputs, selectSpec.Safe platform comparisons build input)
    (safe' : ∀ inputs ∈ calls', ∀ input ∈ inputs, selectSpec.Safe platform comparisons build' input)
    (sameStream : calls.flatten.flatten = calls'.flatten.flatten) :
    let ops := operations platform comparisons
    ∃ outputs outputs', StreamingSelectOperator.run ops build selectSpec calls = .ok outputs ∧
      StreamingSelectOperator.run ops build' selectSpec calls' = .ok outputs' ∧
      outputs.flatten.flatten = calls.flatten.flatten.flatMap (selectSpec.outputsFor ops) ∧
      outputs'.flatten.flatten = outputs.flatten.flatten := by
  intro ops
  refine ⟨_, _, run_eq fun inputs isCall input isInput => (safe inputs isCall input isInput).agree,
    run_eq fun inputs isCall input isInput => (safe' inputs isCall input isInput).agree,
    flatten_map_output selectSpec calls, ?_⟩
  rw [flatten_map_output, flatten_map_output, sameStream]

/-- Three readings in one batch, or cut into two calls. -/
theorem run_independent_of_batches_negated :
    let ops := operations integerPlatform intOperations
    ∃ outputs outputs',
      StreamingSelectOperator.run ops ⟨true, false⟩ negatedSelect
        [[[[.int 1], [.int 2], [.int 1]]]] = .ok outputs ∧
      StreamingSelectOperator.run ops ⟨false, true⟩ negatedSelect
        [[[[.int 1]], []], [[[.int 2], [.int 1]]]] = .ok outputs' ∧
      outputs.flatten.flatten = [[some (.int (-1))], [some (.int (-1))]] ∧
      outputs'.flatten.flatten = outputs.flatten.flatten := by
  refine run_independent_of_batches integerPlatform intOperations negatedSelect _ _ ?_ ?_ rfl
  · simp only [List.forall_mem_cons, List.not_mem_nil, false_implies, implies_true, and_true]
    exact safe_negatedSelect (by decide)
  · simp only [List.forall_mem_cons, List.not_mem_nil, false_implies, implies_true, and_true]
    refine ⟨⟨?_, ?_⟩, ?_⟩ <;> exact safe_negatedSelect (by decide)

end Batches

end Quickstep.StreamingOperators
