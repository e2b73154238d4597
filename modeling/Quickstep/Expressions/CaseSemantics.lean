import Quickstep.Expressions.VectorisedExactness

/-!
# The branch a CASE chooses

Branches are told apart by their numbers, ELSE coming last. The branch that the constructor and the
evaluation settle on is compared with the first WHEN that holds for the tuple.
-/

namespace Quickstep.Expressions
open Quickstep.Common Quickstep.Types

def PredicateMethods.isStaticallyTrue (p : PredicateMethods) : Bool := p.staticResult == some true

/-- No WHEN before the first statically true one holds. -/
def NoneHoldsBefore (read : AttributeReader) (whenPredicates : List PredicateMethods) : Prop :=
  whenPredicates.any PredicateMethods.isStaticallyTrue = true →
    ∀ whenPredicate ∈ whenPredicates.take
        (whenPredicates.findIdx PredicateMethods.isStaticallyTrue),
      whenPredicate.matchesFor read = false

section Numbers

variable {α : Type}

/-- The number of the branch that is evaluated: every branch yields its own number. -/
def chosenNumber (read : AttributeReader) (whenPredicates : List PredicateMethods) : Nat :=
  chosenBranch read whenPredicates.zipIdx whenPredicates.length

variable {read : AttributeReader} {branches : List (PredicateMethods × α)}

/-- The fixed result of the constructor is that of the first statically true WHEN. -/
theorem resolveBranches_fst (branches : List (PredicateMethods × α)) (staticCaseBranch : Bool) :
    (resolveBranches branches staticCaseBranch).1 =
      (branches.find? fun branch => branch.1.isStaticallyTrue).map Prod.snd := by
  induction branches generalizing staticCaseBranch with
  | nil => rfl
  | cons branch branches ih =>
    obtain ⟨whenPredicate, result⟩ := branch
    unfold resolveBranches
    rw [List.find?_cons, PredicateMethods.isStaticallyTrue]
    split
    · rename_i static
      simp [static]
    · rename_i static
      simpa [static] using ih staticCaseBranch
    · rename_i static
      simpa [static] using ih false

/-- `static_case_branch` survives when every WHEN is static. -/
theorem resolveBranches_snd (branches : List (PredicateMethods × α)) (staticCaseBranch : Bool)
    (noneTrue : (branches.find? fun branch => branch.1.isStaticallyTrue) = none) :
    (resolveBranches branches staticCaseBranch).2 =
      (staticCaseBranch && branches.all fun branch => branch.1.staticResult.isSome) := by
  induction branches generalizing staticCaseBranch with
  | nil => simp [resolveBranches]
  | cons branch branches ih =>
    obtain ⟨whenPredicate, result⟩ := branch
    rw [List.find?_cons, PredicateMethods.isStaticallyTrue] at noneTrue
    unfold resolveBranches
    split
    · rename_i static
      simp [static] at noneTrue
    · rename_i static
      simp only [static] at noneTrue
      simp [ih staticCaseBranch noneTrue, static]
    · rename_i static
      simp only [static] at noneTrue
      simp [ih false noneTrue, static]

theorem chosenBranch_static {elseBranch : α}
    (static : (branches.map Prod.fst).any PredicateMethods.isStaticallyTrue = true) :
    chosenBranch read branches elseBranch =
      resultAt branches elseBranch
        ((branches.map Prod.fst).findIdx PredicateMethods.isStaticallyTrue) := by
  rw [List.findIdx_map]
  rw [List.any_map, List.any_eq_true] at static
  have below := List.findIdx_lt_length.mpr static
  have found : (branches.find? fun branch => branch.1.isStaticallyTrue) =
      some branches[branches.findIdx (PredicateMethods.isStaticallyTrue ∘ Prod.fst)] := by
    rw [List.find?_eq_some_iff_getElem]
    have isTrue := List.findIdx_getElem (w := below)
    refine ⟨isTrue, _, below, rfl, ?_⟩
    intro j before
    simpa using List.not_of_lt_findIdx before
  have fixed := resolveBranches_fst branches true
  rw [found] at fixed
  unfold chosenBranch fixedBranch resultAt
  rw [List.getElem?_eq_getElem below]
  split
  · rename_i same
    rw [same] at fixed
    simpa using fixed
  · rename_i same
    simp [same] at fixed
  · rename_i same
    simp [same] at fixed

theorem chosenBranch_dynamic (keeps : ∀ branch ∈ branches, branch.1.KeepsStaticResult)
    {elseBranch : α}
    (dynamic : (branches.map Prod.fst).any PredicateMethods.isStaticallyTrue = false) :
    chosenBranch read branches elseBranch =
      resultAt branches elseBranch (firstHolding read (branches.map Prod.fst)) := by
  rw [List.any_map, List.any_eq_false] at dynamic
  have noneTrue : (branches.find? fun branch => branch.1.isStaticallyTrue) = none := by
    rw [List.find?_eq_none]
    exact dynamic
  have fixed := resolveBranches_fst branches true
  have static := resolveBranches_snd branches true noneTrue
  rw [noneTrue] at fixed
  unfold chosenBranch fixedBranch
  split
  · rename_i same
    simp [same] at fixed
  · rename_i same
    -- Every WHEN is statically false, so none of them holds.
    rw [same, Bool.true_and, eq_comm, List.all_eq_true] at static
    have last : firstHolding read (branches.map Prod.fst) = branches.length := by
      rw [firstHolding, List.findIdx_map]
      apply List.findIdx_eq_length.mpr
      intro branch isBranch
      have notTrue := dynamic branch isBranch
      obtain ⟨result, isStatic⟩ := Option.isSome_iff_exists.mp (static branch isBranch)
      cases result with
      | true => simp [PredicateMethods.isStaticallyTrue, isStatic] at notTrue
      | false => exact keeps branch isBranch false isStatic read
    simp [resultAt, last]
  · exact firstMatch_eq branches elseBranch

end Numbers

section Choice

variable {read : AttributeReader} {whenPredicates : List PredicateMethods}

theorem resultAt_zipIdx {number : Nat} (bound : number ≤ whenPredicates.length) :
    resultAt whenPredicates.zipIdx whenPredicates.length number = number := by
  unfold resultAt
  rw [List.getElem?_zipIdx]
  rcases Nat.lt_or_eq_of_le bound with below | rfl
  · simp [List.getElem?_eq_getElem below]
  · simp

theorem chosenNumber_static
    (static : whenPredicates.any PredicateMethods.isStaticallyTrue = true) :
    chosenNumber read whenPredicates =
      whenPredicates.findIdx PredicateMethods.isStaticallyTrue := by
  unfold chosenNumber
  rw [chosenBranch_static (by rwa [List.zipIdx_map_fst]), List.zipIdx_map_fst]
  exact resultAt_zipIdx List.findIdx_le_length

theorem chosenNumber_dynamic (keeps : ∀ p ∈ whenPredicates, p.KeepsStaticResult)
    (dynamic : whenPredicates.any PredicateMethods.isStaticallyTrue = false) :
    chosenNumber read whenPredicates = firstHolding read whenPredicates := by
  unfold chosenNumber
  rw [chosenBranch_dynamic _ (by rwa [List.zipIdx_map_fst]), List.zipIdx_map_fst]
  · exact resultAt_zipIdx List.findIdx_le_length
  · intro branch isBranch
    apply keeps
    rw [← List.zipIdx_map_fst 0 whenPredicates]
    exact List.mem_map_of_mem isBranch

theorem chosenNumber_le (keeps : ∀ p ∈ whenPredicates, p.KeepsStaticResult) :
    chosenNumber read whenPredicates ≤ whenPredicates.length := by
  cases static : whenPredicates.any PredicateMethods.isStaticallyTrue with
  | true =>
    rw [chosenNumber_static static]
    exact List.findIdx_le_length
  | false =>
    rw [chosenNumber_dynamic keeps static]
    exact List.findIdx_le_length

/-- The branch that is evaluated is the one with the chosen number. -/
theorem chosenBranch_eq {α : Type} {branches : List (PredicateMethods × α)}
    (keeps : ∀ branch ∈ branches, branch.1.KeepsStaticResult) (elseBranch : α) :
    chosenBranch read branches elseBranch =
      resultAt branches elseBranch (chosenNumber read (branches.map Prod.fst)) := by
  have whenKeeps : ∀ p ∈ branches.map Prod.fst, p.KeepsStaticResult := by
    intro p isWhen
    obtain ⟨branch, isBranch, rfl⟩ := List.mem_map.mp isWhen
    exact keeps branch isBranch
  cases static : (branches.map Prod.fst).any PredicateMethods.isStaticallyTrue with
  | true => rw [chosenBranch_static static, chosenNumber_static static]
  | false => rw [chosenBranch_dynamic keeps static, chosenNumber_dynamic whenKeeps static]

/-- **Folding is harmless** exactly when no WHEN before the first statically true one holds. -/
theorem chosenNumber_iff (keeps : ∀ p ∈ whenPredicates, p.KeepsStaticResult) :
    chosenNumber read whenPredicates = firstHolding read whenPredicates ↔
      NoneHoldsBefore read whenPredicates := by
  cases static : whenPredicates.any PredicateMethods.isStaticallyTrue with
  | false =>
    rw [chosenNumber_dynamic keeps static]
    simp [NoneHoldsBefore, static]
  | true =>
    rw [chosenNumber_static static]
    have below := List.findIdx_lt_length.mpr (List.any_eq_true.mp static)
    constructor
    · intro same _ p before
      obtain ⟨i, bound, rfl⟩ := List.getElem_of_mem before
      rw [List.length_take] at bound
      rw [List.getElem_take]
      apply List.not_of_lt_findIdx (p := fun p : PredicateMethods => p.matchesFor read)
      show i < firstHolding read whenPredicates
      omega
    · intro noneHolds
      symm
      apply (List.findIdx_eq below).mpr
      constructor
      · apply keeps _ (List.getElem_mem below) true
        simpa [PredicateMethods.isStaticallyTrue] using
          List.findIdx_getElem (p := PredicateMethods.isStaticallyTrue) (w := below)
      · intro j before
        apply noneHolds static
        rw [List.mem_take_iff_getElem]
        exact ⟨j, by omega, rfl⟩

end Choice

section Answers

section Definitions

variable (ops : Operations) (resultType : DataType) (branches : List Branch)
  (elseResultExpression : Scalar)

/-- The result expression of the first WHEN that holds, or of ELSE. -/
def firstHoldingResult (read : AttributeReader) : ScalarMethods :=
  resultAt (branchesMethods ops branches) (elseResultExpression.methods ops)
    (firstHolding read (whenPredicates ops branches))

/-- The first WHEN that holds for a tuple decides its value. -/
structure DecidesSingleTuple {n : Nat} (accessor : ValueAccessor n) (t : Fin n) : Prop where
  branch : chosenNumber (readSingleTuple accessor t) (whenPredicates ops branches) =
    firstHolding (readSingleTuple accessor t) (whenPredicates ops branches)
  singleTuple : ((Scalar.caseExpression resultType branches elseResultExpression).methods
      ops).getValueForSingleTuple accessor t =
    (firstHoldingResult ops branches elseResultExpression
      (readSingleTuple accessor t)).getValueForSingleTuple accessor t

/-- The first WHEN that holds for a pair of tuples decides its value. -/
structure DecidesJoinedTuples {n m : Nat} (leftAccessor : ValueAccessor n) (leftRelationId : Nat)
    (leftTupleId : Fin n) (rightAccessor : ValueAccessor m) (rightTupleId : Fin m) : Prop where
  branch :
    chosenNumber
      (readJoinedTuples leftAccessor leftRelationId leftTupleId rightAccessor rightTupleId)
      (whenPredicates ops branches) =
    firstHolding
      (readJoinedTuples leftAccessor leftRelationId leftTupleId rightAccessor rightTupleId)
      (whenPredicates ops branches)
  joinedTuples : ((Scalar.caseExpression resultType branches elseResultExpression).methods
      ops).getValueForJoinedTuples leftAccessor leftRelationId leftTupleId rightAccessor
        rightTupleId =
    (firstHoldingResult ops branches elseResultExpression
      (readJoinedTuples leftAccessor leftRelationId leftTupleId rightAccessor
        rightTupleId)).getValueForJoinedTuples leftAccessor leftRelationId leftTupleId rightAccessor
          rightTupleId

/-- The first WHEN that holds for each tuple decides its value in the column. -/
structure DecidesAllValues (build : Build) {n : Nat} (accessor : ValueAccessor n) : Prop where
  branch : ∀ t ∈ accessor.positions,
    chosenNumber (readSingleTuple accessor t) (whenPredicates ops branches) =
      firstHolding (readSingleTuple accessor t) (whenPredicates ops branches)
  allValues : ∃ column, ((Scalar.caseExpression resultType branches elseResultExpression).methods
      ops).getAllValues build accessor = .ok column ∧
    column.length = accessor.getNumTuples ∧
    ∀ (k : Nat) (t : Fin n), accessor.positions[k]? = some t →
      column[k]? = some ((firstHoldingResult ops branches elseResultExpression
        (readSingleTuple accessor t)).getValueForSingleTuple accessor t)

end Definitions

variable {ops : Operations} {resultType : DataType} {branches : List Branch}
  {elseResultExpression : Scalar}

theorem branchesMethods_keeps :
    ∀ branch ∈ branchesMethods ops branches, branch.1.KeepsStaticResult := by
  intro branch isMethods
  rw [branchesMethods_eq] at isMethods
  obtain ⟨⟨whenPredicate, _⟩, _, rfl⟩ := List.mem_map.mp isMethods
  exact whenPredicate.keepsStaticResult

theorem whenPredicates_keeps : ∀ p ∈ whenPredicates ops branches, p.KeepsStaticResult := by
  intro p isWhen
  obtain ⟨branch, isBranch, rfl⟩ := List.mem_map.mp isWhen
  exact branchesMethods_keeps branch isBranch

/-- The value of a CASE is that of the branch it chooses. -/
theorem caseExpression_valueFor_chosen (read : AttributeReader) :
    ((Scalar.caseExpression resultType branches elseResultExpression).methods ops).valueFor read =
      (resultAt (branchesMethods ops branches) (elseResultExpression.methods ops)
        (chosenNumber read (whenPredicates ops branches))).valueFor read := by
  have chosen := chosenBranch_map (Scalar.methods ops) (branches.map (Branch.scalar ops))
    elseResultExpression read
  rw [caseExpression_valueFor_chosenBranch, ← chosen, ← branchesMethods_scalars,
    chosenBranch_eq branchesMethods_keeps]
  rfl

/-- Where the chosen branch is the first that holds, its value is the value of the CASE. -/
theorem caseExpression_valueFor {read : AttributeReader}
    (chosen : chosenNumber read (whenPredicates ops branches) =
      firstHolding read (whenPredicates ops branches)) :
    ((Scalar.caseExpression resultType branches elseResultExpression).methods ops).valueFor read =
      (firstHoldingResult ops branches elseResultExpression read).valueFor read := by
  rw [caseExpression_valueFor_chosen, chosen]
  rfl

/-- Where the chosen branches are the first that hold, so is the column of a call that agrees. -/
theorem decidesAllValues_iff {build : Build} {n : Nat} {accessor : ValueAccessor n}
    (agrees : ((Scalar.caseExpression resultType branches elseResultExpression).valuesCall
      accessor).Agrees ops build (readSingleTuple accessor)) :
    DecidesAllValues ops resultType branches elseResultExpression build accessor ↔
      ∀ t ∈ accessor.positions,
        NoneHoldsBefore (readSingleTuple accessor t) (whenPredicates ops branches) := by
  simp only [← chosenNumber_iff whenPredicates_keeps]
  constructor
  · exact DecidesAllValues.branch
  · intro chosen
    obtain ⟨column, ran, length, values⟩ := Scalar.columnExact_of_agrees agrees
    refine ⟨chosen, column, ran, length, fun k t place => ?_⟩
    rw [values k t place]
    exact congrArg some (caseExpression_valueFor (chosen t (List.mem_of_getElem? place)))

/-- A WHEN that reads the tuple, before one that is always true. -/
def overlappingBranches : List Branch :=
  [.mk isOne (.literal (.int 10) (.int false)), .mk .truePredicate (.literal (.int 20) (.int false))]

def oneAndTwo : ValueAccessor 2 where
  store := .tupleVector #v[[.int 1], [.int 2]]
  tupleIdSequence := none

/-- The second tuple alone. -/
def onlyTwo : ValueAccessor 2 :=
  oneAndTwo.createSharedTupleIdSequenceAdapter
    ((TupleIdSequence.create 2).set ⟨1, Nat.one_lt_two⟩ true)

/-- The fixed branch is a literal, so nothing else is evaluated. -/
theorem reaches_overlapping {ops : Operations} {build : Build} {n : Nat}
    {read : Fin n → AttributeReader} {tuples : List (Fin n)} {next : Evaluation n}
    (reaches : Reaches ops build read (.values (.caseExpression (.int false) overlappingBranches
      (.literal (.int 30) (.int false))) tuples) next) :
    next = .values (.caseExpression (.int false) overlappingBranches
      (.literal (.int 30) (.int false))) tuples := by
  rcases Relation.ReflTransGen.cases_head_iff.mp reaches with rfl | ⟨_, evaluates, _⟩
  · rfl
  · cases evaluates with
    | fixedResult resolved dynamic =>
      cases resolved
      cases dynamic
    | whenPredicate unresolved _ _ | result unresolved _ _ | elseResult unresolved _ => cases unresolved

end Answers

end Quickstep.Expressions
