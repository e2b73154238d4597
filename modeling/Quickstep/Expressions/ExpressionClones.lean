import Quickstep.Expressions.ProtoRoundTrip

/-!
# Cloning expressions

`clone` calls the constructors once more: those of operations check again that the operation applies,
and AND and OR are built anew from the clones of their operands. The clone has the message of the
original and evaluates alike. It may differ in what the cache of an OR holds where it is not read,
since the static operands now come first; a clone of a clone is the same tree.
-/

namespace Quickstep.Expressions
open Quickstep.Types Quickstep.Lib

section Clone

variable (ops : Operations)

mutual

/-- `none` where a constructor throws. -/
def Scalar.clone : Scalar → Option Scalar
  | .literal value type => some (.literal value type)
  | .ofAttribute attr => some (.ofAttribute attr)
  | .unaryExpression operation operand => do
    let operand ← operand.clone
    scalarUnaryExpression? ops operation operand
  | .binaryExpression operation leftOperand rightOperand => do
    let leftOperand ← leftOperand.clone
    let rightOperand ← rightOperand.clone
    scalarBinaryExpression? ops operation leftOperand rightOperand
  | .caseExpression resultType branches elseResultExpression => do
    let branches ← branchClones branches
    let elseResultExpression ← elseResultExpression.clone
    some (.caseExpression resultType branches elseResultExpression)

def Predicate.clone : Predicate → Option Predicate
  | .truePredicate => some .truePredicate
  | .falsePredicate => some .falsePredicate
  | .comparison comparison leftOperand rightOperand => do
    let leftOperand ← leftOperand.clone
    let rightOperand ← rightOperand.clone
    comparisonPredicate? ops comparison leftOperand rightOperand
  | .negation operand => do
    let operand ← operand.clone
    some (.negation operand)
  | .conjunction _ staticOperandList dynamicOperandList => do
    let statics ← operandClones staticOperandList
    let dynamics ← operandClones dynamicOperandList
    let clone := statics.foldl (ConjunctionPredicate.addPredicate ops) ConjunctionPredicate.create
    some (ConjunctionPredicate.toPredicate
      (dynamics.foldl (ConjunctionPredicate.addPredicate ops) clone))
  | .disjunction _ _ staticOperandList dynamicOperandList => do
    let statics ← operandClones staticOperandList
    let dynamics ← operandClones dynamicOperandList
    let clone := statics.foldl (DisjunctionPredicate.addPredicate ops) DisjunctionPredicate.create
    some (DisjunctionPredicate.toPredicate
      (dynamics.foldl (DisjunctionPredicate.addPredicate ops) clone))

def branchClones : List Branch → Option (List Branch)
  | [] => some []
  | .mk whenPredicate resultExpression :: branches => do
    let whenPredicate ← whenPredicate.clone
    let resultExpression ← resultExpression.clone
    let branches ← branchClones branches
    some (.mk whenPredicate resultExpression :: branches)

def operandClones : List Predicate → Option (List Predicate)
  | [] => some []
  | operand :: operands => do
    let operand ← operand.clone
    let operands ← operandClones operands
    some (operand :: operands)

end

end Clone

/-! ## The trees that the constructors compose -/

section Composed

variable (ops : Operations)

mutual

/-- Every node is what its constructor returned, or what `addPredicate` has made of an AND or OR. -/
inductive Scalar.Composed : Scalar → Prop
  | literal (value : TypedValue) (type : DataType) : Scalar.Composed (.literal value type)
  | ofAttribute (attr : CatalogAttribute) : Scalar.Composed (.ofAttribute attr)
  | unaryExpression {operation : UnaryOperation} {operand s : Scalar} :
    Scalar.Composed operand → scalarUnaryExpression? ops operation operand = some s → Scalar.Composed s
  | binaryExpression {operation : BinaryOperation} {leftOperand rightOperand s : Scalar} :
    Scalar.Composed leftOperand → Scalar.Composed rightOperand →
      scalarBinaryExpression? ops operation leftOperand rightOperand = some s → Scalar.Composed s
  | caseExpression {resultType : DataType} {branches : List Branch} {elseResultExpression : Scalar} :
    (∀ whenPredicate resultExpression, Branch.mk whenPredicate resultExpression ∈ branches →
      Predicate.Composed whenPredicate) →
    (∀ whenPredicate resultExpression, Branch.mk whenPredicate resultExpression ∈ branches →
      Scalar.Composed resultExpression) →
    Scalar.Composed elseResultExpression →
      Scalar.Composed (.caseExpression resultType branches elseResultExpression)

inductive Predicate.Composed : Predicate → Prop
  | truePredicate : Predicate.Composed .truePredicate
  | falsePredicate : Predicate.Composed .falsePredicate
  | comparison {comparison : ComparisonID} {leftOperand rightOperand : Scalar} {p : Predicate} :
    Scalar.Composed leftOperand → Scalar.Composed rightOperand →
      comparisonPredicate? ops comparison leftOperand rightOperand = some p → Predicate.Composed p
  | negation {operand : Predicate} : Predicate.Composed operand → Predicate.Composed (.negation operand)
  | conjunction {operands : List Predicate} :
    (∀ operand ∈ operands, Predicate.Composed operand) → Predicate.Composed (conjunctionOf ops operands)
  | disjunction {operands : List Predicate} :
    (∀ operand ∈ operands, Predicate.Composed operand) → Predicate.Composed (disjunctionOf ops operands)

end

mutual

/-- What holds of every node that a constructor has built. -/
def Scalar.Constructed : Scalar → Prop
  | .literal _ _ | .ofAttribute _ => True
  | .unaryExpression operation operand =>
    operand.Constructed ∧ ops.canApplyToType operation (operand.methods ops).type = true
  | .binaryExpression operation leftOperand rightOperand =>
    leftOperand.Constructed ∧ rightOperand.Constructed ∧
      ops.canApplyToTypes operation (leftOperand.methods ops).type (rightOperand.methods ops).type =
        true
  | .caseExpression _ branches elseResultExpression =>
    branchesConstructed branches ∧ elseResultExpression.Constructed

/-- The lists of AND and OR are sorted and flat. An OR is as created, or has an operand. -/
def Predicate.Constructed : Predicate → Prop
  | .truePredicate | .falsePredicate => True
  | .comparison comparison leftOperand rightOperand =>
    leftOperand.Constructed ∧ rightOperand.Constructed ∧
      ops.canCompareTypes comparison (leftOperand.methods ops).type (rightOperand.methods ops).type =
        true
  | .negation operand => operand.Constructed
  | .conjunction cached staticOperandList dynamicOperandList =>
    operandsConstructed staticOperandList ∧ operandsConstructed dynamicOperandList ∧
      (∀ operand ∈ staticOperandList ++ dynamicOperandList,
        ConjunctionPredicate.sameKind operand = none) ∧
      OperandLists.Valid ops false StaticState.result?
        ⟨cached, staticOperandList, dynamicOperandList⟩
  | .disjunction cached fresh staticOperandList dynamicOperandList =>
    operandsConstructed staticOperandList ∧ operandsConstructed dynamicOperandList ∧
      (∀ operand ∈ staticOperandList ++ dynamicOperandList,
        DisjunctionPredicate.sameKind operand = none) ∧
      (⟨⟨cached, fresh⟩, staticOperandList, dynamicOperandList⟩ = DisjunctionPredicate.create ∨
        OperandLists.Valid ops true DisjunctionState.result
          ⟨⟨cached, fresh⟩, staticOperandList, dynamicOperandList⟩ ∧
        fresh = false ∧ staticOperandList ++ dynamicOperandList ≠ [])

def branchesConstructed : List Branch → Prop
  | [] => True
  | .mk whenPredicate resultExpression :: branches =>
    whenPredicate.Constructed ∧ resultExpression.Constructed ∧ branchesConstructed branches

def operandsConstructed : List Predicate → Prop
  | [] => True
  | operand :: operands => operand.Constructed ∧ operandsConstructed operands

end

end Composed

section Lists

variable {ops : Operations}

@[simp] theorem scalarUnaryExpression?_eq_some {operation : UnaryOperation} {operand s : Scalar} :
    scalarUnaryExpression? ops operation operand = some s ↔
      ops.canApplyToType operation (operand.methods ops).type = true ∧
        .unaryExpression operation operand = s := by
  simp [scalarUnaryExpression?]

@[simp] theorem scalarBinaryExpression?_eq_some {operation : BinaryOperation}
    {leftOperand rightOperand s : Scalar} :
    scalarBinaryExpression? ops operation leftOperand rightOperand = some s ↔
      ops.canApplyToTypes operation (leftOperand.methods ops).type
          (rightOperand.methods ops).type = true ∧
        .binaryExpression operation leftOperand rightOperand = s := by
  simp [scalarBinaryExpression?]

@[simp] theorem comparisonPredicate?_eq_some {comparison : ComparisonID}
    {leftOperand rightOperand : Scalar} {p : Predicate} :
    comparisonPredicate? ops comparison leftOperand rightOperand = some p ↔
      ops.canCompareTypes comparison (leftOperand.methods ops).type
          (rightOperand.methods ops).type = true ∧
        .comparison comparison leftOperand rightOperand = p := by
  simp [comparisonPredicate?]

theorem operandsConstructed_iff (operands : List Predicate) :
    operandsConstructed ops operands ↔ ∀ operand ∈ operands, operand.Constructed ops := by
  induction operands with
  | nil => simp [operandsConstructed]
  | cons operand operands ih => simp [operandsConstructed, ih]

theorem branchesConstructed_iff (branches : List Branch) :
    branchesConstructed ops branches ↔
      ∀ whenPredicate resultExpression, Branch.mk whenPredicate resultExpression ∈ branches →
        whenPredicate.Constructed ops ∧ resultExpression.Constructed ops := by
  induction branches with
  | nil => simp [branchesConstructed]
  | cons branch branches ih =>
    obtain ⟨whenPredicate, resultExpression⟩ := branch
    unfold branchesConstructed
    rw [ih]
    constructor
    · rintro ⟨whenConstructed, resultConstructed, later⟩ w r mem
      rcases List.mem_cons.mp mem with same | isLater
      · cases same
        exact ⟨whenConstructed, resultConstructed⟩
      · exact later w r isLater
    · intro all
      obtain ⟨whenConstructed, resultConstructed⟩ := all _ _ List.mem_cons_self
      exact ⟨whenConstructed, resultConstructed, fun w r mem => all w r (List.mem_cons_of_mem _ mem)⟩

end Lists

namespace ConjunctionPredicate

variable {ops : Operations}

theorem flattens_of_constructed {operand : Predicate} (constructed : operand.Constructed ops)
    (statics dynamics : List Predicate) (same : sameKind operand = some (statics, dynamics)) :
    Flattens ops false operand statics dynamics := by
  cases operand with
  | conjunction cached staticOperandList dynamicOperandList =>
    cases same
    unfold Predicate.Constructed at constructed
    exact flattens_toPredicate constructed.2.2.2
  | truePredicate | falsePredicate | comparison _ _ _ | negation _ | disjunction _ _ _ _ => cases same

/-- Flattening one level is enough. -/
theorem addedOperands_constructed {operand : Predicate} (constructed : operand.Constructed ops) :
    ∀ p ∈ addedOperands sameKind operand, p.Constructed ops ∧ sameKind p = none := by
  intro p mem
  cases operand with
  | conjunction cached staticOperandList dynamicOperandList =>
    unfold Predicate.Constructed at constructed
    obtain ⟨statics, dynamics, flat, _⟩ := constructed
    refine ⟨?_, flat p mem⟩
    rcases List.mem_append.mp mem with isStatic | isDynamic
    · exact (operandsConstructed_iff _).mp statics p isStatic
    · exact (operandsConstructed_iff _).mp dynamics p isDynamic
  | truePredicate | falsePredicate | comparison _ _ _ | negation _ | disjunction _ _ _ _ =>
    rw [List.mem_singleton.mp mem]
    exact ⟨constructed, rfl⟩

theorem conjunctionOf_constructed {operands : List Predicate}
    (constructed : ∀ operand ∈ operands, operand.Constructed ops) :
    (conjunctionOf ops operands).Constructed ops := by
  have flattens : ∀ operand ∈ operands, ∀ statics dynamics,
      sameKind operand = some (statics, dynamics) → Flattens ops false operand statics dynamics :=
    fun operand isOperand => flattens_of_constructed (constructed operand isOperand)
  have valid := (valid_foldl_addOperand processing_follows flattens create_valid).1
  have operandsHold : ∀ p ∈ (operands.foldl (addPredicate ops) create).operands,
      p.Constructed ops ∧ sameKind p = none :=
    forall_operands_foldl
      (fun operand isOperand => addedOperands_constructed (constructed operand isOperand)) nofun
  unfold conjunctionOf toPredicate Predicate.Constructed
  rw [operandsConstructed_iff, operandsConstructed_iff]
  exact ⟨fun p mem => (operandsHold p (List.mem_append_left _ mem)).1,
    fun p mem => (operandsHold p (List.mem_append_right _ mem)).1,
    fun p mem => (operandsHold p mem).2, valid⟩

end ConjunctionPredicate

namespace DisjunctionPredicate

variable {ops : Operations}

/-- The invariant of an OR under construction. -/
structure Building (ops : Operations) (lists : OperandLists DisjunctionState) : Prop where
  operands : ∀ p ∈ lists.operands, p.Constructed ops ∧ sameKind p = none
  state : lists = create ∨
    lists.Valid ops true DisjunctionState.result ∧ lists.cached.fresh = false ∧ lists.operands ≠ []

theorem Building.valid {lists : OperandLists DisjunctionState} (building : Building ops lists) :
    lists.Valid ops true DisjunctionState.result := by
  rcases building.state with rfl | ⟨valid, -, -⟩
  · exact create_valid
  · exact valid

theorem constructed_iff_building {cached : StaticState} {fresh : Bool}
    {statics dynamics : List Predicate} :
    (Predicate.disjunction cached fresh statics dynamics).Constructed ops ↔
      Building ops ⟨⟨cached, fresh⟩, statics, dynamics⟩ := by
  unfold Predicate.Constructed
  rw [operandsConstructed_iff, operandsConstructed_iff]
  constructor
  · rintro ⟨staticsHold, dynamicsHold, flat, state⟩
    refine ⟨fun p mem => ⟨?_, flat p mem⟩, state⟩
    rcases List.mem_append.mp mem with isStatic | isDynamic
    · exact staticsHold p isStatic
    · exact dynamicsHold p isDynamic
  · intro building
    exact ⟨fun p mem => (building.operands p (List.mem_append_left _ mem)).1,
      fun p mem => (building.operands p (List.mem_append_right _ mem)).1,
      fun p mem => (building.operands p mem).2, building.state⟩

theorem addedOperands_constructed {operand : Predicate} (constructed : operand.Constructed ops) :
    ∀ p ∈ addedOperands sameKind operand, p.Constructed ops ∧ sameKind p = none := by
  intro p mem
  cases operand with
  | disjunction cached fresh staticOperandList dynamicOperandList =>
    exact (constructed_iff_building.mp constructed).operands p mem
  | truePredicate | falsePredicate | comparison _ _ _ | negation _ | conjunction _ _ _ =>
    rw [List.mem_singleton.mp mem]
    exact ⟨constructed, rfl⟩

/-- An OR without operands is absorbed, any other operand is one that the lists can stand for. -/
theorem addPredicate_eq_self_or_flattens {operand : Predicate} (constructed : operand.Constructed ops) :
    (∀ lists, addPredicate ops lists operand = lists) ∨
      addedOperands sameKind operand ≠ [] ∧
        ∀ statics dynamics, sameKind operand = some (statics, dynamics) →
          Flattens ops true operand statics dynamics := by
  cases operand with
  | disjunction cached fresh staticOperandList dynamicOperandList =>
    rcases (constructed_iff_building.mp constructed).state with empty | ⟨valid, notFresh, nonempty⟩
    · cases empty
      left
      intro lists
      simp [addPredicate, addOperand, sameKind]
    · right
      refine ⟨nonempty, ?_⟩
      intro statics dynamics same
      cases same
      exact flattens_toPredicate valid notFresh
  | truePredicate | falsePredicate | comparison _ _ _ | negation _ | conjunction _ _ _ =>
    right
    exact ⟨List.cons_ne_nil _ _, fun statics dynamics same => by cases same⟩

theorem building_addPredicate {lists : OperandLists DisjunctionState} {operand : Predicate}
    (building : Building ops lists) (constructed : operand.Constructed ops) :
    Building ops (addPredicate ops lists operand) := by
  rcases addPredicate_eq_self_or_flattens constructed with same | ⟨nonempty, flattens⟩
  · rw [same]
    exact building
  · constructor
    · intro p mem
      rcases List.mem_append.mp (mem_operands_addOperand.mp mem) with before | now
      · exact building.operands p before
      · exact addedOperands_constructed constructed p now
    · right
      refine ⟨valid_addOperand flattens processing_follows building.valid,
        fresh_addPredicate nonempty, ?_⟩
      obtain ⟨p, added⟩ := List.exists_mem_of_ne_nil _ nonempty
      exact List.ne_nil_of_mem (mem_operands_addOperand.mpr (List.mem_append_right _ added))

theorem disjunctionOf_constructed {operands : List Predicate}
    (constructed : ∀ operand ∈ operands, operand.Constructed ops) :
    (disjunctionOf ops operands).Constructed ops := by
  have run : ∀ lists, Building ops lists → Building ops (operands.foldl (addPredicate ops) lists) := by
    induction operands with
    | nil => exact fun lists building => building
    | cons operand operands ih =>
      obtain ⟨first, rest⟩ := List.forall_mem_cons.mp constructed
      exact fun lists building => ih rest _ (building_addPredicate building first)
  exact constructed_iff_building.mpr (run create ⟨nofun, .inl rfl⟩)

end DisjunctionPredicate

section Composed

variable {ops : Operations}

mutual

/-- The constructors establish what `Constructed` says, from operands that they have built. -/
theorem Scalar.Composed.constructed {s : Scalar} : s.Composed ops → s.Constructed ops
  | .literal _ _ => trivial
  | .ofAttribute _ => trivial
  | .unaryExpression operandComposed applies => by
    obtain ⟨applicable, rfl⟩ := scalarUnaryExpression?_eq_some.mp applies
    exact ⟨operandComposed.constructed, applicable⟩
  | .binaryExpression leftComposed rightComposed applies => by
    obtain ⟨applicable, rfl⟩ := scalarBinaryExpression?_eq_some.mp applies
    exact ⟨leftComposed.constructed, rightComposed.constructed, applicable⟩
  | .caseExpression whensComposed resultsComposed elseComposed => by
    unfold Scalar.Constructed
    rw [branchesConstructed_iff]
    exact ⟨fun w r mem => ⟨(whensComposed w r mem).constructed, (resultsComposed w r mem).constructed⟩,
      elseComposed.constructed⟩

theorem Predicate.Composed.constructed {p : Predicate} : p.Composed ops → p.Constructed ops
  | .truePredicate => trivial
  | .falsePredicate => trivial
  | .comparison leftComposed rightComposed applies => by
    obtain ⟨applicable, rfl⟩ := comparisonPredicate?_eq_some.mp applies
    exact ⟨leftComposed.constructed, rightComposed.constructed, applicable⟩
  | .negation operandComposed => operandComposed.constructed
  | .conjunction operandsComposed =>
    ConjunctionPredicate.conjunctionOf_constructed fun p mem => (operandsComposed p mem).constructed
  | .disjunction operandsComposed =>
    DisjunctionPredicate.disjunctionOf_constructed fun p mem => (operandsComposed p mem).constructed

end

end Composed

/-! ## Building sorted operands anew -/

section Rebuild

variable {ops : Operations} {σ : Type} {processing : OperandProcessing σ} {absorbing : Bool}
  {result : σ → Option Bool} {sameKind : Predicate → Option (List Predicate × List Predicate)}

theorem foldl_addOperand_statics (processing : OperandProcessing σ) {statics : List Predicate}
    (kept : ∀ p ∈ statics, sameKind p = none)
    (static : ∀ p ∈ statics, (p.methods ops).staticResult.isSome = true) (lists : OperandLists σ) :
    (statics.foldl (addOperand ops processing sameKind) lists).staticOperandList =
        lists.staticOperandList ++ statics ∧
      (statics.foldl (addOperand ops processing sameKind) lists).dynamicOperandList =
        lists.dynamicOperandList := by
  induction statics generalizing lists with
  | nil => simp
  | cons p statics ih =>
    obtain ⟨keptFirst, keptRest⟩ := List.forall_mem_cons.mp kept
    obtain ⟨staticFirst, staticRest⟩ := List.forall_mem_cons.mp static
    have added := ih keptRest staticRest (addOperand ops processing sameKind lists p)
    have sorted : hasStaticResult ops p = true := staticFirst
    simpa [addOperand, keptFirst, sorted] using added

theorem foldl_addOperand_dynamics (processing : OperandProcessing σ) {dynamics : List Predicate}
    (kept : ∀ p ∈ dynamics, sameKind p = none)
    (dynamic : ∀ p ∈ dynamics, (p.methods ops).staticResult = none) (lists : OperandLists σ) :
    (dynamics.foldl (addOperand ops processing sameKind) lists).staticOperandList =
        lists.staticOperandList ∧
      (dynamics.foldl (addOperand ops processing sameKind) lists).dynamicOperandList =
        lists.dynamicOperandList ++ dynamics := by
  induction dynamics generalizing lists with
  | nil => simp
  | cons p dynamics ih =>
    obtain ⟨keptFirst, keptRest⟩ := List.forall_mem_cons.mp kept
    obtain ⟨dynamicFirst, dynamicRest⟩ := List.forall_mem_cons.mp dynamic
    have added := ih keptRest dynamicRest (addOperand ops processing sameKind lists p)
    have sorted : hasStaticResult ops p = false := by simp [hasStaticResult, dynamicFirst]
    simpa [addOperand, keptFirst, sorted] using added

/-- Lists that are sorted and flat are what `addPredicate` makes of their operands. -/
theorem rebuild {statics dynamics : List Predicate} {create : OperandLists σ}
    (follows : processing.Follows absorbing result) (created : create.Valid ops absorbing result)
    (empty : create.staticOperandList = [] ∧ create.dynamicOperandList = [])
    (kept : ∀ p ∈ statics ++ dynamics, sameKind p = none)
    (static : ∀ p ∈ statics, (p.methods ops).staticResult.isSome = true)
    (dynamic : ∀ p ∈ dynamics, (p.methods ops).staticResult = none) :
    ∃ cached, (statics ++ dynamics).foldl (addOperand ops processing sameKind) create =
        ⟨cached, statics, dynamics⟩ ∧
      OperandLists.Valid ops absorbing result ⟨cached, statics, dynamics⟩ := by
  have flattens : ∀ p ∈ statics ++ dynamics, ∀ statics dynamics,
      sameKind p = some (statics, dynamics) → Flattens ops absorbing p statics dynamics := by
    intro p mem _ _ same
    rw [kept p mem] at same
    cases same
  have valid := (valid_foldl_addOperand follows flattens created).1
  obtain ⟨keptStatics, keptDynamics⟩ := List.forall_mem_append.mp kept
  have afterStatics := foldl_addOperand_statics processing keptStatics static create
  have afterDynamics := foldl_addOperand_dynamics processing keptDynamics dynamic
    (statics.foldl (addOperand ops processing sameKind) create)
  rw [← List.foldl_append] at afterDynamics
  simp only [afterStatics, empty, List.nil_append] at afterDynamics
  generalize (statics ++ dynamics).foldl (addOperand ops processing sameKind) create = lists at *
  obtain ⟨cached, staticOperandList, dynamicOperandList⟩ := lists
  obtain ⟨rfl, rfl⟩ := afterDynamics
  exact ⟨cached, rfl, valid⟩

end Rebuild

/-! ## A clone and its original -/

section Clones

variable (ops : Operations)

/-- `s'` is the clone of `s`, and also of itself. -/
structure Scalar.Clones (s s' : Scalar) : Prop where
  clone : s.clone ops = some s'
  again : s'.clone ops = some s'
  composed : s'.Composed ops
  getProto : s'.getProto = s.getProto
  alike : (s.methods ops).Alike (s'.methods ops)

/-- A clone is an AND or an OR only if its original is. -/
structure Predicate.Clones (p p' : Predicate) : Prop where
  clone : p.clone ops = some p'
  again : p'.clone ops = some p'
  composed : p'.Composed ops
  getProto : p'.getProto = p.getProto
  alike : (p.methods ops).Alike (p'.methods ops)
  notConjunction : ConjunctionPredicate.sameKind p = none → ConjunctionPredicate.sameKind p' = none
  notDisjunction : DisjunctionPredicate.sameKind p = none → DisjunctionPredicate.sameKind p' = none

structure BranchesClone (branches branches' : List Branch) : Prop where
  clone : branchClones ops branches = some branches'
  again : branchClones ops branches' = some branches'
  whensComposed : ∀ whenPredicate resultExpression,
    Branch.mk whenPredicate resultExpression ∈ branches' → whenPredicate.Composed ops
  resultsComposed : ∀ whenPredicate resultExpression,
    Branch.mk whenPredicate resultExpression ∈ branches' → resultExpression.Composed ops
  whenProtos : whenPredicateProtos branches' = whenPredicateProtos branches
  resultProtos : resultExpressionProtos branches' = resultExpressionProtos branches
  alike : List.Forall₂ BranchAlike (branchesMethods ops branches) (branchesMethods ops branches')

structure OperandsClone (operands operands' : List Predicate) : Prop where
  clone : operandClones ops operands = some operands'
  again : operandClones ops operands' = some operands'
  getProto : operandProtos operands' = operandProtos operands
  clones : List.Forall₂ (Predicate.Clones ops) operands operands'

variable {ops}

theorem clones_unaryExpression {operation : UnaryOperation} {operand operand' : Scalar}
    (clones : operand.Clones ops operand')
    (applicable : ops.canApplyToType operation (operand.methods ops).type = true) :
    (Scalar.unaryExpression operation operand).Clones ops (.unaryExpression operation operand') := by
  rw [clones.alike.type] at applicable
  have applies : scalarUnaryExpression? ops operation operand' =
      some (.unaryExpression operation operand') := by simp [applicable]
  refine ⟨?_, ?_, .unaryExpression clones.composed applies, ?_, ?_⟩
  · simp [Scalar.clone, clones.clone, applicable]
  · simp [Scalar.clone, clones.again, applicable]
  · simp [Scalar.getProto, clones.getProto]
  · exact scalarUnaryExpression_alike ops operation clones.alike

theorem clones_binaryExpression {operation : BinaryOperation} {left left' right right' : Scalar}
    (leftClones : left.Clones ops left') (rightClones : right.Clones ops right')
    (applicable : ops.canApplyToTypes operation (left.methods ops).type (right.methods ops).type =
      true) :
    (Scalar.binaryExpression operation left right).Clones ops
      (.binaryExpression operation left' right') := by
  rw [leftClones.alike.type, rightClones.alike.type] at applicable
  have applies : scalarBinaryExpression? ops operation left' right' =
      some (.binaryExpression operation left' right') := by simp [applicable]
  refine ⟨?_, ?_, .binaryExpression leftClones.composed rightClones.composed applies, ?_, ?_⟩
  · simp [Scalar.clone, leftClones.clone, rightClones.clone, applicable]
  · simp [Scalar.clone, leftClones.again, rightClones.again, applicable]
  · simp [Scalar.getProto, leftClones.getProto, rightClones.getProto]
  · exact scalarBinaryExpression_alike ops operation leftClones.alike rightClones.alike

theorem clones_caseExpression {resultType : DataType} {branches branches' : List Branch}
    {elseBranch elseBranch' : Scalar} (branchesClone : BranchesClone ops branches branches')
    (elseClones : elseBranch.Clones ops elseBranch') :
    (Scalar.caseExpression resultType branches elseBranch).Clones ops
      (.caseExpression resultType branches' elseBranch') := by
  refine ⟨?_, ?_, ?_, ?_, ?_⟩
  · simp [Scalar.clone, branchesClone.clone, elseClones.clone]
  · simp [Scalar.clone, branchesClone.again, elseClones.again]
  · exact .caseExpression branchesClone.whensComposed branchesClone.resultsComposed elseClones.composed
  · simp [Scalar.getProto, branchesClone.whenProtos, branchesClone.resultProtos,
      elseClones.getProto]
  · exact scalarCaseExpression_alike resultType branchesClone.alike elseClones.alike

theorem clones_comparison {comparison : ComparisonID} {left left' right right' : Scalar}
    (leftClones : left.Clones ops left') (rightClones : right.Clones ops right')
    (applicable : ops.canCompareTypes comparison (left.methods ops).type (right.methods ops).type =
      true) :
    (Predicate.comparison comparison left right).Clones ops (.comparison comparison left' right') := by
  rw [leftClones.alike.type, rightClones.alike.type] at applicable
  have applies : comparisonPredicate? ops comparison left' right' =
      some (.comparison comparison left' right') := by simp [applicable]
  refine ⟨?_, ?_, .comparison leftClones.composed rightClones.composed applies, ?_, ?_, id, id⟩
  · simp [Predicate.clone, leftClones.clone, rightClones.clone, applicable]
  · simp [Predicate.clone, leftClones.again, rightClones.again, applicable]
  · simp [Predicate.getProto, leftClones.getProto, rightClones.getProto]
  · exact comparisonPredicate_alike ops comparison leftClones.alike rightClones.alike

theorem clones_negation {p p' : Predicate} (clones : p.Clones ops p') :
    (Predicate.negation p).Clones ops (.negation p') := by
  refine ⟨?_, ?_, .negation clones.composed, ?_, ⟨?_, ?_⟩, id, id⟩
  · simp [Predicate.clone, clones.clone]
  · simp [Predicate.clone, clones.again]
  · simp [Predicate.getProto, clones.getProto]
  · show (p.methods ops).staticResult.map not = (p'.methods ops).staticResult.map not
    rw [clones.alike.staticResult]
  · funext read
    rw [negation_matchesFor, negation_matchesFor, clones.alike.matchesFor]

namespace OperandsClone

theorem forall_clones {operands operands' : List Predicate} {holds holds' : Predicate → Prop}
    (clone : OperandsClone ops operands operands')
    (carries : ∀ p p', p.Clones ops p' → holds p → holds' p')
    (all : ∀ p ∈ operands, holds p) : ∀ p' ∈ operands', holds' p' := by
  obtain ⟨-, -, -, clones⟩ := clone
  induction clones with
  | nil => exact nofun
  | cons first _ ih =>
    obtain ⟨here, later⟩ := List.forall_mem_cons.mp all
    exact List.forall_mem_cons.mpr ⟨carries _ _ first here, ih later⟩

theorem statics {operands operands' : List Predicate} (clone : OperandsClone ops operands operands')
    (static : ∀ p ∈ operands, (p.methods ops).staticResult.isSome = true) :
    ∀ p ∈ operands', (p.methods ops).staticResult.isSome = true :=
  clone.forall_clones (fun _ _ clones holds => clones.alike.staticResult ▸ holds) static

theorem dynamics {operands operands' : List Predicate} (clone : OperandsClone ops operands operands')
    (dynamic : ∀ p ∈ operands, (p.methods ops).staticResult = none) :
    ∀ p ∈ operands', (p.methods ops).staticResult = none :=
  clone.forall_clones (fun _ _ clones holds => clones.alike.staticResult ▸ holds) dynamic

theorem composed {operands operands' : List Predicate} (clone : OperandsClone ops operands operands') :
    ∀ p ∈ operands', p.Composed ops :=
  clone.forall_clones (fun _ _ clones (_ : True) => clones.composed) fun _ _ => trivial

variable {statics statics' dynamics dynamics' : List Predicate}

/-- The static results and the matches of the operands of both lists. -/
theorem alike_append (staticsClone : OperandsClone ops statics statics')
    (dynamicsClone : OperandsClone ops dynamics dynamics') :
    List.Forall₂ (OperandAlike ops) (statics ++ dynamics) (statics' ++ dynamics') :=
  (List.rel_append staticsClone.clones dynamicsClone.clones).imp fun _ _ clones => clones.alike

theorem forall_append {holds : Predicate → Prop} (staticsClone : OperandsClone ops statics statics')
    (dynamicsClone : OperandsClone ops dynamics dynamics')
    (carries : ∀ p p', p.Clones ops p' → holds p → holds p')
    (all : ∀ p ∈ statics ++ dynamics, holds p) : ∀ p ∈ statics' ++ dynamics', holds p := by
  obtain ⟨inStatics, inDynamics⟩ := List.forall_mem_append.mp all
  exact List.forall_mem_append.mpr
    ⟨staticsClone.forall_clones carries inStatics, dynamicsClone.forall_clones carries inDynamics⟩

end OperandsClone

theorem clones_conjunction {cached : StaticState} {statics statics' dynamics dynamics' : List Predicate}
    (kept : ∀ p ∈ statics ++ dynamics, ConjunctionPredicate.sameKind p = none)
    (valid : OperandLists.Valid ops false StaticState.result? ⟨cached, statics, dynamics⟩)
    (staticsClone : OperandsClone ops statics statics')
    (dynamicsClone : OperandsClone ops dynamics dynamics') :
    ∃ p', (Predicate.conjunction cached statics dynamics).Clones ops p' := by
  have sameOperands := staticsClone.alike_append dynamicsClone
  obtain ⟨cached', built, rebuilt⟩ := rebuild ConjunctionPredicate.processing_follows
    ConjunctionPredicate.create_valid ⟨rfl, rfl⟩
    (staticsClone.forall_append dynamicsClone (fun _ _ clones => clones.notConjunction) kept)
    (staticsClone.statics valid.statics) (dynamicsClone.dynamics valid.dynamics)
  have flat := ConjunctionPredicate.flattens_toPredicate valid
  have flat' := ConjunctionPredicate.flattens_toPredicate rebuilt
  have addAll : dynamics'.foldl (ConjunctionPredicate.addPredicate ops)
      (statics'.foldl (ConjunctionPredicate.addPredicate ops) ConjunctionPredicate.create) =
        ⟨cached', statics', dynamics'⟩ := by
    rw [← List.foldl_append]
    exact built
  refine ⟨ConjunctionPredicate.toPredicate ⟨cached', statics', dynamics'⟩, ?_, ?_, ?_, ?_, ⟨?_, ?_⟩,
    nofun, id⟩
  · simp [Predicate.clone, staticsClone.clone, dynamicsClone.clone, addAll]
  · simp [ConjunctionPredicate.toPredicate, Predicate.clone, staticsClone.again, dynamicsClone.again,
      addAll]
  · have operandsComposed := List.forall_mem_append.mpr ⟨staticsClone.composed, dynamicsClone.composed⟩
    have whole := Predicate.Composed.conjunction operandsComposed
    unfold conjunctionOf at whole
    rw [List.foldl_append, addAll] at whole
    exact whole
  · simp [ConjunctionPredicate.toPredicate, Predicate.getProto, staticsClone.getProto,
      dynamicsClone.getProto]
  · show ((ConjunctionPredicate.toPredicate ⟨cached, statics, dynamics⟩).methods ops).staticResult = _
    rw [flat.staticResult, flat'.staticResult, staticResults_alike sameOperands]
  · funext read
    show ((ConjunctionPredicate.toPredicate ⟨cached, statics, dynamics⟩).methods ops).matchesFor read = _
    rw [flat.matchesFor, flat'.matchesFor, matchResults_alike sameOperands]

theorem clones_disjunction {cached : StaticState} {statics statics' dynamics dynamics' : List Predicate}
    (kept : ∀ p ∈ statics ++ dynamics, DisjunctionPredicate.sameKind p = none)
    (valid : OperandLists.Valid ops true DisjunctionState.result ⟨⟨cached, false⟩, statics, dynamics⟩)
    (nonempty : statics ++ dynamics ≠ []) (staticsClone : OperandsClone ops statics statics')
    (dynamicsClone : OperandsClone ops dynamics dynamics') :
    ∃ p', (Predicate.disjunction cached false statics dynamics).Clones ops p' := by
  have sameOperands := staticsClone.alike_append dynamicsClone
  have kept' := staticsClone.forall_append dynamicsClone (fun _ _ clones => clones.notDisjunction) kept
  obtain ⟨cached', built, rebuilt⟩ := rebuild DisjunctionPredicate.processing_follows
    DisjunctionPredicate.create_valid ⟨rfl, rfl⟩ kept'
    (staticsClone.statics valid.statics) (dynamicsClone.dynamics valid.dynamics)
  have nonempty' : statics' ++ dynamics' ≠ [] := by
    intro none
    rw [none] at sameOperands
    exact nonempty (List.forall₂_nil_right_iff.mp sameOperands)
  have notFresh : cached'.fresh = false := by
    have lastAdded : addedOperands DisjunctionPredicate.sameKind
        ((statics' ++ dynamics').getLast nonempty') ≠ [] := by
      simp [addedOperands, kept' _ (List.getLast_mem nonempty')]
    have afterLast : ((statics' ++ dynamics').foldl (DisjunctionPredicate.addPredicate ops)
        DisjunctionPredicate.create).cached.fresh = false :=
      DisjunctionPredicate.fresh_foldl_addPredicate nonempty' lastAdded
    unfold DisjunctionPredicate.addPredicate at afterLast
    rw [built] at afterLast
    exact afterLast
  have flat := DisjunctionPredicate.flattens_toPredicate valid rfl
  have flat' := DisjunctionPredicate.flattens_toPredicate rebuilt notFresh
  have addAll : dynamics'.foldl (DisjunctionPredicate.addPredicate ops)
      (statics'.foldl (DisjunctionPredicate.addPredicate ops) DisjunctionPredicate.create) =
        ⟨cached', statics', dynamics'⟩ := by
    rw [← List.foldl_append]
    exact built
  refine ⟨DisjunctionPredicate.toPredicate ⟨cached', statics', dynamics'⟩, ?_, ?_, ?_, ?_, ⟨?_, ?_⟩,
    id, nofun⟩
  · simp [Predicate.clone, staticsClone.clone, dynamicsClone.clone, addAll]
  · simp [DisjunctionPredicate.toPredicate, Predicate.clone, staticsClone.again, dynamicsClone.again,
      addAll]
  · have operandsComposed := List.forall_mem_append.mpr ⟨staticsClone.composed, dynamicsClone.composed⟩
    have whole := Predicate.Composed.disjunction operandsComposed
    unfold disjunctionOf at whole
    rw [List.foldl_append, addAll] at whole
    exact whole
  · simp [DisjunctionPredicate.toPredicate, Predicate.getProto, staticsClone.getProto,
      dynamicsClone.getProto]
  · show ((DisjunctionPredicate.toPredicate ⟨⟨cached, false⟩, statics, dynamics⟩).methods
      ops).staticResult = _
    rw [flat.staticResult, flat'.staticResult, staticResults_alike sameOperands]
  · funext read
    show ((DisjunctionPredicate.toPredicate ⟨⟨cached, false⟩, statics, dynamics⟩).methods
      ops).matchesFor read = _
    rw [flat.matchesFor, flat'.matchesFor, matchResults_alike sameOperands]

/-- An OR without operands is created once more. -/
theorem clones_emptyDisjunction :
    (DisjunctionPredicate.toPredicate DisjunctionPredicate.create).Clones ops
      (DisjunctionPredicate.toPredicate DisjunctionPredicate.create) :=
  ⟨rfl, rfl, @Predicate.Composed.disjunction ops [] nofun, rfl, .refl _, id, nofun⟩

mutual

theorem Scalar.exists_clones : ∀ s : Scalar, s.Constructed ops → ∃ s', s.Clones ops s'
  | .literal value type, _ => ⟨_, rfl, rfl, .literal value type, rfl, .refl _⟩
  | .ofAttribute attr, _ => ⟨_, rfl, rfl, .ofAttribute attr, rfl, .refl _⟩
  | .unaryExpression operation operand, constructed => by
    unfold Scalar.Constructed at constructed
    obtain ⟨operand', clones⟩ := operand.exists_clones constructed.1
    exact ⟨_, clones_unaryExpression clones constructed.2⟩
  | .binaryExpression operation leftOperand rightOperand, constructed => by
    unfold Scalar.Constructed at constructed
    obtain ⟨leftConstructed, rightConstructed, applicable⟩ := constructed
    obtain ⟨left', leftClones⟩ := leftOperand.exists_clones leftConstructed
    obtain ⟨right', rightClones⟩ := rightOperand.exists_clones rightConstructed
    exact ⟨_, clones_binaryExpression leftClones rightClones applicable⟩
  | .caseExpression resultType branches elseResultExpression, constructed => by
    unfold Scalar.Constructed at constructed
    obtain ⟨branches', branchesClone⟩ := branches_exist_clone branches constructed.1
    obtain ⟨elseBranch', elseClones⟩ := elseResultExpression.exists_clones constructed.2
    exact ⟨_, clones_caseExpression branchesClone elseClones⟩

theorem Predicate.exists_clones : ∀ p : Predicate, p.Constructed ops → ∃ p', p.Clones ops p'
  | .truePredicate, _ => ⟨_, rfl, rfl, .truePredicate, rfl, .refl _, id, id⟩
  | .falsePredicate, _ => ⟨_, rfl, rfl, .falsePredicate, rfl, .refl _, id, id⟩
  | .comparison comparison leftOperand rightOperand, constructed => by
    unfold Predicate.Constructed at constructed
    obtain ⟨leftConstructed, rightConstructed, applicable⟩ := constructed
    obtain ⟨left', leftClones⟩ := leftOperand.exists_clones leftConstructed
    obtain ⟨right', rightClones⟩ := rightOperand.exists_clones rightConstructed
    exact ⟨_, clones_comparison leftClones rightClones applicable⟩
  | .negation operand, constructed => by
    unfold Predicate.Constructed at constructed
    obtain ⟨operand', clones⟩ := operand.exists_clones constructed
    exact ⟨_, clones_negation clones⟩
  | .conjunction cached staticOperandList dynamicOperandList, constructed => by
    unfold Predicate.Constructed at constructed
    obtain ⟨staticsConstructed, dynamicsConstructed, kept, valid⟩ := constructed
    obtain ⟨statics', staticsClone⟩ := operands_exist_clone staticOperandList staticsConstructed
    obtain ⟨dynamics', dynamicsClone⟩ := operands_exist_clone dynamicOperandList dynamicsConstructed
    exact clones_conjunction kept valid staticsClone dynamicsClone
  | .disjunction cached fresh staticOperandList dynamicOperandList, constructed => by
    unfold Predicate.Constructed at constructed
    obtain ⟨staticsConstructed, dynamicsConstructed, kept, empty | ⟨valid, notFresh, nonempty⟩⟩ :=
      constructed
    · cases empty
      exact ⟨_, clones_emptyDisjunction⟩
    · subst notFresh
      obtain ⟨statics', staticsClone⟩ := operands_exist_clone staticOperandList staticsConstructed
      obtain ⟨dynamics', dynamicsClone⟩ :=
        operands_exist_clone dynamicOperandList dynamicsConstructed
      exact clones_disjunction kept valid nonempty staticsClone dynamicsClone

theorem branches_exist_clone : ∀ branches : List Branch, branchesConstructed ops branches →
    ∃ branches', BranchesClone ops branches branches'
  | [], _ => ⟨[], rfl, rfl, nofun, nofun, rfl, rfl, .nil⟩
  | .mk whenPredicate resultExpression :: branches, constructed => by
    unfold branchesConstructed at constructed
    obtain ⟨whenConstructed, resultConstructed, laterConstructed⟩ := constructed
    obtain ⟨when', whenClones⟩ := whenPredicate.exists_clones whenConstructed
    obtain ⟨result', resultClones⟩ := resultExpression.exists_clones resultConstructed
    obtain ⟨branches', later⟩ := branches_exist_clone branches laterConstructed
    refine ⟨.mk when' result' :: branches', ?_, ?_, ?_, ?_, ?_, ?_, ?_⟩
    · simp [branchClones, whenClones.clone, resultClones.clone, later.clone]
    · simp [branchClones, whenClones.again, resultClones.again, later.again]
    · intro w r mem
      rcases List.mem_cons.mp mem with same | isLater
      · cases same
        exact whenClones.composed
      · exact later.whensComposed w r isLater
    · intro w r mem
      rcases List.mem_cons.mp mem with same | isLater
      · cases same
        exact resultClones.composed
      · exact later.resultsComposed w r isLater
    · simp [whenPredicateProtos, whenClones.getProto, later.whenProtos]
    · simp [resultExpressionProtos, resultClones.getProto, later.resultProtos]
    · exact .cons ⟨whenClones.alike, resultClones.alike⟩ later.alike

theorem operands_exist_clone : ∀ operands : List Predicate, operandsConstructed ops operands →
    ∃ operands', OperandsClone ops operands operands'
  | [], _ => ⟨[], rfl, rfl, rfl, .nil⟩
  | operand :: operands, constructed => by
    unfold operandsConstructed at constructed
    obtain ⟨operand', clones⟩ := operand.exists_clones constructed.1
    obtain ⟨operands', later⟩ := operands_exist_clone operands constructed.2
    refine ⟨operand' :: operands', ?_, ?_, ?_, .cons clones later.clones⟩
    · simp [operandClones, clones.clone, later.clone]
    · simp [operandClones, clones.again, later.again]
    · simp [operandProtos, clones.getProto, later.getProto]

end

end Clones

/-- **A clone evaluates like its original** and has its message. No constructor throws, what is
built is again such a tree, and its clone is the same tree. -/
theorem clone_evaluates_alike (ops : Operations) :
    (∀ s : Scalar, s.Composed ops → ∃ s', s.clone ops = some s' ∧ s'.Composed ops ∧
      s'.getProto = s.getProto ∧ (s.methods ops).SameValues (s'.methods ops) ∧
      s'.clone ops = some s') ∧
    ∀ p : Predicate, p.Composed ops → ∃ p', p.clone ops = some p' ∧ p'.Composed ops ∧
      p'.getProto = p.getProto ∧ (p.methods ops).SameMatches (p'.methods ops) ∧
      p'.clone ops = some p' := by
  constructor
  · intro s composed
    obtain ⟨s', clones⟩ := s.exists_clones composed.constructed
    exact ⟨s', clones.clone, clones.composed, clones.getProto, clones.alike.sameValues, clones.again⟩
  · intro p composed
    obtain ⟨p', clones⟩ := p.exists_clones composed.constructed
    exact ⟨p', clones.clone, clones.composed, clones.getProto, clones.alike.sameMatches, clones.again⟩

/-- `nullIfOne = 2 OR FALSE OR (NOT a = 1)`. -/
def twoOrNotOne : Predicate :=
  disjunctionOf intOperations
    [.comparison .equal nullIfOne (.literal (.int 2) (.int false)), .falsePredicate,
      disjunctionOf intOperations [.negation isOne]]

theorem twoOrNotOne_composed : twoOrNotOne.Composed intOperations := by
  have attributeComposed : intAttribute.Composed intOperations := .ofAttribute _
  have literalComposed (n : BitVec 32) : (Scalar.literal (.int n) (.int false)).Composed intOperations :=
    .literal _ _
  have equalsOne : isOne.Composed intOperations :=
    .comparison attributeComposed (literalComposed 1) (comparisonPredicate?_eq_some.mpr ⟨rfl, rfl⟩)
  have caseComposed : nullIfOne.Composed intOperations := by
    refine .caseExpression ?_ ?_ attributeComposed
    · intro w r mem
      cases List.mem_singleton.mp mem
      exact equalsOne
    · intro w r mem
      cases List.mem_singleton.mp mem
      exact .literal _ _
  have notOne : (disjunctionOf intOperations [.negation isOne]).Composed intOperations := by
    refine .disjunction fun p mem => ?_
    cases List.mem_singleton.mp mem
    exact .negation equalsOne
  refine .disjunction ?_
  have equalsTwo : (Predicate.comparison .equal nullIfOne (.literal (.int 2) (.int false))).Composed
      intOperations :=
    .comparison caseComposed (literalComposed 2) (comparisonPredicate?_eq_some.mpr ⟨rfl, rfl⟩)
  refine List.forall_mem_cons.mpr ⟨equalsTwo, ?_⟩
  refine List.forall_mem_cons.mpr ⟨.falsePredicate, ?_⟩
  exact List.forall_mem_cons.mpr ⟨notOne, nofun⟩

theorem clone_evaluates_alike_twoOrNotOne :
    ∃ p', twoOrNotOne.clone intOperations = some p' ∧ p'.getProto = twoOrNotOne.getProto ∧
      (p'.methods intOperations).matchesForSingleTuple threeTuples 1 = true := by
  obtain ⟨p', cloned, _, message, same, _⟩ :=
    (clone_evaluates_alike intOperations).2 twoOrNotOne twoOrNotOne_composed
  refine ⟨p', cloned, message, ?_⟩
  rw [← same.singleTuple]
  decide

end Quickstep.Expressions
