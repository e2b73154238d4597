import Quickstep.Expressions.ExpressionFactories

/-!
# Expressions survive their messages

A tree that the constructors have built is encoded as a valid message, and what is decoded from it
evaluates alike. The decoded tree may differ: double negations are gone, and operands that thereby
become operands of their own kind are flattened.
-/

namespace Quickstep.Expressions
open Quickstep.Types Quickstep.Lib

/-- Scalars that evaluate to the same value for every tuple and pair of tuples. -/
structure ScalarMethods.Alike (s s' : ScalarMethods) : Prop where
  type : s.type = s'.type
  staticValue : s.staticValue = s'.staticValue
  attributeId : s.attributeIdForValueAccessor = s'.attributeIdForValueAccessor
  valueFor : s.valueFor = s'.valueFor

/-- Predicates that match the same tuples and pairs of tuples. -/
structure PredicateMethods.Alike (p p' : PredicateMethods) : Prop where
  staticResult : p.staticResult = p'.staticResult
  matchesFor : p.matchesFor = p'.matchesFor

theorem ScalarMethods.Alike.refl (s : ScalarMethods) : s.Alike s := ⟨rfl, rfl, rfl, rfl⟩

theorem PredicateMethods.Alike.refl (p : PredicateMethods) : p.Alike p := ⟨rfl, rfl⟩

/-! ## Nodes over operands that evaluate alike -/

section Nodes

variable (ops : Operations)

theorem scalarUnaryExpression_alike (operation : UnaryOperation) {operand operand' : ScalarMethods}
    (alike : operand.Alike operand') :
    (scalarUnaryExpression ops operation operand).Alike
      (scalarUnaryExpression ops operation operand') := by
  unfold scalarUnaryExpression
  constructor
  · simp only [alike.type]
  · simp only [alike.type, alike.staticValue]
  · rfl
  · simp only [alike.type, alike.staticValue, alike.valueFor]

theorem scalarBinaryExpression_alike (operation : BinaryOperation)
    {left left' right right' : ScalarMethods} (leftAlike : left.Alike left')
    (rightAlike : right.Alike right') :
    (scalarBinaryExpression ops operation left right).Alike
      (scalarBinaryExpression ops operation left' right') := by
  have static : binaryStaticValue ops operation left right =
      binaryStaticValue ops operation left' right' := by
    unfold binaryStaticValue
    rw [leftAlike.staticValue, rightAlike.staticValue, leftAlike.type, rightAlike.type]
  unfold scalarBinaryExpression
  constructor
  · simp only [leftAlike.type, rightAlike.type]
  · exact static
  · rfl
  · simp only [static, leftAlike.type, rightAlike.type, leftAlike.valueFor, rightAlike.valueFor]

theorem comparisonPredicate_alike (comparison : ComparisonID)
    {left left' right right' : ScalarMethods} (leftAlike : left.Alike left')
    (rightAlike : right.Alike right') :
    (comparisonPredicate ops comparison left right).Alike
      (comparisonPredicate ops comparison left' right') := by
  have static : comparisonStaticResult ops comparison left right =
      comparisonStaticResult ops comparison left' right' := by
    unfold comparisonStaticResult
    rw [leftAlike.staticValue, rightAlike.staticValue, leftAlike.type, rightAlike.type]
  unfold comparisonPredicate
  constructor
  · exact static
  · simp only [static, leftAlike.type, rightAlike.type, leftAlike.valueFor, rightAlike.valueFor]

/-- The static result of a negation is the negated result of its operand for every tuple. -/
theorem negation_matchesFor {ops : Operations} (p : Predicate) (read : AttributeReader) :
    ((Predicate.negation p).methods ops).matchesFor read = !(p.methods ops).matchesFor read := by
  show (negationPredicate (p.methods ops)).matchesFor read = _
  unfold negationPredicate
  cases static : (p.methods ops).staticResult with
  | none => rfl
  | some result => simp only [p.matchesFor_static static read]

/-- A double negation that is simplified away changes nothing. -/
theorem negatePredicate_alike {ops : Operations} {p p' : Predicate}
    (alike : (p.methods ops).Alike (p'.methods ops)) :
    ((Predicate.negation p).methods ops).Alike ((negatePredicate p').methods ops) := by
  have negated : ((Predicate.negation p).methods ops).Alike
      ((Predicate.negation p').methods ops) := by
    constructor
    · show (p.methods ops).staticResult.map not = (p'.methods ops).staticResult.map not
      rw [alike.staticResult]
    · funext read
      rw [negation_matchesFor, negation_matchesFor, alike.matchesFor]
  cases p' with
  | negation inner =>
    unfold negatePredicate
    refine ⟨negated.staticResult.trans ?_, negated.matchesFor.trans ?_⟩
    · show ((inner.methods ops).staticResult.map not).map not = _
      rw [Option.map_map]
      show (inner.methods ops).staticResult.map (fun b => !!b) = _
      simp only [Bool.not_not, Option.map_id_fun', id]
    · funext read
      rw [negation_matchesFor, negation_matchesFor, Bool.not_not]
  | truePredicate | falsePredicate | comparison _ _ _ | conjunction _ _ _ | disjunction _ _ _ _ =>
    exact negated

/-- Branches whose predicates and results evaluate alike. -/
def BranchAlike (branch branch' : PredicateMethods × ScalarMethods) : Prop :=
  branch.1.Alike branch'.1 ∧ branch.2.Alike branch'.2

theorem resolveBranches_alike {branches branches' : List (PredicateMethods × ScalarMethods)}
    (alike : List.Forall₂ BranchAlike branches branches') (staticCaseBranch : Bool) :
    Option.Rel ScalarMethods.Alike (resolveBranches branches staticCaseBranch).1
        (resolveBranches branches' staticCaseBranch).1 ∧
      (resolveBranches branches staticCaseBranch).2 =
        (resolveBranches branches' staticCaseBranch).2 := by
  induction alike generalizing staticCaseBranch with
  | nil => exact ⟨.none, rfl⟩
  | @cons branch branch' branches branches' first _ ih =>
    obtain ⟨whenPredicate, result⟩ := branch
    obtain ⟨whenPredicate', result'⟩ := branch'
    have same : whenPredicate.staticResult = whenPredicate'.staticResult := first.1.staticResult
    unfold resolveBranches
    rw [← same]
    cases whenPredicate.staticResult with
    | none => exact ih false
    | some result =>
      cases result with
      | true => exact ⟨.some first.2, rfl⟩
      | false => exact ih staticCaseBranch

theorem fixedBranch_alike {branches branches' : List (PredicateMethods × ScalarMethods)}
    (alike : List.Forall₂ BranchAlike branches branches') {elseBranch elseBranch' : ScalarMethods}
    (elseAlike : elseBranch.Alike elseBranch') :
    Option.Rel ScalarMethods.Alike (fixedBranch branches elseBranch)
      (fixedBranch branches' elseBranch') := by
  obtain ⟨result, static⟩ := resolveBranches_alike alike true
  unfold fixedBranch
  generalize resolveBranches branches true = resolved at result static
  generalize resolveBranches branches' true = resolved' at result static
  obtain ⟨fixed, allStatic⟩ := resolved
  obtain ⟨fixed', allStatic'⟩ := resolved'
  simp only at result static
  subst static
  cases result with
  | some same => exact .some same
  | none =>
    cases allStatic with
    | true => exact .some elseAlike
    | false => exact .none

theorem firstMatch_alike {branches branches' : List (PredicateMethods × ScalarMethods)}
    (alike : List.Forall₂ BranchAlike branches branches') {elseBranch elseBranch' : ScalarMethods}
    (elseAlike : elseBranch.Alike elseBranch') (read : AttributeReader) :
    (firstMatch read branches elseBranch).Alike (firstMatch read branches' elseBranch') := by
  induction alike with
  | nil => exact elseAlike
  | @cons branch branch' branches branches' first _ ih =>
    obtain ⟨whenPredicate, result⟩ := branch
    obtain ⟨whenPredicate', result'⟩ := branch'
    have same : whenPredicate.matchesFor = whenPredicate'.matchesFor := first.1.matchesFor
    unfold firstMatch
    rw [← same]
    cases whenPredicate.matchesFor read with
    | true => exact first.2
    | false => exact ih

theorem scalarCaseExpression_alike (resultType : DataType)
    {branches branches' : List (PredicateMethods × ScalarMethods)}
    (alike : List.Forall₂ BranchAlike branches branches') {elseBranch elseBranch' : ScalarMethods}
    (elseAlike : elseBranch.Alike elseBranch') :
    (scalarCaseExpression resultType branches elseBranch).Alike
      (scalarCaseExpression resultType branches' elseBranch') := by
  have fixedAlike := fixedBranch_alike alike elseAlike
  have matchAlike := firstMatch_alike alike elseAlike
  unfold scalarCaseExpression
  generalize fixedBranch branches elseBranch = fixed at fixedAlike
  generalize fixedBranch branches' elseBranch' = fixed' at fixedAlike
  cases fixedAlike with
  | none =>
    refine ⟨rfl, rfl, rfl, ?_⟩
    funext read
    exact congrFun (matchAlike read).valueFor read
  | some same =>
    refine ⟨rfl, same.staticValue, same.attributeId, ?_⟩
    funext read
    simp only [same.staticValue, same.valueFor]

end Nodes

/-! ## Lists of operands -/

section Lists

variable {ops : Operations} {database : CatalogDatabaseLite}

def OperandAlike (ops : Operations) (p p' : Predicate) : Prop :=
  (p.methods ops).Alike (p'.methods ops)

theorem staticResults_alike {operands operands' : List Predicate}
    (alike : List.Forall₂ (OperandAlike ops) operands operands') :
    staticResults ops operands = staticResults ops operands' := by
  induction alike with
  | nil => rfl
  | cons first _ ih =>
    unfold staticResults at ih ⊢
    rw [List.map_cons, List.map_cons, ih, first.staticResult]

theorem matchResults_alike {operands operands' : List Predicate}
    (alike : List.Forall₂ (OperandAlike ops) operands operands') (read : AttributeReader) :
    matchResults ops read operands = matchResults ops read operands' := by
  induction alike with
  | nil => rfl
  | cons first _ ih =>
    unfold matchResults at ih ⊢
    rw [List.map_cons, List.map_cons, ih, first.matchesFor]

theorem operandsWellFormed_iff (operands : List Predicate) :
    operandsWellFormed ops database operands ↔
      ∀ operand ∈ operands, operand.WellFormed ops database := by
  induction operands with
  | nil => exact iff_of_true trivial nofun
  | cons operand operands ih =>
    unfold operandsWellFormed
    rw [ih, List.forall_mem_cons]

theorem dissolves_disjunction {cached : StaticState} {fresh : Bool} {statics dynamics : List Predicate}
    (nonempty : statics ++ dynamics ≠ []) :
    (Predicate.disjunction cached fresh statics dynamics).dissolves = false := by
  cases statics with
  | cons _ _ => rfl
  | nil =>
    cases dynamics with
    | cons _ _ => rfl
    | nil => exact absurd rfl nonempty

end Lists

namespace ConjunctionPredicate

variable {ops : Operations} {database : CatalogDatabaseLite}

theorem flattens_of_wellFormed {operand : Predicate} (wellFormed : operand.WellFormed ops database)
    (statics dynamics : List Predicate) (same : sameKind operand = some (statics, dynamics)) :
    Flattens ops false operand statics dynamics := by
  cases operand with
  | conjunction cached staticOperandList dynamicOperandList =>
    cases same
    unfold Predicate.WellFormed at wellFormed
    exact flattens_toPredicate wellFormed.2.2
  | truePredicate | falsePredicate | comparison _ _ _ | negation _ | disjunction _ _ _ _ => cases same

theorem addedOperands_wellFormed {operand : Predicate}
    (wellFormed : operand.WellFormed ops database) :
    ∀ p ∈ addedOperands sameKind operand, p.WellFormed ops database := by
  intro p
  cases operand with
  | conjunction cached staticOperandList dynamicOperandList =>
    unfold Predicate.WellFormed at wellFormed
    obtain ⟨statics, dynamics, _⟩ := wellFormed
    intro mem
    rcases List.mem_append.mp mem with isStatic | isDynamic
    · exact (operandsWellFormed_iff _).mp statics p isStatic
    · exact (operandsWellFormed_iff _).mp dynamics p isDynamic
  | truePredicate | falsePredicate | comparison _ _ _ | negation _ | disjunction _ _ _ _ =>
    intro mem
    rw [List.mem_singleton.mp mem]
    exact wellFormed

/-- **A conjunction** built from well-formed operands is well formed, holds when all of them do, and
has their conjunction as its static result. -/
theorem conjunctionOf_spec {operands : List Predicate}
    (wellFormed : ∀ operand ∈ operands, operand.WellFormed ops database) :
    (conjunctionOf ops operands).WellFormed ops database ∧
    ((conjunctionOf ops operands).methods ops).staticResult =
      kleene false (staticResults ops operands) ∧
    ∀ read, ((conjunctionOf ops operands).methods ops).matchesFor read =
      connective false (matchResults ops read operands) := by
  have flattens : ∀ operand ∈ operands, ∀ statics dynamics,
      sameKind operand = some (statics, dynamics) → Flattens ops false operand statics dynamics :=
    fun operand isOperand => flattens_of_wellFormed (wellFormed operand isOperand)
  obtain ⟨valid, static, holds⟩ := valid_foldl_addOperand processing_follows flattens create_valid
  have operandsHold : ∀ p ∈ (operands.foldl (addPredicate ops) create).operands,
      p.WellFormed ops database :=
    forall_operands_foldl
      (fun operand isOperand => addedOperands_wellFormed (wellFormed operand isOperand)) nofun
  have flat := flattens_toPredicate valid
  refine ⟨?_, flat.staticResult.trans static, fun read => (flat.matchesFor read).trans (holds read)⟩
  unfold conjunctionOf toPredicate Predicate.WellFormed
  rw [operandsWellFormed_iff, operandsWellFormed_iff]
  exact ⟨fun p mem => operandsHold p (List.mem_append_left _ mem),
    fun p mem => operandsHold p (List.mem_append_right _ mem), valid⟩

end ConjunctionPredicate

namespace DisjunctionPredicate

variable {ops : Operations} {database : CatalogDatabaseLite}

theorem flattens_of_wellFormed {operand : Predicate} (wellFormed : operand.WellFormed ops database)
    (kept : operand.dissolves = false) (statics dynamics : List Predicate)
    (same : sameKind operand = some (statics, dynamics)) :
    Flattens ops true operand statics dynamics := by
  cases operand with
  | disjunction cached fresh staticOperandList dynamicOperandList =>
    cases same
    unfold Predicate.WellFormed at wellFormed
    rcases wellFormed.2.2 with empty | ⟨valid, notFresh, _⟩
    · cases empty
      exact absurd kept (by decide)
    · exact flattens_toPredicate valid notFresh
  | truePredicate | falsePredicate | comparison _ _ _ | negation _ | conjunction _ _ _ => cases same

theorem addedOperands_wellFormed {operand : Predicate}
    (wellFormed : operand.WellFormed ops database) (kept : operand.dissolves = false) :
    (∀ p ∈ addedOperands sameKind operand, p.WellFormed ops database ∧ p.dissolves = false) ∧
      addedOperands sameKind operand ≠ [] := by
  cases operand with
  | disjunction cached fresh staticOperandList dynamicOperandList =>
    unfold Predicate.WellFormed at wellFormed
    obtain ⟨statics, dynamics, empty | ⟨_, _, nonempty, allKept⟩⟩ := wellFormed
    · cases empty
      exact absurd kept (by decide)
    · refine ⟨?_, nonempty⟩
      intro p mem
      refine ⟨?_, allKept p mem⟩
      rcases List.mem_append.mp mem with isStatic | isDynamic
      · exact (operandsWellFormed_iff _).mp statics p isStatic
      · exact (operandsWellFormed_iff _).mp dynamics p isDynamic
  | truePredicate | falsePredicate | comparison _ _ _ | negation _ | conjunction _ _ _ =>
    refine ⟨?_, List.cons_ne_nil _ _⟩
    intro p mem
    rw [List.mem_singleton.mp mem]
    exact ⟨wellFormed, kept⟩

/-- **A disjunction** built from at least one well-formed operand, none of which dissolves. -/
theorem disjunctionOf_spec {operands : List Predicate}
    (wellFormed : ∀ operand ∈ operands, operand.WellFormed ops database)
    (kept : ∀ operand ∈ operands, operand.dissolves = false) (nonempty : operands ≠ []) :
    (disjunctionOf ops operands).WellFormed ops database ∧
    ((disjunctionOf ops operands).methods ops).staticResult =
      kleene true (staticResults ops operands) ∧
    (∀ read, ((disjunctionOf ops operands).methods ops).matchesFor read =
      connective true (matchResults ops read operands)) ∧
    (disjunctionOf ops operands).dissolves = false := by
  have flattens : ∀ operand ∈ operands, ∀ statics dynamics,
      sameKind operand = some (statics, dynamics) → Flattens ops true operand statics dynamics :=
    fun operand isOperand => flattens_of_wellFormed (wellFormed operand isOperand)
      (kept operand isOperand)
  obtain ⟨valid, static, holds⟩ := valid_foldl_addOperand processing_follows flattens create_valid
  have operandsHold : ∀ p ∈ (operands.foldl (addPredicate ops) create).operands,
      p.WellFormed ops database ∧ p.dissolves = false :=
    forall_operands_foldl
      (fun operand isOperand =>
        (addedOperands_wellFormed (wellFormed operand isOperand) (kept operand isOperand)).1) nofun
  have last := List.getLast_mem nonempty
  have lastAdded := (addedOperands_wellFormed (wellFormed _ last) (kept _ last)).2
  have notFresh : (operands.foldl (addPredicate ops) create).cached.fresh = false :=
    fresh_foldl_addPredicate nonempty lastAdded
  have someOperand : (operands.foldl (addPredicate ops) create).operands ≠ [] := by
    obtain ⟨p, added⟩ := List.exists_mem_of_ne_nil _ lastAdded
    rw [← List.dropLast_append_getLast nonempty]
    exact List.ne_nil_of_mem (mem_operands_foldl added)
  have flat := flattens_toPredicate valid notFresh
  refine ⟨?_, flat.staticResult.trans static,
    fun read => (flat.matchesFor read).trans (holds read), ?_⟩
  · unfold disjunctionOf toPredicate Predicate.WellFormed
    rw [operandsWellFormed_iff, operandsWellFormed_iff]
    exact ⟨fun p mem => (operandsHold p (List.mem_append_left _ mem)).1,
      fun p mem => (operandsHold p (List.mem_append_right _ mem)).1,
      .inr ⟨valid, notFresh, someOperand, fun p mem => (operandsHold p mem).2⟩⟩
  · unfold disjunctionOf toPredicate
    exact dissolves_disjunction someOperand

end DisjunctionPredicate

/-! ## Messages of trees are valid -/

section Validity

variable {ops : Operations} {database : CatalogDatabaseLite}

theorem predicatesAreValid_append (protos protos' : List PredicateProto) :
    predicatesAreValid database (protos ++ protos') =
      (predicatesAreValid database protos && predicatesAreValid database protos') := by
  induction protos with
  | nil => rfl
  | cons proto protos ih =>
    show (proto.isValid database && predicatesAreValid database (protos ++ protos')) =
      ((proto.isValid database && predicatesAreValid database protos) && _)
    rw [ih, Bool.and_assoc]

theorem length_branchProtos (branches : List Branch) :
    (whenPredicateProtos branches).length = (resultExpressionProtos branches).length := by
  induction branches with
  | nil => rfl
  | cons branch branches ih =>
    obtain ⟨whenPredicate, resultExpression⟩ := branch
    show (whenPredicateProtos branches).length + 1 = (resultExpressionProtos branches).length + 1
    rw [ih]

mutual

theorem Scalar.isValid_getProto : ∀ s : Scalar, s.WellFormed ops database →
    s.getProto.isValid database = true
  | .literal value type, _ => by
    unfold Scalar.getProto ScalarProto.isValid
    simp only [Option.any_some, TypedValue.protoIsValid_getProto, TypeFactory.protoIsValid_getProto,
      Bool.and_self]
  | .ofAttribute attr, wellFormed => by
    unfold Scalar.WellFormed at wellFormed
    unfold Scalar.getProto ScalarProto.isValid
    simp only [Option.any_some, wellFormed, Option.isSome_some]
  | .unaryExpression operation operand, wellFormed => by
    unfold Scalar.WellFormed at wellFormed
    unfold Scalar.getProto ScalarProto.isValid optionalScalarIsValid
    simp only [Option.any_some, UnaryOperationFactory.protoIsValid_getProto, Bool.true_and]
    exact operand.isValid_getProto wellFormed.1
  | .binaryExpression operation leftOperand rightOperand, wellFormed => by
    unfold Scalar.WellFormed at wellFormed
    unfold Scalar.getProto ScalarProto.isValid optionalScalarIsValid
    simp only [Option.any_some, BinaryOperationFactory.protoIsValid_getProto, Bool.true_and,
      leftOperand.isValid_getProto wellFormed.1, rightOperand.isValid_getProto wellFormed.2.1]
  | .caseExpression resultType branches elseResultExpression, wellFormed => by
    unfold Scalar.WellFormed at wellFormed
    unfold Scalar.getProto ScalarProto.isValid optionalScalarIsValid
    obtain ⟨whensValid, resultsValid⟩ := branches_isValid branches wellFormed.1
    simp only [Option.any_some, TypeFactory.protoIsValid_getProto, length_branchProtos, beq_self_eq_true,
      whensValid, resultsValid, elseResultExpression.isValid_getProto wellFormed.2, Bool.and_self]

theorem Predicate.isValid_getProto : ∀ p : Predicate, p.WellFormed ops database →
    p.getProto.isValid database = true
  | .truePredicate, _ => rfl
  | .falsePredicate, _ => rfl
  | .comparison comparison leftOperand rightOperand, wellFormed => by
    unfold Predicate.WellFormed at wellFormed
    unfold Predicate.getProto PredicateProto.isValid optionalScalarIsValid
    simp only [Option.any_some, ComparisonFactory.protoIsValid_getProto, Bool.true_and,
      leftOperand.isValid_getProto wellFormed.1, rightOperand.isValid_getProto wellFormed.2.1]
  | .negation operand, wellFormed => by
    unfold Predicate.WellFormed at wellFormed
    unfold Predicate.getProto PredicateProto.isValid optionalPredicateIsValid
    exact operand.isValid_getProto wellFormed
  | .conjunction _ staticOperandList dynamicOperandList, wellFormed => by
    unfold Predicate.WellFormed at wellFormed
    unfold Predicate.getProto PredicateProto.isValid
    rw [predicatesAreValid_append, operands_areValid staticOperandList wellFormed.1,
      operands_areValid dynamicOperandList wellFormed.2.1, Bool.and_self]
  | .disjunction _ _ staticOperandList dynamicOperandList, wellFormed => by
    unfold Predicate.WellFormed at wellFormed
    unfold Predicate.getProto PredicateProto.isValid
    rw [predicatesAreValid_append, operands_areValid staticOperandList wellFormed.1,
      operands_areValid dynamicOperandList wellFormed.2.1, Bool.and_self]

theorem branches_isValid : ∀ branches : List Branch, branchesWellFormed ops database branches →
    predicatesAreValid database (whenPredicateProtos branches) = true ∧
      scalarsAreValid database (resultExpressionProtos branches) = true
  | [], _ => ⟨rfl, rfl⟩
  | .mk whenPredicate resultExpression :: branches, wellFormed => by
    unfold branchesWellFormed at wellFormed
    obtain ⟨whenWellFormed, resultWellFormed, laterWellFormed⟩ := wellFormed
    obtain ⟨whensValid, resultsValid⟩ := branches_isValid branches laterWellFormed
    unfold whenPredicateProtos resultExpressionProtos predicatesAreValid scalarsAreValid
    rw [whensValid, resultsValid, whenPredicate.isValid_getProto whenWellFormed,
      resultExpression.isValid_getProto resultWellFormed]
    exact ⟨rfl, rfl⟩

theorem operands_areValid : ∀ operands : List Predicate, operandsWellFormed ops database operands →
    predicatesAreValid database (operandProtos operands) = true
  | [], _ => rfl
  | operand :: operands, wellFormed => by
    unfold operandsWellFormed at wellFormed
    unfold operandProtos predicatesAreValid
    rw [operand.isValid_getProto wellFormed.1, operands_areValid operands wellFormed.2, Bool.and_self]

end

end Validity

/-! ## Decoding what was encoded -/

section Decoding

variable (ops : Operations) (database : CatalogDatabaseLite)

/-- The message of `s` decodes to `s'`. -/
structure Scalar.Decodes (s s' : Scalar) : Prop where
  reconstruct : s.getProto.reconstruct ops database = some s'
  wellFormed : s'.WellFormed ops database
  alike : (s.methods ops).Alike (s'.methods ops)

/-- The message of `p` decodes to `p'`, which dissolves in a disjunction, or does so once more
negated, only if `p` does. -/
structure Predicate.Decodes (p p' : Predicate) : Prop where
  reconstruct : p.getProto.reconstruct ops database = some p'
  wellFormed : p'.WellFormed ops database
  alike : (p.methods ops).Alike (p'.methods ops)
  dissolves : p'.dissolves = true → p.dissolves = true
  negatedDissolves : (Predicate.negation p').dissolves = true →
    (Predicate.negation p).dissolves = true

/-- The messages of a CASE decode to its branches. -/
structure BranchesDecode (branches : List Branch) (whenPredicates : List Predicate)
    (resultExpressions : List Scalar) : Prop where
  whens : reconstructPredicates ops database (whenPredicateProtos branches) = some whenPredicates
  results : reconstructScalars ops database (resultExpressionProtos branches) =
    some resultExpressions
  wellFormed : branchesWellFormed ops database (whenPredicates.zipWith .mk resultExpressions)
  alike : List.Forall₂ BranchAlike (branchesMethods ops branches)
    (branchesMethods ops (whenPredicates.zipWith .mk resultExpressions))

/-- The messages of operands decode to `operands'`. -/
structure OperandsDecode (operands operands' : List Predicate) : Prop where
  reconstruct : reconstructPredicates ops database (operandProtos operands) = some operands'
  decodes : List.Forall₂ (Predicate.Decodes ops database) operands operands'

end Decoding

section Nodes

variable {ops : Operations} {database : CatalogDatabaseLite}

theorem decodes_unaryExpression {operation : UnaryOperation} {operand operand' : Scalar}
    (decodes : operand.Decodes ops database operand')
    (applicable : ops.canApplyToType operation (operand.methods ops).type = true) :
    (Scalar.unaryExpression operation operand).Decodes ops database
      (.unaryExpression operation operand') := by
  rw [decodes.alike.type] at applicable
  constructor
  · unfold Scalar.getProto ScalarProto.reconstruct reconstructOptionalScalar
    rw [decodes.reconstruct]
    show scalarUnaryExpression? ops (UnaryOperationFactory.reconstructFromProto operation.getProto)
      operand' = _
    rw [UnaryOperationFactory.reconstruct_getProto]
    exact if_pos applicable
  · unfold Scalar.WellFormed
    exact ⟨decodes.wellFormed, applicable⟩
  · exact scalarUnaryExpression_alike ops operation decodes.alike

theorem decodes_binaryExpression {operation : BinaryOperation}
    {left left' right right' : Scalar} (leftDecodes : left.Decodes ops database left')
    (rightDecodes : right.Decodes ops database right')
    (applicable : ops.canApplyToTypes operation (left.methods ops).type (right.methods ops).type =
      true) :
    (Scalar.binaryExpression operation left right).Decodes ops database
      (.binaryExpression operation left' right') := by
  rw [leftDecodes.alike.type, rightDecodes.alike.type] at applicable
  constructor
  · unfold Scalar.getProto ScalarProto.reconstruct reconstructOptionalScalar
    rw [leftDecodes.reconstruct, rightDecodes.reconstruct]
    show scalarBinaryExpression? ops (BinaryOperationFactory.reconstructFromProto operation.getProto)
      left' right' = _
    rw [BinaryOperationFactory.reconstruct_getProto]
    exact if_pos applicable
  · unfold Scalar.WellFormed
    exact ⟨leftDecodes.wellFormed, rightDecodes.wellFormed, applicable⟩
  · exact scalarBinaryExpression_alike ops operation leftDecodes.alike rightDecodes.alike

theorem decodes_caseExpression {resultType : DataType} {branches : List Branch}
    {elseBranch elseBranch' : Scalar} {whenPredicates : List Predicate}
    {resultExpressions : List Scalar}
    (decode : BranchesDecode ops database branches whenPredicates resultExpressions)
    (elseDecodes : elseBranch.Decodes ops database elseBranch') :
    (Scalar.caseExpression resultType branches elseBranch).Decodes ops database
      (.caseExpression resultType (whenPredicates.zipWith .mk resultExpressions) elseBranch') := by
  constructor
  · unfold Scalar.getProto ScalarProto.reconstruct reconstructOptionalScalar
    rw [decode.whens, decode.results, elseDecodes.reconstruct]
    show some (Scalar.caseExpression (TypeFactory.reconstructFromProto resultType.getProto) _ _) = _
    rw [TypeFactory.reconstruct_getProto]
  · unfold Scalar.WellFormed
    exact ⟨decode.wellFormed, elseDecodes.wellFormed⟩
  · exact scalarCaseExpression_alike resultType decode.alike elseDecodes.alike

theorem decodes_comparison {comparison : ComparisonID} {left left' right right' : Scalar}
    (leftDecodes : left.Decodes ops database left') (rightDecodes : right.Decodes ops database right')
    (applicable : ops.canCompareTypes comparison (left.methods ops).type (right.methods ops).type =
      true) :
    (Predicate.comparison comparison left right).Decodes ops database
      (.comparison comparison left' right') := by
  rw [leftDecodes.alike.type, rightDecodes.alike.type] at applicable
  refine ⟨?_, ?_, ?_, nofun, nofun⟩
  · unfold Predicate.getProto PredicateProto.reconstruct reconstructOptionalScalar
    rw [leftDecodes.reconstruct, rightDecodes.reconstruct]
    show comparisonPredicate? ops (ComparisonFactory.reconstructFromProto comparison.getProto) left'
      right' = _
    rw [ComparisonFactory.reconstruct_getProto]
    exact if_pos applicable
  · unfold Predicate.WellFormed
    exact ⟨leftDecodes.wellFormed, rightDecodes.wellFormed, applicable⟩
  · exact comparisonPredicate_alike ops comparison leftDecodes.alike rightDecodes.alike

/-- A negation that meets another one takes its operand. -/
theorem decodes_negation {p p' : Predicate} (decodes : p.Decodes ops database p') :
    (Predicate.negation p).Decodes ops database (negatePredicate p') := by
  have reconstruct : (Predicate.negation p).getProto.reconstruct ops database =
      some (negatePredicate p') := by
    unfold Predicate.getProto PredicateProto.reconstruct reconstructOptionalPredicate
    rw [decodes.reconstruct]
    rfl
  have alike := negatePredicate_alike decodes.alike
  have wellFormed := decodes.wellFormed
  cases p' with
  | negation inner =>
    unfold Predicate.WellFormed at wellFormed
    exact ⟨reconstruct, wellFormed, alike, decodes.negatedDissolves, decodes.dissolves⟩
  | truePredicate | falsePredicate | comparison _ _ _ | conjunction _ _ _ | disjunction _ _ _ _ =>
    refine ⟨reconstruct, ?_, alike, decodes.negatedDissolves, decodes.dissolves⟩
    unfold negatePredicate Predicate.WellFormed
    exact wellFormed

theorem reconstructPredicates_append {protos protos' : List PredicateProto}
    {predicates predicates' : List Predicate}
    (first : reconstructPredicates ops database protos = some predicates)
    (second : reconstructPredicates ops database protos' = some predicates') :
    reconstructPredicates ops database (protos ++ protos') = some (predicates ++ predicates') := by
  induction protos generalizing predicates with
  | nil =>
    cases first
    exact second
  | cons proto protos ih =>
    unfold reconstructPredicates at first
    obtain ⟨predicate, decoded, rest⟩ := Option.bind_eq_some_iff.mp first
    obtain ⟨later, laterDecoded, same⟩ := Option.bind_eq_some_iff.mp rest
    cases same
    show (proto.reconstruct ops database).bind _ = _
    rw [decoded]
    show (reconstructPredicates ops database (protos ++ protos')).bind _ = _
    rw [ih laterDecoded]
    rfl

theorem OperandsDecode.append {operands operands' more more' : List Predicate}
    (first : OperandsDecode ops database operands operands')
    (second : OperandsDecode ops database more more') :
    reconstructPredicates ops database (operandProtos operands ++ operandProtos more) =
        some (operands' ++ more') ∧
      List.Forall₂ (Predicate.Decodes ops database) (operands ++ more) (operands' ++ more') :=
  ⟨reconstructPredicates_append first.reconstruct second.reconstruct,
    List.rel_append first.decodes second.decodes⟩

theorem forall_decoded {holds : Predicate → Prop} {operands operands' : List Predicate}
    (decodes : List.Forall₂ (Predicate.Decodes ops database) operands operands')
    (decoded : ∀ p ∈ operands, ∀ p', p.Decodes ops database p' → holds p') :
    ∀ p' ∈ operands', holds p' := by
  induction decodes with
  | nil => exact nofun
  | cons first _ ih =>
    obtain ⟨here, later⟩ := List.forall_mem_cons.mp decoded
    exact List.forall_mem_cons.mpr ⟨here _ first, ih later⟩

theorem decodes_conjunction {cached : StaticState} {statics statics' dynamics dynamics' : List Predicate}
    (valid : OperandLists.Valid ops false StaticState.result? ⟨cached, statics, dynamics⟩)
    (staticsDecode : OperandsDecode ops database statics statics')
    (dynamicsDecode : OperandsDecode ops database dynamics dynamics') :
    (Predicate.conjunction cached statics dynamics).Decodes ops database
      (conjunctionOf ops (statics' ++ dynamics')) := by
  obtain ⟨reconstruct, decodes⟩ := staticsDecode.append dynamicsDecode
  have alike : List.Forall₂ (OperandAlike ops) _ _ := decodes.imp fun _ _ decode => decode.alike
  have flat := ConjunctionPredicate.flattens_toPredicate valid
  obtain ⟨wellFormed, static, holds⟩ := ConjunctionPredicate.conjunctionOf_spec
    (forall_decoded decodes fun _ _ _ decode => decode.wellFormed)
  refine ⟨?_, wellFormed, ⟨?_, ?_⟩, nofun, nofun⟩
  · unfold Predicate.getProto PredicateProto.reconstruct
    rw [reconstruct]
    rfl
  · show ((ConjunctionPredicate.toPredicate ⟨cached, statics, dynamics⟩).methods ops).staticResult = _
    rw [flat.staticResult, static, staticResults_alike alike]
  · funext read
    show ((ConjunctionPredicate.toPredicate ⟨cached, statics, dynamics⟩).methods ops).matchesFor read = _
    rw [flat.matchesFor, holds, matchResults_alike alike]

theorem decodes_disjunction {cached : StaticState} {statics statics' dynamics dynamics' : List Predicate}
    (valid : OperandLists.Valid ops true DisjunctionState.result ⟨⟨cached, false⟩, statics, dynamics⟩)
    (nonempty : statics ++ dynamics ≠ [])
    (kept : ∀ operand ∈ statics ++ dynamics, operand.dissolves = false)
    (staticsDecode : OperandsDecode ops database statics statics')
    (dynamicsDecode : OperandsDecode ops database dynamics dynamics') :
    (Predicate.disjunction cached false statics dynamics).Decodes ops database
      (disjunctionOf ops (statics' ++ dynamics')) := by
  obtain ⟨reconstruct, decodes⟩ := staticsDecode.append dynamicsDecode
  have alike : List.Forall₂ (OperandAlike ops) _ _ := decodes.imp fun _ _ decode => decode.alike
  have flat := DisjunctionPredicate.flattens_toPredicate valid rfl
  have decodedNonempty : statics' ++ dynamics' ≠ [] := by
    intro none
    rw [none] at decodes
    exact nonempty (List.forall₂_nil_right_iff.mp decodes)
  have decodedKept : ∀ p ∈ statics' ++ dynamics', p.dissolves = false := by
    refine forall_decoded decodes fun p isOperand p' decode => ?_
    by_contra dissolves
    have original := decode.dissolves (Bool.not_eq_false _ ▸ dissolves)
    exact absurd original (Bool.eq_false_iff.mp (kept p isOperand))
  obtain ⟨wellFormed, static, holds, stays⟩ := DisjunctionPredicate.disjunctionOf_spec
    (forall_decoded decodes fun _ _ _ decode => decode.wellFormed) decodedKept decodedNonempty
  refine ⟨?_, wellFormed, ⟨?_, ?_⟩, ?_, nofun⟩
  · unfold Predicate.getProto PredicateProto.reconstruct
    rw [reconstruct]
    rfl
  · show ((DisjunctionPredicate.toPredicate ⟨⟨cached, false⟩, statics, dynamics⟩).methods
      ops).staticResult = _
    rw [flat.staticResult, static, staticResults_alike alike]
  · funext read
    show ((DisjunctionPredicate.toPredicate ⟨⟨cached, false⟩, statics, dynamics⟩).methods
      ops).matchesFor read = _
    rw [flat.matchesFor, holds, matchResults_alike alike]
  · intro dissolves
    exact absurd dissolves (Bool.eq_false_iff.mp stays)

/-- An OR without operands decodes to itself. -/
theorem decodes_emptyDisjunction :
    (DisjunctionPredicate.toPredicate DisjunctionPredicate.create).Decodes ops database
      (disjunctionOf ops []) :=
  ⟨rfl, ⟨trivial, trivial, .inl rfl⟩, .refl _, fun _ => rfl, nofun⟩

mutual

/-- **Round trip of scalars**, one lemma for each class. -/
theorem Scalar.exists_decodes : ∀ s : Scalar, s.WellFormed ops database →
    ∃ s', s.Decodes ops database s'
  | .literal value type, wellFormed => by
    refine ⟨.literal value type, ?_, wellFormed, .refl _⟩
    show some (Scalar.literal (TypedValue.reconstructFromProto value.getProto)
      (TypeFactory.reconstructFromProto type.getProto)) = _
    rw [TypedValue.reconstruct_getProto, TypeFactory.reconstruct_getProto]
  | .ofAttribute attr, wellFormed => by
    refine ⟨.ofAttribute attr, ?_, wellFormed, .refl _⟩
    unfold Scalar.WellFormed at wellFormed
    show (database.getAttributeById attr.relationId attr.id).map Scalar.ofAttribute = _
    rw [wellFormed]
    rfl
  | .unaryExpression operation operand, wellFormed => by
    unfold Scalar.WellFormed at wellFormed
    obtain ⟨operand', decodes⟩ := operand.exists_decodes wellFormed.1
    exact ⟨_, decodes_unaryExpression decodes wellFormed.2⟩
  | .binaryExpression operation leftOperand rightOperand, wellFormed => by
    unfold Scalar.WellFormed at wellFormed
    obtain ⟨leftWellFormed, rightWellFormed, applicable⟩ := wellFormed
    obtain ⟨left', leftDecodes⟩ := leftOperand.exists_decodes leftWellFormed
    obtain ⟨right', rightDecodes⟩ := rightOperand.exists_decodes rightWellFormed
    exact ⟨_, decodes_binaryExpression leftDecodes rightDecodes applicable⟩
  | .caseExpression resultType branches elseResultExpression, wellFormed => by
    unfold Scalar.WellFormed at wellFormed
    obtain ⟨whenPredicates, resultExpressions, decode⟩ := branches_exist_decode branches wellFormed.1
    obtain ⟨elseBranch', elseDecodes⟩ := elseResultExpression.exists_decodes wellFormed.2
    exact ⟨_, decodes_caseExpression decode elseDecodes⟩

/-- **Round trip of predicates.** -/
theorem Predicate.exists_decodes : ∀ p : Predicate, p.WellFormed ops database →
    ∃ p', p.Decodes ops database p'
  | .truePredicate, wellFormed => ⟨.truePredicate, rfl, wellFormed, .refl _, id, id⟩
  | .falsePredicate, wellFormed => ⟨.falsePredicate, rfl, wellFormed, .refl _, id, id⟩
  | .comparison comparison leftOperand rightOperand, wellFormed => by
    unfold Predicate.WellFormed at wellFormed
    obtain ⟨leftWellFormed, rightWellFormed, applicable⟩ := wellFormed
    obtain ⟨left', leftDecodes⟩ := leftOperand.exists_decodes leftWellFormed
    obtain ⟨right', rightDecodes⟩ := rightOperand.exists_decodes rightWellFormed
    exact ⟨_, decodes_comparison leftDecodes rightDecodes applicable⟩
  | .negation operand, wellFormed => by
    unfold Predicate.WellFormed at wellFormed
    obtain ⟨operand', decodes⟩ := operand.exists_decodes wellFormed
    exact ⟨_, decodes_negation decodes⟩
  | .conjunction cached staticOperandList dynamicOperandList, wellFormed => by
    unfold Predicate.WellFormed at wellFormed
    obtain ⟨staticsWellFormed, dynamicsWellFormed, valid⟩ := wellFormed
    obtain ⟨statics', staticsDecode⟩ := operands_exist_decode staticOperandList staticsWellFormed
    obtain ⟨dynamics', dynamicsDecode⟩ := operands_exist_decode dynamicOperandList dynamicsWellFormed
    exact ⟨_, decodes_conjunction valid staticsDecode dynamicsDecode⟩
  | .disjunction cached fresh staticOperandList dynamicOperandList, wellFormed => by
    unfold Predicate.WellFormed at wellFormed
    obtain ⟨staticsWellFormed, dynamicsWellFormed, empty | ⟨valid, notFresh, nonempty, kept⟩⟩ :=
      wellFormed
    · cases empty
      exact ⟨_, decodes_emptyDisjunction⟩
    · subst notFresh
      obtain ⟨statics', staticsDecode⟩ := operands_exist_decode staticOperandList staticsWellFormed
      obtain ⟨dynamics', dynamicsDecode⟩ := operands_exist_decode dynamicOperandList dynamicsWellFormed
      exact ⟨_, decodes_disjunction valid nonempty kept staticsDecode dynamicsDecode⟩

theorem branches_exist_decode : ∀ branches : List Branch, branchesWellFormed ops database branches →
    ∃ whenPredicates resultExpressions,
      BranchesDecode ops database branches whenPredicates resultExpressions
  | [], _ => ⟨[], [], rfl, rfl, trivial, .nil⟩
  | .mk whenPredicate resultExpression :: branches, wellFormed => by
    unfold branchesWellFormed at wellFormed
    obtain ⟨whenWellFormed, resultWellFormed, laterWellFormed⟩ := wellFormed
    obtain ⟨when', whenDecodes⟩ := whenPredicate.exists_decodes whenWellFormed
    obtain ⟨result', resultDecodes⟩ := resultExpression.exists_decodes resultWellFormed
    obtain ⟨whens, results, later⟩ := branches_exist_decode branches laterWellFormed
    refine ⟨when' :: whens, result' :: results, ?_, ?_, ?_, ?_⟩
    · unfold whenPredicateProtos reconstructPredicates
      rw [whenDecodes.reconstruct, later.whens]
      rfl
    · unfold resultExpressionProtos reconstructScalars
      rw [resultDecodes.reconstruct, later.results]
      rfl
    · exact ⟨whenDecodes.wellFormed, resultDecodes.wellFormed, later.wellFormed⟩
    · exact .cons ⟨whenDecodes.alike, resultDecodes.alike⟩ later.alike

theorem operands_exist_decode : ∀ operands : List Predicate, operandsWellFormed ops database operands →
    ∃ operands', OperandsDecode ops database operands operands'
  | [], _ => ⟨[], rfl, .nil⟩
  | operand :: operands, wellFormed => by
    unfold operandsWellFormed at wellFormed
    obtain ⟨operand', decodes⟩ := operand.exists_decodes wellFormed.1
    obtain ⟨operands', later⟩ := operands_exist_decode operands wellFormed.2
    refine ⟨operand' :: operands', ?_, .cons decodes later.decodes⟩
    unfold operandProtos reconstructPredicates
    rw [decodes.reconstruct, later.reconstruct]
    rfl

end

end Nodes

/-! ## The decoded tree evaluates alike -/

/-- One value for every tuple and every pair of tuples. -/
structure ScalarMethods.SameValues (s s' : ScalarMethods) : Prop where
  type : s.type = s'.type
  singleTuple : ∀ {n : Nat} (accessor : ValueAccessor n) (tuple : Fin n),
    s.getValueForSingleTuple accessor tuple = s'.getValueForSingleTuple accessor tuple
  joinedTuples : ∀ {n m : Nat} (leftAccessor : ValueAccessor n) (leftRelationId : Nat)
    (leftTupleId : Fin n) (rightAccessor : ValueAccessor m) (rightTupleId : Fin m),
    s.getValueForJoinedTuples leftAccessor leftRelationId leftTupleId rightAccessor rightTupleId =
      s'.getValueForJoinedTuples leftAccessor leftRelationId leftTupleId rightAccessor rightTupleId

/-- One match result for every tuple and every pair of tuples. -/
structure PredicateMethods.SameMatches (p p' : PredicateMethods) : Prop where
  singleTuple : ∀ {n : Nat} (accessor : ValueAccessor n) (tuple : Fin n),
    p.matchesForSingleTuple accessor tuple = p'.matchesForSingleTuple accessor tuple
  joinedTuples : ∀ {n m : Nat} (leftAccessor : ValueAccessor n) (leftRelationId : Nat)
    (leftTupleId : Fin n) (rightAccessor : ValueAccessor m) (rightTupleId : Fin m),
    p.matchesForJoinedTuples leftAccessor leftRelationId leftTupleId rightAccessor rightTupleId =
      p'.matchesForJoinedTuples leftAccessor leftRelationId leftTupleId rightAccessor rightTupleId

theorem ScalarMethods.Alike.sameValues {s s' : ScalarMethods} (alike : s.Alike s') :
    s.SameValues s' where
  type := alike.type
  singleTuple accessor tuple := congrFun alike.valueFor (readSingleTuple accessor tuple)
  joinedTuples leftAccessor leftRelationId leftTupleId rightAccessor rightTupleId :=
    congrFun alike.valueFor
      (readJoinedTuples leftAccessor leftRelationId leftTupleId rightAccessor rightTupleId)

theorem PredicateMethods.Alike.sameMatches {p p' : PredicateMethods} (alike : p.Alike p') :
    p.SameMatches p' where
  singleTuple accessor tuple := congrFun alike.matchesFor (readSingleTuple accessor tuple)
  joinedTuples leftAccessor leftRelationId leftTupleId rightAccessor rightTupleId :=
    congrFun alike.matchesFor
      (readJoinedTuples leftAccessor leftRelationId leftTupleId rightAccessor rightTupleId)

/-- **Expressions survive their messages**: the message is valid, and what it decodes to evaluates
to the same values and matches. -/
theorem reconstruct_evaluates_alike (ops : Operations) (database : CatalogDatabaseLite) :
    (∀ s : Scalar, s.WellFormed ops database → s.getProto.isValid database = true ∧
      ∃ s', s.getProto.reconstruct ops database = some s' ∧
        (s.methods ops).SameValues (s'.methods ops)) ∧
    ∀ p : Predicate, p.WellFormed ops database → p.getProto.isValid database = true ∧
      ∃ p', p.getProto.reconstruct ops database = some p' ∧
        (p.methods ops).SameMatches (p'.methods ops) := by
  constructor
  · intro s wellFormed
    obtain ⟨s', decodes⟩ := s.exists_decodes wellFormed
    exact ⟨s.isValid_getProto wellFormed, s', decodes.reconstruct, decodes.alike.sameValues⟩
  · intro p wellFormed
    obtain ⟨p', decodes⟩ := p.exists_decodes wellFormed
    exact ⟨p.isValid_getProto wellFormed, p', decodes.reconstruct, decodes.alike.sameMatches⟩

/-- A database whose one relation has one attribute. -/
def oneRelation : CatalogDatabaseLite where
  relationSchemas relationId :=
    if relationId = 0 then some fun attributeId =>
      if attributeId = 0 then some ⟨0, 0, .int true⟩ else none
    else none

/-- `CASE WHEN a = 1 THEN NULL ELSE a END`. -/
def nullIfOne : Scalar :=
  .caseExpression (.int true) [.mk isOne (.literal (.null .int) (.int true))] intAttribute

/-- `NOT NOT (NOT a = 1 AND TRUE) AND nullIfOne = 2`. -/
def doublyNegated : Predicate :=
  conjunctionOf intOperations
    [.negation (.negation (conjunctionOf intOperations [.negation isOne, .truePredicate])),
      .comparison .equal nullIfOne (.literal (.int 2) (.int false))]

theorem doublyNegated_wellFormed : doublyNegated.WellFormed intOperations oneRelation := by
  have equalsOne : isOne.WellFormed intOperations oneRelation := ⟨rfl, trivial, rfl⟩
  have inner : (conjunctionOf intOperations [.negation isOne, .truePredicate]).WellFormed
      intOperations oneRelation := by
    refine (ConjunctionPredicate.conjunctionOf_spec ?_).1
    exact List.forall_mem_cons.mpr ⟨equalsOne, List.forall_mem_cons.mpr ⟨trivial, nofun⟩⟩
  refine (ConjunctionPredicate.conjunctionOf_spec ?_).1
  refine List.forall_mem_cons.mpr ⟨inner, List.forall_mem_cons.mpr ⟨?_, nofun⟩⟩
  exact ⟨⟨⟨equalsOne, trivial, trivial⟩, rfl⟩, trivial, rfl⟩

theorem reconstruct_evaluates_alike_doublyNegated :
    ∃ p', doublyNegated.getProto.reconstruct intOperations oneRelation = some p' ∧
      (p'.methods intOperations).matchesForSingleTuple threeTuples 1 = true := by
  obtain ⟨_, p', decoded, same⟩ :=
    (reconstruct_evaluates_alike intOperations oneRelation).2 doublyNegated doublyNegated_wellFormed
  refine ⟨p', decoded, ?_⟩
  rw [← same.singleTuple]
  decide

/-- `FALSE OR NOT NOT d` for a disjunction `d` without operands, which is true. -/
def lostDisjunction : Predicate :=
  disjunctionOf intOperations
    [.falsePredicate, .negation (.negation (disjunctionOf intOperations []))]

/-- The double negation is simplified away, and `d` is flattened away. -/
theorem not_reconstruct_evaluates_alike :
    lostDisjunction.getProto.isValid oneRelation = true ∧
    (lostDisjunction.methods intOperations).matchesForSingleTuple threeTuples 0 = true ∧
    ∃ p', lostDisjunction.getProto.reconstruct intOperations oneRelation = some p' ∧
      (p'.methods intOperations).matchesForSingleTuple threeTuples 0 = false :=
  ⟨rfl, rfl, _, rfl, rfl⟩

end Quickstep.Expressions
