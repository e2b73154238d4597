import Quickstep.Expressions.PredicateWithList
import Quickstep.Types.Serialization

/-!
# Messages for expressions

The messages of `Expressions.proto`, with `getProto` of every class and the two factories of
`ExpressionFactories.cpp`. A message holds the extensions of its own kind; those of other kinds are
never read.
-/

namespace Quickstep.Expressions
open Quickstep.Types

/-- The attributes of the relations, by relation id and attribute id. -/
structure CatalogDatabaseLite where
  relationSchemas : Nat → Option (Nat → Option CatalogAttribute)

def CatalogDatabaseLite.getAttributeById (database : CatalogDatabaseLite)
    (relationId attributeId : Nat) : Option CatalogAttribute :=
  (database.relationSchemas relationId).bind fun schema => schema attributeId

mutual

/-- `unset` is a message without a data source. -/
inductive ScalarProto where
  | unset
  | literal (literal : Option TypedValueProto) (literalType : Option TypeProto)
  | ofAttribute (relationId attributeId : Option Nat)
  | unaryExpression (operation : Option UnaryOperationProto) (operand : Option ScalarProto)
  | binaryExpression (operation : Option BinaryOperationProto)
      (leftOperand rightOperand : Option ScalarProto)
  | caseExpression (resultType : Option TypeProto) (whenPredicate : List PredicateProto)
      (resultExpression : List ScalarProto) (elseResultExpression : Option ScalarProto)

/-- `unset` is a message without a predicate type. -/
inductive PredicateProto where
  | unset
  | truePredicate
  | falsePredicate
  | comparison (comparison : Option ComparisonProto) (leftOperand rightOperand : Option ScalarProto)
  | negation (operand : Option PredicateProto)
  | conjunction (operands : List PredicateProto)
  | disjunction (operands : List PredicateProto)

end

/-! ## Encoding -/

mutual

def Scalar.getProto : Scalar → ScalarProto
  | .literal value type => .literal (some value.getProto) (some type.getProto)
  | .ofAttribute attr => .ofAttribute (some attr.relationId) (some attr.id)
  | .unaryExpression operation operand =>
    .unaryExpression (some operation.getProto) (some operand.getProto)
  | .binaryExpression operation leftOperand rightOperand =>
    .binaryExpression (some operation.getProto) (some leftOperand.getProto)
      (some rightOperand.getProto)
  | .caseExpression resultType branches elseResultExpression =>
    .caseExpression (some resultType.getProto) (whenPredicateProtos branches)
      (resultExpressionProtos branches) (some elseResultExpression.getProto)

def Predicate.getProto : Predicate → PredicateProto
  | .truePredicate => .truePredicate
  | .falsePredicate => .falsePredicate
  | .comparison comparison leftOperand rightOperand =>
    .comparison (some comparison.getProto) (some leftOperand.getProto) (some rightOperand.getProto)
  | .negation operand => .negation (some operand.getProto)
  | .conjunction _ staticOperandList dynamicOperandList =>
    .conjunction (operandProtos staticOperandList ++ operandProtos dynamicOperandList)
  | .disjunction _ _ staticOperandList dynamicOperandList =>
    .disjunction (operandProtos staticOperandList ++ operandProtos dynamicOperandList)

def whenPredicateProtos : List Branch → List PredicateProto
  | [] => []
  | .mk whenPredicate _ :: branches => whenPredicate.getProto :: whenPredicateProtos branches

def resultExpressionProtos : List Branch → List ScalarProto
  | [] => []
  | .mk _ resultExpression :: branches =>
    resultExpression.getProto :: resultExpressionProtos branches

def operandProtos : List Predicate → List PredicateProto
  | [] => []
  | operand :: operands => operand.getProto :: operandProtos operands

end

/-! ## Validation -/

section Validation

variable (database : CatalogDatabaseLite)

mutual

/-- `ScalarFactory::ProtoIsValid`. That nested messages are initialized is part of their checks. -/
def ScalarProto.isValid : ScalarProto → Bool
  | .unset => false
  | .literal literal literalType =>
    literal.any TypedValue.protoIsValid && literalType.any TypeFactory.protoIsValid
  | .ofAttribute relationId attributeId =>
    relationId.any fun relationId =>
      attributeId.any fun attributeId => (database.getAttributeById relationId attributeId).isSome
  | .unaryExpression operation operand =>
    operation.any UnaryOperationFactory.protoIsValid && optionalScalarIsValid operand
  | .binaryExpression operation leftOperand rightOperand =>
    operation.any BinaryOperationFactory.protoIsValid && optionalScalarIsValid leftOperand &&
      optionalScalarIsValid rightOperand
  | .caseExpression resultType whenPredicate resultExpression elseResultExpression =>
    resultType.any TypeFactory.protoIsValid &&
      whenPredicate.length == resultExpression.length && predicatesAreValid whenPredicate &&
      scalarsAreValid resultExpression && optionalScalarIsValid elseResultExpression

/-- `PredicateFactory::ProtoIsValid`. -/
def PredicateProto.isValid : PredicateProto → Bool
  | .unset => false
  | .truePredicate | .falsePredicate => true
  | .comparison comparison leftOperand rightOperand =>
    comparison.any ComparisonFactory.protoIsValid && optionalScalarIsValid leftOperand &&
      optionalScalarIsValid rightOperand
  | .negation operand => optionalPredicateIsValid operand
  | .conjunction operands | .disjunction operands => predicatesAreValid operands

def optionalScalarIsValid : Option ScalarProto → Bool
  | none => false
  | some proto => proto.isValid

def optionalPredicateIsValid : Option PredicateProto → Bool
  | none => false
  | some proto => proto.isValid

def scalarsAreValid : List ScalarProto → Bool
  | [] => true
  | proto :: protos => proto.isValid && scalarsAreValid protos

def predicatesAreValid : List PredicateProto → Bool
  | [] => true
  | proto :: protos => proto.isValid && predicatesAreValid protos

end

end Validation

/-! ## Decoding -/

section Decoding

variable (ops : Operations) (database : CatalogDatabaseLite)

/-- The constructors throw where an operation is inapplicable. -/
def scalarUnaryExpression? (operation : UnaryOperation) (operand : Scalar) : Option Scalar :=
  if ops.canApplyToType operation (operand.methods ops).type then
    some (.unaryExpression operation operand)
  else none

def scalarBinaryExpression? (operation : BinaryOperation) (leftOperand rightOperand : Scalar) :
    Option Scalar :=
  if ops.canApplyToTypes operation (leftOperand.methods ops).type (rightOperand.methods ops).type then
    some (.binaryExpression operation leftOperand rightOperand)
  else none

def comparisonPredicate? (comparison : ComparisonID) (leftOperand rightOperand : Scalar) :
    Option Predicate :=
  if ops.canCompareTypes comparison (leftOperand.methods ops).type (rightOperand.methods ops).type then
    some (.comparison comparison leftOperand rightOperand)
  else none

/-- `NegationPredicate::NegatePredicate` simplifies double negations away. -/
def negatePredicate : Predicate → Predicate
  | .negation operand => operand
  | operand => .negation operand

def conjunctionOf (operands : List Predicate) : Predicate :=
  ConjunctionPredicate.toPredicate
    (operands.foldl (ConjunctionPredicate.addPredicate ops) ConjunctionPredicate.create)

def disjunctionOf (operands : List Predicate) : Predicate :=
  DisjunctionPredicate.toPredicate
    (operands.foldl (DisjunctionPredicate.addPredicate ops) DisjunctionPredicate.create)

mutual

/-- `ScalarFactory::ReconstructFromProto`, of valid messages. -/
def ScalarProto.reconstruct : ScalarProto → Option Scalar
  | .unset => none
  | .literal literal literalType =>
    some (.literal (TypedValue.reconstructFromProto (literal.getD {}))
      (TypeFactory.reconstructFromProto (literalType.getD {})))
  | .ofAttribute relationId attributeId =>
    (database.getAttributeById (relationId.getD 0) (attributeId.getD 0)).map .ofAttribute
  | .unaryExpression operation operand => do
    let operand ← reconstructOptionalScalar operand
    scalarUnaryExpression? ops (UnaryOperationFactory.reconstructFromProto (operation.getD {})) operand
  | .binaryExpression operation leftOperand rightOperand => do
    let leftOperand ← reconstructOptionalScalar leftOperand
    let rightOperand ← reconstructOptionalScalar rightOperand
    scalarBinaryExpression? ops (BinaryOperationFactory.reconstructFromProto (operation.getD {}))
      leftOperand rightOperand
  | .caseExpression resultType whenPredicate resultExpression elseResultExpression => do
    let whenPredicates ← reconstructPredicates whenPredicate
    let resultExpressions ← reconstructScalars resultExpression
    let elseResultExpression ← reconstructOptionalScalar elseResultExpression
    some (.caseExpression (TypeFactory.reconstructFromProto (resultType.getD {}))
      (whenPredicates.zipWith .mk resultExpressions) elseResultExpression)

/-- `PredicateFactory::ReconstructFromProto`, of valid messages. -/
def PredicateProto.reconstruct : PredicateProto → Option Predicate
  | .unset => none
  | .truePredicate => some .truePredicate
  | .falsePredicate => some .falsePredicate
  | .comparison comparison leftOperand rightOperand => do
    let leftOperand ← reconstructOptionalScalar leftOperand
    let rightOperand ← reconstructOptionalScalar rightOperand
    comparisonPredicate? ops (ComparisonFactory.reconstructFromProto (comparison.getD {})) leftOperand
      rightOperand
  | .negation operand => do
    let operand ← reconstructOptionalPredicate operand
    some (negatePredicate operand)
  | .conjunction operands => do
    let operands ← reconstructPredicates operands
    some (conjunctionOf ops operands)
  | .disjunction operands => do
    let operands ← reconstructPredicates operands
    some (disjunctionOf ops operands)

def reconstructOptionalScalar : Option ScalarProto → Option Scalar
  | none => none
  | some proto => proto.reconstruct

def reconstructOptionalPredicate : Option PredicateProto → Option Predicate
  | none => none
  | some proto => proto.reconstruct

def reconstructScalars : List ScalarProto → Option (List Scalar)
  | [] => some []
  | proto :: protos => do
    let scalar ← proto.reconstruct
    let scalars ← reconstructScalars protos
    some (scalar :: scalars)

def reconstructPredicates : List PredicateProto → Option (List Predicate)
  | [] => some []
  | proto :: protos => do
    let predicate ← proto.reconstruct
    let predicates ← reconstructPredicates protos
    some (predicate :: predicates)

end

end Decoding

/-! ## Well-formed trees -/

/-- An OR without operands under an even number of negations. Decoded, it is that OR, and as an
operand of an OR it is flattened away, although it is true. -/
def Predicate.dissolves : Predicate → Bool
  | .disjunction _ _ [] [] => true
  | .negation (.negation operand) => operand.dissolves
  | _ => false

section WellFormed

variable (ops : Operations) (database : CatalogDatabaseLite)

mutual

/-- The trees that the constructors build over the attributes of a database. -/
def Scalar.WellFormed : Scalar → Prop
  | .literal _ _ => True
  | .ofAttribute attr => database.getAttributeById attr.relationId attr.id = some attr
  | .unaryExpression operation operand =>
    operand.WellFormed ∧ ops.canApplyToType operation (operand.methods ops).type = true
  | .binaryExpression operation leftOperand rightOperand =>
    leftOperand.WellFormed ∧ rightOperand.WellFormed ∧
      ops.canApplyToTypes operation (leftOperand.methods ops).type (rightOperand.methods ops).type =
        true
  | .caseExpression _ branches elseResultExpression =>
    branchesWellFormed branches ∧ elseResultExpression.WellFormed

/-- The lists of AND and OR are those that `addPredicate` leaves, or that the constructor of OR
leaves empty. -/
def Predicate.WellFormed : Predicate → Prop
  | .truePredicate | .falsePredicate => True
  | .comparison comparison leftOperand rightOperand =>
    leftOperand.WellFormed ∧ rightOperand.WellFormed ∧
      ops.canCompareTypes comparison (leftOperand.methods ops).type (rightOperand.methods ops).type =
        true
  | .negation operand => operand.WellFormed
  | .conjunction cached staticOperandList dynamicOperandList =>
    operandsWellFormed staticOperandList ∧ operandsWellFormed dynamicOperandList ∧
      OperandLists.Valid ops false StaticState.result?
        ⟨cached, staticOperandList, dynamicOperandList⟩
  | .disjunction cached fresh staticOperandList dynamicOperandList =>
    operandsWellFormed staticOperandList ∧ operandsWellFormed dynamicOperandList ∧
      (⟨⟨cached, fresh⟩, staticOperandList, dynamicOperandList⟩ = DisjunctionPredicate.create ∨
        OperandLists.Valid ops true DisjunctionState.result
          ⟨⟨cached, fresh⟩, staticOperandList, dynamicOperandList⟩ ∧
        fresh = false ∧ staticOperandList ++ dynamicOperandList ≠ [] ∧
        ∀ operand ∈ staticOperandList ++ dynamicOperandList, operand.dissolves = false)

def branchesWellFormed : List Branch → Prop
  | [] => True
  | .mk whenPredicate resultExpression :: branches =>
    whenPredicate.WellFormed ∧ resultExpression.WellFormed ∧ branchesWellFormed branches

def operandsWellFormed : List Predicate → Prop
  | [] => True
  | operand :: operands => operand.WellFormed ∧ operandsWellFormed operands

end

end WellFormed

end Quickstep.Expressions
