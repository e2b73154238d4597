import Quickstep.Expressions.ExpressionFactories
import Quickstep.Expressions.TupleEvaluation
import Quickstep.Expressions.VectorisedExactness
import Quickstep.Types.OperationTyping

/-!
# Types of scalar trees

The value of a tree is compared with its type, by recursion through the tree. Of all nodes only the
modulo of an INT and a FLOAT returns a value of another type than it announces, and a parent that
computes a value of its own hides that again. Undefined arithmetic returns no value at all.
-/

namespace Quickstep.Expressions
open Quickstep.Types

section Trees

variable (platform : Platform) (comparisons : Operations)

mutual

/-- What callers promise the constructors: a literal belongs to its type and the type of a CASE
subsumes those of its results. The constructor of a unary expression ends the program where an
operand that is not static has no operator. -/
def Scalar.Promised : Scalar → Prop
  | .literal value type => type.Admits value
  | .ofAttribute _ => True
  | .unaryExpression operation operand =>
    operand.Promised ∧
      let methods := operand.methods (operations platform comparisons)
      (methods.staticValue = none →
        (operation.makeUncheckedUnaryOperatorForType platform methods.type).isSome = true)
  | .binaryExpression _ leftOperand rightOperand => leftOperand.Promised ∧ rightOperand.Promised
  | .caseExpression resultType branches elseResultExpression =>
    branchesPromised resultType branches ∧ elseResultExpression.Promised ∧
      (elseResultExpression.methods (operations platform comparisons)).type.isSubsumedBy
        resultType = true

def branchesPromised (resultType : DataType) : List Branch → Prop
  | [] => True
  | .mk _ resultExpression :: branches =>
    (resultExpression.Promised ∧
      (resultExpression.methods (operations platform comparisons)).type.isSubsumedBy resultType =
        true) ∧ branchesPromised resultType branches

end

end Trees

section Tuples

variable (ops : Operations) (read : AttributeReader)

mutual

/-- The attributes that the value is computed from have their declared types. -/
def Scalar.AttributesTyped : Scalar → Prop
  | .literal _ _ => True
  | .ofAttribute attr => attr.type.Admits (read attr)
  | .unaryExpression _ operand => operand.AttributesTyped
  | .binaryExpression _ leftOperand rightOperand =>
    leftOperand.AttributesTyped ∧ rightOperand.AttributesTyped
  | .caseExpression _ branches elseResultExpression =>
    branchesAttributesTyped branches ∧ elseResultExpression.AttributesTyped

def branchesAttributesTyped : List Branch → Prop
  | [] => True
  | .mk _ resultExpression :: branches =>
    resultExpression.AttributesTyped ∧ branchesAttributesTyped branches

end

mutual

/-- Whether a NULL literal or attribute reaches the value. -/
def Scalar.isNull : Scalar → Bool
  | .literal value _ => value.isNull
  | .ofAttribute attr => (read attr).isNull
  | .unaryExpression _ operand => operand.isNull
  | .binaryExpression _ leftOperand rightOperand => leftOperand.isNull || rightOperand.isNull
  | .caseExpression _ branches elseResultExpression =>
    chosenBranch read (branchesNull branches) elseResultExpression.isNull

def branchesNull : List Branch → List (PredicateMethods × Bool)
  | [] => []
  | .mk whenPredicate resultExpression :: branches =>
    (whenPredicate.methods ops, resultExpression.isNull) :: branchesNull branches

end

mutual

/-- The expression that yields the value: below CASE, that of the chosen branch. -/
def Scalar.yielding : Scalar → Scalar
  | .literal value type => .literal value type
  | .ofAttribute attr => .ofAttribute attr
  | .unaryExpression operation operand => .unaryExpression operation operand
  | .binaryExpression operation leftOperand rightOperand =>
    .binaryExpression operation leftOperand rightOperand
  | .caseExpression _ branches elseResultExpression =>
    chosenBranch read (branchesYielding branches) elseResultExpression.yielding

def branchesYielding : List Branch → List (PredicateMethods × Scalar)
  | [] => []
  | .mk whenPredicate resultExpression :: branches =>
    (whenPredicate.methods ops, resultExpression.yielding) :: branchesYielding branches

end

/-- The modulo of an INT and a FLOAT, unless both are static or one of them is NULL. -/
def Scalar.promotes : Scalar → Bool
  | .binaryExpression operation leftOperand rightOperand =>
    operation.promotesToDouble (leftOperand.methods ops).type (rightOperand.methods ops).type &&
      !((leftOperand.methods ops).staticValue.isSome &&
        (rightOperand.methods ops).staticValue.isSome) &&
      !(leftOperand.isNull ops read || rightOperand.isNull ops read)
  | .literal _ _ | .ofAttribute _ | .unaryExpression _ _ | .caseExpression _ _ _ => false

end Tuples

/-! ## The chosen branch -/

section Branches

variable {ops : Operations} {read : AttributeReader}

/-- A function that goes through the branches maps their results. -/
theorem eq_map_scalar {β : Type} {f : Scalar → β}
    {through : List Branch → List (PredicateMethods × β)} (nil : through [] = [])
    (cons : ∀ whenPredicate resultExpression branches,
      through (.mk whenPredicate resultExpression :: branches) =
        (whenPredicate.methods ops, f resultExpression) :: through branches)
    (branches : List Branch) :
    through branches = (branches.map (Branch.scalar ops)).map (Prod.map id f) := by
  induction branches with
  | nil => exact nil
  | cons branch branches ih =>
    obtain ⟨whenPredicate, resultExpression⟩ := branch
    rw [cons, ih]
    rfl

theorem branchesNull_eq (branches : List Branch) :
    branchesNull ops read branches =
      (branches.map (Branch.scalar ops)).map (Prod.map id (Scalar.isNull ops read)) :=
  eq_map_scalar rfl (fun _ _ _ => rfl) branches

theorem branchesYielding_eq (branches : List Branch) :
    branchesYielding ops read branches =
      (branches.map (Branch.scalar ops)).map (Prod.map id (Scalar.yielding ops read)) :=
  eq_map_scalar rfl (fun _ _ _ => rfl) branches

end Branches

/-! ## Nodes -/

/-- How the value of a tree, its type and what is cached of it go together. -/
structure Yields (ops : Operations) (read : AttributeReader) (s : Scalar) : Prop where
  isNull : ((s.methods ops).valueFor read).isNull = s.isNull ops read
  nullable : s.isNull ops read = true → (s.methods ops).type.isNullable = true
  typeId : ((s.methods ops).valueFor read).getTypeID =
    if (s.yielding ops read).promotes ops read then .double else (s.methods ops).type.getTypeID
  promoted : (s.yielding ops read).promotes ops read = true →
    s.isNull ops read = false ∧ (s.methods ops).type.getTypeID = .float ∧
      (s.methods ops).staticValue = none
  static : ∀ value, (s.methods ops).staticValue = some value →
    (s.methods ops).valueFor read = value

namespace Yields

variable {ops : Operations} {read : AttributeReader} {s : Scalar} (yields : Yields ops read s)
include yields

theorem admits (asAnnounced : (s.yielding ops read).promotes ops read = false) :
    (s.methods ops).type.Admits ((s.methods ops).valueFor read) := by
  refine ⟨?_, fun null => yields.nullable (yields.isNull ▸ null)⟩
  rw [yields.typeId, asAnnounced]
  rfl

theorem admits_iff :
    (s.methods ops).type.Admits ((s.methods ops).valueFor read) ↔
      (s.yielding ops read).promotes ops read = false := by
  refine ⟨fun admits => Bool.eq_false_iff.mpr fun promotes => ?_, yields.admits⟩
  have double := admits.typeId
  rw [yields.typeId, if_pos promotes, (yields.promoted promotes).2.1] at double
  cases double

/-- A static value belongs to the type. -/
theorem admits_static {value : TypedValue} (static : (s.methods ops).staticValue = some value) :
    (s.methods ops).type.Admits value := by
  rw [← yields.static value static]
  refine yields.admits (Bool.eq_false_iff.mpr fun promotes => ?_)
  rw [(yields.promoted promotes).2.2] at static
  cases static

/-- A promoted value is not NULL. -/
theorem admits_null (null : ((s.methods ops).valueFor read).isNull = true) :
    (s.methods ops).type.Admits ((s.methods ops).valueFor read) := by
  refine yields.admits (Bool.eq_false_iff.mpr fun promotes => ?_)
  rw [yields.isNull, (yields.promoted promotes).1] at null
  cases null

end Yields

section Nodes

variable {platform : Platform} {comparisons : Operations} {read : AttributeReader}

theorem literal_yields {ops : Operations} {value : TypedValue} {type : DataType}
    (admits : type.Admits value) : Yields ops read (.literal value type) where
  isNull := rfl
  nullable := admits.nullable
  typeId := admits.typeId
  promoted := nofun
  static _ same := Option.some.inj same

theorem ofAttribute_yields {ops : Operations} {attr : CatalogAttribute}
    (admits : attr.type.Admits (read attr)) : Yields ops read (.ofAttribute attr) where
  isNull := rfl
  nullable := admits.nullable
  typeId := admits.typeId
  promoted := nofun
  static := nofun

/-- A unary expression returns its type, whatever the type of the value of its operand. -/
theorem unaryExpression_yields {operation : UnaryOperation} {operand : Scalar}
    (yields : Yields (operations platform comparisons) read operand)
    (can : operation.canApplyToType
      (operand.methods (operations platform comparisons)).type = true)
    (made : (operand.methods (operations platform comparisons)).staticValue = none →
      (operation.makeUncheckedUnaryOperatorForType platform
        (operand.methods (operations platform comparisons)).type).isSome = true) :
    Yields (operations platform comparisons) read (.unaryExpression operation operand) := by
  obtain ⟨resultType, typed⟩ := @UnaryOperation.typedAt platform operation _ can
  have type : ((Scalar.unaryExpression operation operand).methods
      (operations platform comparisons)).type = resultType := by
    rw [Scalar.methods, scalarUnaryExpression, operations_resultTypeForArgumentType typed.announced]
    rfl
  have returns : resultType.Returns (operand.isNull (operations platform comparisons) read)
      (((Scalar.unaryExpression operation operand).methods
        (operations platform comparisons)).valueFor read) := by
    rw [Scalar.methods, scalarUnaryExpression, ← yields.isNull]
    cases static : (operand.methods (operations platform comparisons)).staticValue with
    | some value =>
      obtain ⟨result, applied, returns⟩ := typed.checked value (yields.admits_static static)
      rw [yields.static value static]
      simpa only [operations_applyToCheckedUnary applied] using returns
    | none =>
      obtain ⟨fastOperator, isMade⟩ := Option.isSome_iff_exists.mp (made static)
      simpa only [operations_makeUncheckedUnaryOperator isMade] using
        typed.unchecked fastOperator isMade _ yields.admits_null
  constructor
  · exact returns.isNull
  · intro null
    rw [type]
    exact typed.nullable (yields.nullable null)
  · rw [type]
    exact returns.typeId
  · nofun
  · intro value same
    rw [Scalar.methods, scalarUnaryExpression] at same ⊢
    obtain ⟨operandValue, static, rfl⟩ := Option.map_eq_some_iff.mp same
    simp only [static]

theorem binaryStaticValue_eq_none {ops : Operations} {operation : BinaryOperation}
    {left right : ScalarMethods}
    (dynamic : (left.staticValue.isSome && right.staticValue.isSome) = false) :
    binaryStaticValue ops operation left right = none := by
  apply binaryStaticValue_eq_none_iff.mpr
  rwa [Bool.and_eq_false_iff, Option.isSome_eq_false_iff, Option.isSome_eq_false_iff,
    Option.isNone_iff_eq_none, Option.isNone_iff_eq_none] at dynamic

section Binary

variable {operation : BinaryOperation} {leftOperand rightOperand : Scalar} {resultType : DataType}
  (left : Yields (operations platform comparisons) read leftOperand)
  (right : Yields (operations platform comparisons) read rightOperand)
  (typed : operation.TypedAt platform (leftOperand.methods (operations platform comparisons)).type
    (rightOperand.methods (operations platform comparisons)).type resultType)
include typed

theorem binaryExpression_type :
    ((Scalar.binaryExpression operation leftOperand rightOperand).methods
      (operations platform comparisons)).type = resultType := by
  rw [Scalar.methods, scalarBinaryExpression, operations_resultTypeForArgumentTypes typed.announced]
  rfl

include left right

theorem binaryExpression_nullable
    (null : (Scalar.binaryExpression operation leftOperand rightOperand).isNull
      (operations platform comparisons) read = true) : resultType.isNullable = true := by
  rw [Scalar.isNull, Bool.or_eq_true] at null
  rw [typed.nullable, Bool.or_eq_true]
  exact null.imp left.nullable right.nullable

/-- Over two static operands the checked form is applied once. -/
theorem binaryExpression_yields_static
    (both : ((leftOperand.methods (operations platform comparisons)).staticValue.isSome &&
      (rightOperand.methods (operations platform comparisons)).staticValue.isSome) = true) :
    Yields (operations platform comparisons) read
      (.binaryExpression operation leftOperand rightOperand) := by
  obtain ⟨leftSome, rightSome⟩ := Bool.and_eq_true_iff.mp both
  obtain ⟨leftValue, leftStatic⟩ := Option.isSome_iff_exists.mp leftSome
  obtain ⟨rightValue, rightStatic⟩ := Option.isSome_iff_exists.mp rightSome
  obtain ⟨value, applied, returns⟩ := typed.checked leftValue rightValue
    (left.admits_static leftStatic) (right.admits_static rightStatic)
  have static : binaryStaticValue (operations platform comparisons) operation
      (leftOperand.methods (operations platform comparisons))
      (rightOperand.methods (operations platform comparisons)) = some value := by
    simp only [binaryStaticValue, leftStatic, rightStatic, operations_applyToCheckedBinary applied]
  have asAnnounced : (Scalar.yielding (operations platform comparisons) read
      (.binaryExpression operation leftOperand rightOperand)).promotes
        (operations platform comparisons) read = false := by
    simp [Scalar.yielding, Scalar.promotes, leftStatic, rightStatic]
  have valueFor : ((Scalar.binaryExpression operation leftOperand rightOperand).methods
      (operations platform comparisons)).valueFor read = value := by
    simp only [Scalar.methods, scalarBinaryExpression, static]
  have type := binaryExpression_type typed
  rw [← left.static leftValue leftStatic, ← right.static rightValue rightStatic, left.isNull,
    right.isNull] at returns
  constructor
  · rw [valueFor]
    exact returns.isNull
  · rw [type]
    exact binaryExpression_nullable left right typed
  · rw [valueFor, type, asAnnounced]
    exact returns.typeId
  · intro promotes
    rw [asAnnounced] at promotes
    cases promotes
  · intro other same
    rw [valueFor]
    exact Option.some.inj (static.symm.trans same)

/-- Otherwise the operator is applied to the values of the tuple. -/
theorem binaryExpression_yields_dynamic
    (dynamic : ((leftOperand.methods (operations platform comparisons)).staticValue.isSome &&
      (rightOperand.methods (operations platform comparisons)).staticValue.isSome) = false) :
    Yields (operations platform comparisons) read
      (.binaryExpression operation leftOperand rightOperand) := by
  obtain ⟨fastOperator, made, unchecked⟩ := typed.unchecked
  have static := @binaryStaticValue_eq_none (operations platform comparisons) operation _ _ dynamic
  have valueFor : ((Scalar.binaryExpression operation leftOperand rightOperand).methods
      (operations platform comparisons)).valueFor read =
        fastOperator.applyToTypedValues
          ((leftOperand.methods (operations platform comparisons)).valueFor read)
          ((rightOperand.methods (operations platform comparisons)).valueFor read) := by
    simp only [Scalar.methods, scalarBinaryExpression, static,
      operations_makeUncheckedBinaryOperator made]
  have promotes : (Scalar.yielding (operations platform comparisons) read
      (.binaryExpression operation leftOperand rightOperand)).promotes
        (operations platform comparisons) read =
      (operation.promotesToDouble (leftOperand.methods (operations platform comparisons)).type
        (rightOperand.methods (operations platform comparisons)).type &&
          !(Scalar.binaryExpression operation leftOperand rightOperand).isNull
            (operations platform comparisons) read) := by
    simp [Scalar.yielding, Scalar.promotes, dynamic, Scalar.isNull]
  have type := binaryExpression_type typed
  obtain ⟨isNull, typeId⟩ := unchecked
    ((leftOperand.methods (operations platform comparisons)).valueFor read)
    ((rightOperand.methods (operations platform comparisons)).valueFor read)
    (fun leftNull => left.nullable (left.isNull ▸ leftNull))
    (fun rightNull => right.nullable (right.isNull ▸ rightNull))
  rw [left.isNull, right.isNull] at isNull typeId
  constructor
  · rw [valueFor]
    exact isNull
  · rw [type]
    exact binaryExpression_nullable left right typed
  · rw [valueFor, type, promotes]
    exact typeId
  · rw [promotes, Bool.and_eq_true, Bool.not_eq_true', type]
    rintro ⟨promoted, notNull⟩
    exact ⟨notNull, typed.promoted promoted, static⟩
  · intro value same
    rw [Scalar.methods, scalarBinaryExpression, static] at same
    cases same

end Binary

/-- A binary expression returns its type unless it promotes. -/
theorem binaryExpression_yields {operation : BinaryOperation} {leftOperand rightOperand : Scalar}
    (left : Yields (operations platform comparisons) read leftOperand)
    (right : Yields (operations platform comparisons) read rightOperand)
    (can : operation.canApplyToTypes
      (leftOperand.methods (operations platform comparisons)).type
      (rightOperand.methods (operations platform comparisons)).type = true) :
    Yields (operations platform comparisons) read
      (.binaryExpression operation leftOperand rightOperand) := by
  obtain ⟨resultType, typed⟩ := @BinaryOperation.typedAt platform operation _ _ can
  cases both :
      (leftOperand.methods (operations platform comparisons)).staticValue.isSome &&
        (rightOperand.methods (operations platform comparisons)).staticValue.isSome with
  | true => exact binaryExpression_yields_static left right typed both
  | false => exact binaryExpression_yields_dynamic left right typed both

/-- A CASE returns what the chosen branch returns, of its own type where that subsumes the type of
the branch. -/
theorem caseExpression_yields {ops : Operations} {resultType : DataType} {branches : List Branch}
    {elseResultExpression : Scalar}
    (results : ∀ result, result = elseResultExpression ∨
        (∃ branch ∈ branches.map (Branch.scalar ops), branch.2 = result) →
      Yields ops read result ∧ (result.methods ops).type.isSubsumedBy resultType = true) :
    Yields ops read (.caseExpression resultType branches elseResultExpression) := by
  have isChosen := chosenBranch_mem read (branches.map (Branch.scalar ops)) elseResultExpression
  have methods : chosenBranch read (branchesMethods ops branches) (elseResultExpression.methods ops) =
      (chosenBranch read (branches.map (Branch.scalar ops)) elseResultExpression).methods ops := by
    rw [branchesMethods_scalars, chosenBranch_map]
  have isNull : (Scalar.caseExpression resultType branches elseResultExpression).isNull ops read =
      (chosenBranch read (branches.map (Branch.scalar ops)) elseResultExpression).isNull ops read := by
    rw [Scalar.isNull, branchesNull_eq, chosenBranch_map]
  have yielding : (Scalar.caseExpression resultType branches elseResultExpression).yielding ops read =
      (chosenBranch read (branches.map (Branch.scalar ops)) elseResultExpression).yielding ops read := by
    rw [Scalar.yielding, branchesYielding_eq, chosenBranch_map]
  have staticValue {value} (same : ((Scalar.caseExpression resultType branches
      elseResultExpression).methods ops).staticValue = some value) :
      ((chosenBranch read (branches.map (Branch.scalar ops)) elseResultExpression).methods ops).staticValue =
        some value := by
    rw [← methods]
    exact scalarCaseExpression_staticValue read same
  have valueFor : ((Scalar.caseExpression resultType branches elseResultExpression).methods
      ops).valueFor read =
        ((chosenBranch read (branches.map (Branch.scalar ops)) elseResultExpression).methods ops).valueFor
          read := caseExpression_valueFor_chosenBranch resultType read
  obtain ⟨yields, subsumed⟩ := results _ isChosen
  have typeId : ((Scalar.caseExpression resultType branches elseResultExpression).methods
      ops).type.getTypeID = _ := (DataType.getTypeID_of_isSubsumedBy subsumed).symm
  constructor
  · rw [valueFor, isNull]
    exact yields.isNull
  · rw [isNull]
    exact fun null => DataType.isNullable_of_isSubsumedBy subsumed (yields.nullable null)
  · rw [valueFor, yielding, typeId]
    exact yields.typeId
  · rw [yielding, isNull, typeId]
    intro promotes
    obtain ⟨notNull, isFloat, dynamic⟩ := yields.promoted promotes
    refine ⟨notNull, isFloat, Option.eq_none_iff_forall_ne_some.mpr fun value same => ?_⟩
    rw [staticValue same] at dynamic
    cases dynamic
  · intro value same
    rw [valueFor]
    exact yields.static value (staticValue same)

end Nodes

/-! ## Trees -/

section Soundness

variable {platform : Platform} {comparisons : Operations} {database : CatalogDatabaseLite}
  {read : AttributeReader}

mutual

theorem Scalar.yields : ∀ s : Scalar, s.WellFormed (operations platform comparisons) database →
    s.Promised platform comparisons → s.AttributesTyped read →
      Yields (operations platform comparisons) read s
  | .literal _ _, _, promised, _ => literal_yields promised
  | .ofAttribute _, _, _, typed => ofAttribute_yields typed
  | .unaryExpression _ operand, wellFormed, promised, typed =>
    unaryExpression_yields (operand.yields wellFormed.1 promised.1 typed) wellFormed.2 promised.2
  | .binaryExpression _ leftOperand rightOperand, wellFormed, promised, typed =>
    binaryExpression_yields (leftOperand.yields wellFormed.1 promised.1 typed.1)
      (rightOperand.yields wellFormed.2.1 promised.2 typed.2) wellFormed.2.2
  | .caseExpression resultType branches elseResultExpression, wellFormed, promised, typed => by
    refine caseExpression_yields fun result isResult => ?_
    rcases isResult with rfl | ⟨branch, isBranch, rfl⟩
    · exact ⟨result.yields wellFormed.2 promised.2.1 typed.2, promised.2.2⟩
    · exact branches_yield branches wellFormed.1 promised.1 typed.1 branch isBranch

theorem branches_yield {resultType : DataType} : ∀ branches : List Branch,
    branchesWellFormed (operations platform comparisons) database branches →
    branchesPromised platform comparisons resultType branches →
    branchesAttributesTyped read branches →
    ∀ branch ∈ branches.map (Branch.scalar (operations platform comparisons)),
      Yields (operations platform comparisons) read branch.2 ∧
        (branch.2.methods (operations platform comparisons)).type.isSubsumedBy resultType = true
  | [], _, _, _, _, isBranch => by cases isBranch
  | .mk whenPredicate resultExpression :: branches, wellFormed, promised, typed, branch, isBranch => by
    rcases List.mem_cons.mp isBranch with rfl | later
    · exact ⟨resultExpression.yields wellFormed.2.1 promised.1.1 typed.1, promised.1.2⟩
    · exact branches_yield branches wellFormed.2.2 promised.2 typed.2 branch later

end

/-- **Type soundness** up to one operation: the evaluation returns a value that has the `TypeID` of the
type of the tree, and is NULL only where that is nullable, exactly if its arithmetic is defined and it is
not yielded by the modulo of an INT and a FLOAT of which neither is NULL and not both are static. -/
theorem getValueForSingleTuple_admits_iff (platform : Platform) (comparisons : Operations)
    (database : CatalogDatabaseLite) (s : Scalar)
    (wellFormed : s.WellFormed (operations platform comparisons) database)
    (promised : s.Promised platform comparisons) {n : Nat} (accessor : ValueAccessor n)
    (tuple : Fin n) (typed : s.AttributesTyped (readSingleTuple accessor tuple)) :
    let ops := operations platform comparisons
    let read := readSingleTuple accessor tuple
    (∃ value, s.evaluate platform comparisons read = .ok value ∧ (s.methods ops).type.Admits value) ↔
      s.isDefinedFor platform comparisons read = true ∧ (s.yielding ops read).promotes ops read = false := by
  intro ops read
  simp only [s.evaluate_eq, valueWhere_eq_ok, and_assoc, exists_and_left, exists_eq_left']
  exact and_congr_right fun _ => (s.yields wellFormed promised typed).admits_iff

def intAndFloatRelation : CatalogDatabaseLite where
  relationSchemas relationId :=
    if relationId = 0 then some fun attributeId =>
      if attributeId = 0 then some ⟨0, 0, .int false⟩
      else if attributeId = 1 then some ⟨0, 1, .float false⟩
      else none
    else none

theorem ofIntAndFloat_typed (operation : BinaryOperation) :
    (ofIntAndFloat operation).AttributesTyped (readSingleTuple intAndFloat 0) :=
  ⟨⟨rfl, nofun⟩, ⟨rfl, nofun⟩⟩

theorem getValueForSingleTuple_admits_iff_sum :
    ∃ value, (ofIntAndFloat .add).evaluate samplePlatform intOperations (readSingleTuple intAndFloat 0) =
      .ok value ∧ (DataType.float false).Admits value :=
  (getValueForSingleTuple_admits_iff samplePlatform intOperations intAndFloatRelation
    (ofIntAndFloat .add) ⟨rfl, rfl, rfl⟩ ⟨trivial, trivial⟩ intAndFloat 0
    (ofIntAndFloat_typed .add)).mpr ⟨rfl, rfl⟩

/-- The modulo of the two attributes is announced as a FLOAT and returned as a DOUBLE, while its
column holds a FLOAT. -/
theorem not_getValueForSingleTuple_admits_modulo :
    let ops := operations samplePlatform intOperations
    let modulo := ofIntAndFloat .modulo
    let read := readSingleTuple intAndFloat 0
    modulo.WellFormed ops intAndFloatRelation ∧ modulo.Promised samplePlatform intOperations ∧
    modulo.AttributesTyped read ∧
    (modulo.methods ops).type = .float false ∧
    modulo.evaluate samplePlatform intOperations read =
      .ok (.ofLiteral (.number .double) 0x4000000000000000#64) ∧
    ¬ (∃ value, modulo.evaluate samplePlatform intOperations read = .ok value ∧
      (modulo.methods ops).type.Admits value) ∧
    ∀ build, (modulo.methods ops).getAllValues build intAndFloat =
      .ok [.ofLiteral (.number .float) 0x40000000#32] := by
  refine ⟨⟨rfl, rfl, rfl⟩, ⟨trivial, trivial⟩, ofIntAndFloat_typed .modulo, rfl, rfl, ?_, ?_⟩
  · rintro ⟨value, returned, admits⟩
    cases returned
    cases admits.typeId
  · rintro ⟨shortCircuit, _ | _⟩ <;> rfl

-- The quotient of 1 and 0 is undefined, so nothing is returned for it.
example :
    (Scalar.binaryExpression .divide (.literal (.int 1) (.int false))
      (.literal (.int 0) (.int false))).evaluate samplePlatform intOperations
        (readSingleTuple intAndFloat 0) = .error .undefinedBehaviour := rfl

end Soundness

end Quickstep.Expressions
