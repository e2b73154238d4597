import Mathlib.Data.Fintype.Basic
import Quickstep.Types.BinaryOperations

/-!
# Partial type signatures of binary operations

What a binary operation says when some of the types of its arguments and its result are not known: whether the
signature is plausible, which result type is certain, and what the arguments should be for a result type that
is wanted. An unknown argument is a `NULL` literal, so its type is nullable.
-/

namespace Quickstep.Types

/-- `TypeFactory::GetType` without a length; `none` where it ends the program. -/
def TypeFactory.getType (typeId : TypeID) (nullable : Bool) : Option DataType :=
  match typeId with
  | .int => some (.int nullable)
  | .long => some (.long nullable)
  | .float => some (.float nullable)
  | .double => some (.double nullable)
  | .date => some (.date nullable)
  | .datetime => some (.datetime nullable)
  | .datetimeInterval => some (.datetimeInterval nullable)
  | .yearMonthInterval => some (.yearMonthInterval nullable)
  | .nullType => if nullable then some .nullType else none
  | .char | .varChar => none

/-! ## The three questions -/

section Shapes

variable (resultTypeForArgumentTypes : DataType → DataType → Option DataType)

/-- The result type, if it is certain: with one argument known it goes by a table of `TypeID`s. -/
def partialResultType (forLeft forRight : TypeID → Option TypeID) (left right : Option DataType) :
    Option DataType :=
  match left, right with
  | none, none => none
  | some left, none => (forLeft left.getTypeID).bind (TypeFactory.getType · true)
  | none, some right => (forRight right.getTypeID).bind (TypeFactory.getType · true)
  | some left, some right => resultTypeForArgumentTypes left right

/-- The answer when both argument types are known. -/
def fullSignatureIsPlausible (resultType : Option DataType) (left right : DataType) : Bool :=
  match resultTypeForArgumentTypes left right with
  | none => false
  | some actualResultType =>
    match resultType with
    | none => true
    | some resultType => resultType == actualResultType

/-- A commutative operation: the known argument may be on either side. -/
def commutativeSignatureIsPlausible (types : List TypeID) (argumentsFor : TypeID → List TypeID)
    (resultType left right : Option DataType) : Bool :=
  match left, right with
  | none, none =>
    match resultType with
    | none => true
    | some resultType => resultType.isNullable && types.contains resultType.getTypeID
  | some left, some right => fullSignatureIsPlausible resultTypeForArgumentTypes resultType left right
  | some known, none | none, some known =>
    match resultType with
    | none => types.contains known.getTypeID
    | some resultType =>
      resultType.isNullable && (argumentsFor resultType.getTypeID).contains known.getTypeID

/-- An operation that is not commutative. Nullability is checked first. -/
def signatureIsPlausible (results lefts rights : List TypeID) (resultsForLeft resultsForRight : TypeID → List TypeID)
    (resultType left right : Option DataType) : Bool :=
  if (left.all DataType.isNullable || right.all DataType.isNullable) && resultType.any (!·.isNullable) then false
  else
    match left, right with
    | none, none =>
      match resultType with
      | none => true
      | some resultType => results.contains resultType.getTypeID
    | none, some right =>
      match resultType with
      | none => rights.contains right.getTypeID
      | some resultType => (resultsForRight right.getTypeID).contains resultType.getTypeID
    | some left, none =>
      match resultType with
      | none => lefts.contains left.getTypeID
      | some resultType => (resultsForLeft left.getTypeID).contains resultType.getTypeID
    | some left, some right => fullSignatureIsPlausible resultTypeForArgumentTypes resultType left right

/-- `pushDownTypeHint`: the result type itself is the hint for both arguments, for the left one, or for none. -/
def pushDown (both leftOnly : List TypeID) : Option DataType → Option DataType × Option DataType
  | none => (none, none)
  | some resultTypeHint =>
    if both.contains resultTypeHint.getTypeID then (some resultTypeHint, some resultTypeHint)
    else if leftOnly.contains resultTypeHint.getTypeID then (some resultTypeHint, none)
    else (none, none)

end Shapes

namespace AddBinaryOperation

def resultTypeForPartialArgumentTypes : Option DataType → Option DataType → Option DataType :=
  let knownType : TypeID → Option TypeID
    | .double => some .double
    | .datetime => some .datetime
    | _ => none
  partialResultType resultTypeForArgumentTypes knownType knownType

def partialTypeSignatureIsPlausible : Option DataType → Option DataType → Option DataType → Bool :=
  commutativeSignatureIsPlausible resultTypeForArgumentTypes
    [.int, .long, .float, .double, .datetime, .datetimeInterval, .yearMonthInterval]
    fun
    | .int => [.int]
    | .long => [.int, .long]
    | .float => [.int, .float]
    | .double => [.int, .long, .float, .double]
    | .datetime => [.datetime, .datetimeInterval, .yearMonthInterval]
    | .datetimeInterval => [.datetimeInterval]
    | .yearMonthInterval => [.yearMonthInterval]
    | _ => []

def pushDownTypeHint : Option DataType → Option DataType × Option DataType :=
  pushDown [.int, .long, .float, .double, .datetimeInterval, .yearMonthInterval] []

end AddBinaryOperation

namespace SubtractBinaryOperation

def resultTypeForPartialArgumentTypes : Option DataType → Option DataType → Option DataType :=
  partialResultType resultTypeForArgumentTypes
    (fun
    | .double => some .double
    | .datetimeInterval => some .datetimeInterval
    | .yearMonthInterval => some .yearMonthInterval
    | _ => none)
    (fun
    | .double => some .double
    | .datetime => some .datetimeInterval
    | _ => none)

def partialTypeSignatureIsPlausible : Option DataType → Option DataType → Option DataType → Bool :=
  signatureIsPlausible resultTypeForArgumentTypes
    [.int, .long, .float, .double, .datetime, .datetimeInterval, .yearMonthInterval]
    [.int, .long, .float, .double, .datetime, .datetimeInterval, .yearMonthInterval]
    [.int, .long, .float, .double, .datetime, .datetimeInterval, .yearMonthInterval]
    (fun
    | .int => [.int, .long, .float, .double]
    | .long => [.long, .double]
    | .float => [.float, .double]
    | .double => [.double]
    | .datetime => [.datetime, .datetimeInterval]
    | .datetimeInterval => [.datetimeInterval]
    | .yearMonthInterval => [.yearMonthInterval]
    | _ => [])
    (fun
    | .int => [.int, .long, .float, .double]
    | .long => [.long, .double]
    | .float => [.float, .double]
    | .double => [.double]
    | .datetime => [.datetimeInterval]
    | .datetimeInterval => [.datetime, .datetimeInterval]
    | .yearMonthInterval => [.datetime, .yearMonthInterval]
    | _ => [])

def pushDownTypeHint : Option DataType → Option DataType × Option DataType :=
  pushDown [.int, .long, .float, .double, .yearMonthInterval] [.datetime]

end SubtractBinaryOperation

namespace MultiplyBinaryOperation

/-- The other argument of a DOUBLE may be an interval. -/
def resultTypeForPartialArgumentTypes : Option DataType → Option DataType → Option DataType :=
  let knownType : TypeID → Option TypeID
    | .datetimeInterval => some .datetimeInterval
    | .yearMonthInterval => some .yearMonthInterval
    | _ => none
  partialResultType resultTypeForArgumentTypes knownType knownType

def partialTypeSignatureIsPlausible : Option DataType → Option DataType → Option DataType → Bool :=
  commutativeSignatureIsPlausible resultTypeForArgumentTypes
    [.int, .long, .float, .double, .datetimeInterval, .yearMonthInterval]
    fun
    | .int => [.int]
    | .long => [.int, .long]
    | .float => [.int, .float]
    | .double => [.int, .long, .float, .double]
    | .datetimeInterval => [.int, .long, .float, .double, .datetimeInterval]
    | .yearMonthInterval => [.int, .long, .float, .double, .yearMonthInterval]
    | _ => []

def pushDownTypeHint : Option DataType → Option DataType × Option DataType :=
  pushDown [.int, .long, .float, .double] []

end MultiplyBinaryOperation

namespace DivideBinaryOperation

def resultTypeForPartialArgumentTypes : Option DataType → Option DataType → Option DataType :=
  partialResultType resultTypeForArgumentTypes
    (fun
    | .double => some .double
    | .datetimeInterval => some .datetimeInterval
    | .yearMonthInterval => some .yearMonthInterval
    | _ => none)
    (fun _ => none)

def partialTypeSignatureIsPlausible : Option DataType → Option DataType → Option DataType → Bool :=
  signatureIsPlausible resultTypeForArgumentTypes
    [.int, .long, .float, .double, .datetimeInterval, .yearMonthInterval]
    [.int, .long, .float, .double, .datetimeInterval, .yearMonthInterval]
    [.int, .long, .float, .double]
    (fun
    | .int => [.int, .long, .float, .double]
    | .long => [.long, .double]
    | .float => [.float, .double]
    | .double => [.double]
    | .datetimeInterval => [.datetimeInterval]
    | .yearMonthInterval => [.yearMonthInterval]
    | _ => [])
    (fun
    | .int => [.int, .long, .float, .double, .datetimeInterval, .yearMonthInterval]
    | .long => [.long, .double, .datetimeInterval, .yearMonthInterval]
    | .float => [.float, .double, .datetimeInterval, .yearMonthInterval]
    | .double => [.double, .datetimeInterval, .yearMonthInterval]
    | _ => [])

def pushDownTypeHint : Option DataType → Option DataType × Option DataType :=
  pushDown [.int, .long, .float, .double] [.datetimeInterval, .yearMonthInterval]

end DivideBinaryOperation

namespace ModuloBinaryOperation

/-- Nothing is said for a known divisor, not even for a DOUBLE. -/
def resultTypeForPartialArgumentTypes : Option DataType → Option DataType → Option DataType :=
  partialResultType resultTypeForArgumentTypes
    (fun
    | .double => some .double
    | _ => none)
    (fun _ => none)

def partialTypeSignatureIsPlausible : Option DataType → Option DataType → Option DataType → Bool :=
  let results : TypeID → List TypeID
    | .int => [.int, .long, .float, .double]
    | .long => [.long, .double]
    | .float => [.float, .double]
    | .double => [.double]
    | _ => []
  signatureIsPlausible resultTypeForArgumentTypes [.int, .long, .float, .double]
    [.int, .long, .float, .double] [.int, .long, .float, .double] results results

def pushDownTypeHint : Option DataType → Option DataType × Option DataType :=
  pushDown [.int, .long, .float, .double] []

end ModuloBinaryOperation

namespace BinaryOperation

def resultTypeForPartialArgumentTypes :
    BinaryOperation → Option DataType → Option DataType → Option DataType
  | add => AddBinaryOperation.resultTypeForPartialArgumentTypes
  | subtract => SubtractBinaryOperation.resultTypeForPartialArgumentTypes
  | multiply => MultiplyBinaryOperation.resultTypeForPartialArgumentTypes
  | divide => DivideBinaryOperation.resultTypeForPartialArgumentTypes
  | modulo => ModuloBinaryOperation.resultTypeForPartialArgumentTypes

def partialTypeSignatureIsPlausible :
    BinaryOperation → Option DataType → Option DataType → Option DataType → Bool
  | add => AddBinaryOperation.partialTypeSignatureIsPlausible
  | subtract => SubtractBinaryOperation.partialTypeSignatureIsPlausible
  | multiply => MultiplyBinaryOperation.partialTypeSignatureIsPlausible
  | divide => DivideBinaryOperation.partialTypeSignatureIsPlausible
  | modulo => ModuloBinaryOperation.partialTypeSignatureIsPlausible

def pushDownTypeHint : BinaryOperation → Option DataType → Option DataType × Option DataType
  | add => AddBinaryOperation.pushDownTypeHint
  | subtract => SubtractBinaryOperation.pushDownTypeHint
  | multiply => MultiplyBinaryOperation.pushDownTypeHint
  | divide => DivideBinaryOperation.pushDownTypeHint
  | modulo => ModuloBinaryOperation.pushDownTypeHint

end BinaryOperation

/-! ## Results by `TypeID` -/

/-- All `TypeID`s. -/
def TypeID.all : List TypeID :=
  [.int, .long, .float, .double, .char, .varChar, .date, .datetime, .datetimeInterval, .yearMonthInterval, .nullType]

instance : Fintype TypeID :=
  ⟨⟨TypeID.all, by decide⟩, fun typeId => by cases typeId <;> decide⟩

theorem TypeFactory.getType_eq_some_iff {typeId : TypeID} {nullable : Bool} {type : DataType} :
    getType typeId nullable = some type ↔
      (typeId ≠ .char ∧ typeId ≠ .varChar) ∧ type.getTypeID = typeId ∧ type.isNullable = nullable := by
  constructor
  · intro made
    cases typeId <;> cases nullable <;> cases made <;> decide
  · rintro ⟨simple, rfl, rfl⟩
    cases type <;> first | rfl | simp [DataType.getTypeID] at simple

namespace BinaryOperation

/-- The `TypeID` of the result for arguments with these `TypeID`s. -/
def resultTypeID (operation : BinaryOperation) (left right : TypeID) : Option TypeID := do
  let left ← TypeFactory.getType left true
  let right ← TypeFactory.getType right true
  let result ← operation.resultTypeForArgumentTypes left right
  pure result.getTypeID

/-- Of the argument types only the `TypeID`s and the nullability matter. -/
theorem resultTypeForArgumentTypes_eq (operation : BinaryOperation) (left right : DataType) :
    operation.resultTypeForArgumentTypes left right =
      (operation.resultTypeID left.getTypeID right.getTypeID).bind
        (TypeFactory.getType · (left.isNullable || right.isNullable)) := by
  cases operation <;> cases left <;> cases right <;>
    first
    | rfl
    | rename_i leftNullable rightNullable
      cases leftNullable <;> cases rightNullable <;> rfl

/-- A result is nullable exactly if an argument is. -/
theorem isNullable_of_result {operation : BinaryOperation} {left right type : DataType}
    (result : operation.resultTypeForArgumentTypes left right = some type) :
    type.isNullable = (left.isNullable || right.isNullable) := by
  rw [resultTypeForArgumentTypes_eq, Option.bind_eq_some_iff] at result
  obtain ⟨typeId, -, made⟩ := result
  exact (TypeFactory.getType_eq_some_iff.mp made).2.2

theorem getType_of_resultTypeID {operation : BinaryOperation} {left right typeId : TypeID}
    (found : operation.resultTypeID left right = some typeId) (nullable : Bool) :
    (TypeFactory.getType left nullable).isSome = true ∧ (TypeFactory.getType right nullable).isSome = true ∧
      (TypeFactory.getType typeId nullable).isSome = true := by
  revert left right typeId nullable
  cases operation <;> decide

/-! ## Plausible signatures -/

/-- A type that an argument may have, if it is known or not. An unknown argument is presumed to be
nullable, as the interface says. -/
def Completes : Option DataType → DataType → Prop
  | some known, type => type = known
  | none, type => type.isNullable = true

/-- Concrete types can be put in for the unknown ones, and the signature is one of the operation. -/
def Plausible (operation : BinaryOperation) (resultType left right : Option DataType) : Prop :=
  ∃ leftType rightType type, Completes left leftType ∧ Completes right rightType ∧
    (∀ known ∈ resultType, type = known) ∧
    operation.resultTypeForArgumentTypes leftType rightType = some type

variable {operation : BinaryOperation} {resultType left right : Option DataType}

theorem exists_completes {known : Option DataType} {typeId : TypeID}
    (simple : (TypeFactory.getType typeId true).isSome = true) (same : ∀ type ∈ known, typeId = type.getTypeID) :
    ∃ type, Completes known type ∧ type.getTypeID = typeId ∧ (known = none → type.isNullable = true) := by
  cases known with
  | none =>
    obtain ⟨type, made⟩ := Option.isSome_iff_exists.mp simple
    obtain ⟨-, sameId, nullable⟩ := TypeFactory.getType_eq_some_iff.mp made
    exact ⟨type, nullable, sameId, fun _ => nullable⟩
  | some known => exact ⟨known, rfl, (same known rfl).symm, nofun⟩

theorem Completes.nullable {type : DataType} (completes : Completes none type) : type.isNullable = true :=
  completes

/-- With an unknown argument the result is nullable, and else only the `TypeID`s matter. -/
theorem plausible_iff_of_unknown (unknown : left = none ∨ right = none) :
    Plausible operation resultType left right ↔ (∀ type ∈ resultType, type.isNullable = true) ∧
      ∃ leftId rightId typeId, (∀ type ∈ left, leftId = type.getTypeID) ∧
        (∀ type ∈ right, rightId = type.getTypeID) ∧ (∀ type ∈ resultType, typeId = type.getTypeID) ∧
        operation.resultTypeID leftId rightId = some typeId := by
  constructor
  · rintro ⟨leftType, rightType, type, leftCompletes, rightCompletes, agrees, result⟩
    rw [resultTypeForArgumentTypes_eq, Option.bind_eq_some_iff] at result
    obtain ⟨typeId, found, made⟩ := result
    obtain ⟨-, rfl, nullable⟩ := TypeFactory.getType_eq_some_iff.mp made
    have isNullable : type.isNullable = true := by
      rw [nullable]
      rcases unknown with rfl | rfl
      · rw [leftCompletes.nullable, Bool.true_or]
      · rw [rightCompletes.nullable, Bool.or_true]
    refine ⟨fun known inside => agrees known inside ▸ isNullable, leftType.getTypeID, rightType.getTypeID,
      type.getTypeID, ?_, ?_, fun known inside => agrees known inside ▸ rfl, found⟩
    · rintro known ⟨⟩
      exact congrArg _ leftCompletes
    · rintro known ⟨⟩
      exact congrArg _ rightCompletes
  · rintro ⟨nullable, leftId, rightId, typeId, sameLeft, sameRight, same, found⟩
    obtain ⟨leftSimple, rightSimple, simple⟩ := getType_of_resultTypeID found true
    obtain ⟨leftType, leftCompletes, rfl, leftNullable⟩ := exists_completes leftSimple sameLeft
    obtain ⟨rightType, rightCompletes, rfl, rightNullable⟩ := exists_completes rightSimple sameRight
    obtain ⟨type, made⟩ := Option.isSome_iff_exists.mp simple
    refine ⟨leftType, rightType, type, leftCompletes, rightCompletes, fun known inside => ?_, ?_⟩
    · obtain ⟨letters, -, -⟩ := TypeFactory.getType_eq_some_iff.mp made
      have known' : TypeFactory.getType typeId true = some known :=
        TypeFactory.getType_eq_some_iff.mpr ⟨letters, (same known inside).symm, nullable known inside⟩
      exact Option.some.inj (made.symm.trans known')
    · have isNullable : (leftType.isNullable || rightType.isNullable) = true := by
        rcases unknown with isNone | isNone
        · rw [leftNullable isNone, Bool.true_or]
        · rw [rightNullable isNone, Bool.or_true]
      rw [resultTypeForArgumentTypes_eq, found, isNullable]
      exact made

/-- With both arguments known the signature is the one of the operation, or not. -/
theorem fullSignatureIsPlausible_iff {leftType rightType : DataType} :
    fullSignatureIsPlausible operation.resultTypeForArgumentTypes resultType leftType rightType = true ↔
      Plausible operation resultType (some leftType) (some rightType) := by
  unfold fullSignatureIsPlausible
  constructor
  · intro isPlausible
    split at isPlausible
    · cases isPlausible
    · next type found =>
      refine ⟨leftType, rightType, type, rfl, rfl, ?_, found⟩
      rintro known ⟨⟩
      exact (beq_iff_eq.mp isPlausible).symm
  · rintro ⟨_, _, type, rfl, rfl, agrees, found⟩
    rw [found]
    dsimp only
    split
    · rfl
    · next known => exact beq_iff_eq.mpr (agrees known rfl).symm

theorem resultTypeID_int (operation : BinaryOperation) : operation.resultTypeID .int .int = some .int := by
  cases operation <;> rfl

/-- The tables of a commutative operation say which `TypeID`s go together. -/
theorem commutativeSignatureIsPlausible_iff (operation : BinaryOperation) {types : List TypeID}
    {argumentsFor : TypeID → List TypeID}
    (results : ∀ k, k ∈ types ↔ ∃ l r, operation.resultTypeID l r = some k)
    (lefts : ∀ l, l ∈ types ↔ ∃ r k, operation.resultTypeID l r = some k)
    (rights : ∀ r, r ∈ types ↔ ∃ l k, operation.resultTypeID l r = some k)
    (leftsFor : ∀ k l, l ∈ argumentsFor k ↔ ∃ r, operation.resultTypeID l r = some k)
    (rightsFor : ∀ k r, r ∈ argumentsFor k ↔ ∃ l, operation.resultTypeID l r = some k) :
    commutativeSignatureIsPlausible operation.resultTypeForArgumentTypes types argumentsFor resultType left
      right = true ↔ Plausible operation resultType left right := by
  cases left with
  | none =>
    rw [plausible_iff_of_unknown (.inl rfl)]
    cases right with
    | none =>
      cases resultType with
      | none => simpa [commutativeSignatureIsPlausible] using ⟨_, _, _, operation.resultTypeID_int⟩
      | some known => simp [commutativeSignatureIsPlausible, results]
    | some right =>
      cases resultType with
      | none => simp [commutativeSignatureIsPlausible, rights]
      | some known => simp [commutativeSignatureIsPlausible, rightsFor]
  | some left =>
    cases right with
    | none =>
      rw [plausible_iff_of_unknown (.inr rfl)]
      cases resultType with
      | none => simp [commutativeSignatureIsPlausible, lefts]
      | some known => simp [commutativeSignatureIsPlausible, leftsFor]
    | some right => exact fullSignatureIsPlausible_iff

/-- The same for an operation that is not commutative. -/
theorem signatureIsPlausible_iff (operation : BinaryOperation) {resultIds leftIds rightIds : List TypeID}
    {resultsForLeft resultsForRight : TypeID → List TypeID}
    (results : ∀ k, k ∈ resultIds ↔ ∃ l r, operation.resultTypeID l r = some k)
    (lefts : ∀ l, l ∈ leftIds ↔ ∃ r k, operation.resultTypeID l r = some k)
    (rights : ∀ r, r ∈ rightIds ↔ ∃ l k, operation.resultTypeID l r = some k)
    (forLeft : ∀ l k, k ∈ resultsForLeft l ↔ ∃ r, operation.resultTypeID l r = some k)
    (forRight : ∀ r k, k ∈ resultsForRight r ↔ ∃ l, operation.resultTypeID l r = some k) :
    signatureIsPlausible operation.resultTypeForArgumentTypes resultIds leftIds rightIds resultsForLeft
      resultsForRight resultType left right = true ↔ Plausible operation resultType left right := by
  cases left with
  | none =>
    rw [plausible_iff_of_unknown (.inl rfl)]
    cases right with
    | none =>
      cases resultType with
      | none => simpa [signatureIsPlausible] using ⟨_, _, _, operation.resultTypeID_int⟩
      | some known => simp [signatureIsPlausible, results]
    | some right =>
      cases resultType with
      | none => simp [signatureIsPlausible, rights]
      | some known => simp [signatureIsPlausible, forRight]
  | some left =>
    cases right with
    | none =>
      rw [plausible_iff_of_unknown (.inr rfl)]
      cases resultType with
      | none => simp [signatureIsPlausible, lefts]
      | some known => simp [signatureIsPlausible, forLeft]
    | some right =>
      rw [← fullSignatureIsPlausible_iff]
      unfold signatureIsPlausible
      split
      · next contradicts =>
        refine iff_of_false Bool.false_ne_true fun isPlausible => ?_
        obtain ⟨_, _, _, rfl, rfl, agrees, found⟩ := fullSignatureIsPlausible_iff.mp isPlausible
        obtain ⟨nullable, notNullable⟩ := (Bool.and_eq_true _ _).mp contradicts
        obtain ⟨known, isKnown, notNullable⟩ := (Option.any_eq_true _ _).mp notNullable
        have resultNullable := (isNullable_of_result found).trans nullable
        rw [agrees known isKnown] at resultNullable
        rw [resultNullable] at notNullable
        cases notNullable
      · rfl

/-- **A signature is plausible** exactly if types for what is unknown make it a signature of the operation. -/
theorem partialTypeSignatureIsPlausible_iff (operation : BinaryOperation)
    (resultType left right : Option DataType) :
    operation.partialTypeSignatureIsPlausible resultType left right = true ↔
      Plausible operation resultType left right := by
  cases operation with
  | add =>
    unfold partialTypeSignatureIsPlausible AddBinaryOperation.partialTypeSignatureIsPlausible
    apply commutativeSignatureIsPlausible_iff .add <;> decide +kernel
  | subtract =>
    unfold partialTypeSignatureIsPlausible SubtractBinaryOperation.partialTypeSignatureIsPlausible
    apply signatureIsPlausible_iff .subtract <;> decide +kernel
  | multiply =>
    unfold partialTypeSignatureIsPlausible MultiplyBinaryOperation.partialTypeSignatureIsPlausible
    apply commutativeSignatureIsPlausible_iff .multiply <;> decide +kernel
  | divide =>
    unfold partialTypeSignatureIsPlausible DivideBinaryOperation.partialTypeSignatureIsPlausible
    apply signatureIsPlausible_iff .divide <;> decide +kernel
  | modulo =>
    unfold partialTypeSignatureIsPlausible ModuloBinaryOperation.partialTypeSignatureIsPlausible
    apply signatureIsPlausible_iff .modulo <;> decide +kernel

/-! ## Certain results -/

/-- A result type is certain if it is the only plausible one. -/
def Certain (operation : BinaryOperation) (left right : Option DataType) (type : DataType) : Prop :=
  Plausible operation (some type) left right ∧ ∀ other, Plausible operation (some other) left right → other = type

/-- A table for one known argument says which result is certain, `overlooked` types apart. -/
theorem bind_table_iff (signature : DataType → Prop) {table : TypeID → Option TypeID}
    {results : TypeID → TypeID → Prop} {overlooked : TypeID → Bool} {known type : DataType}
    (complete : ∀ id k, table id = some k ↔
      (results id k ∧ ∀ k', results id k' → k' = k) ∧ overlooked id = false)
    (simple : ∀ id k, results id k → (TypeFactory.getType k true).isSome = true)
    (plausibleAt : ∀ type, signature type ↔ type.isNullable = true ∧ results known.getTypeID type.getTypeID) :
    (table known.getTypeID).bind (TypeFactory.getType · true) = some type ↔
      (signature type ∧ ∀ other, signature other → other = type) ∧ overlooked known.getTypeID = false := by
  rw [Option.bind_eq_some_iff]
  constructor
  · rintro ⟨typeId, found, made⟩
    obtain ⟨⟨result, unique⟩, seen⟩ := (complete _ _).mp found
    obtain ⟨letters, rfl, nullable⟩ := TypeFactory.getType_eq_some_iff.mp made
    refine ⟨⟨(plausibleAt type).mpr ⟨nullable, result⟩, fun other plausibleToo => ?_⟩, seen⟩
    obtain ⟨otherNullable, otherResult⟩ := (plausibleAt other).mp plausibleToo
    have otherMade : TypeFactory.getType type.getTypeID true = some other :=
      TypeFactory.getType_eq_some_iff.mpr ⟨letters, unique _ otherResult, otherNullable⟩
    exact Option.some.inj (otherMade.symm.trans made)
  · rintro ⟨⟨isPlausible, unique⟩, seen⟩
    obtain ⟨nullable, result⟩ := (plausibleAt type).mp isPlausible
    have made {k : TypeID} (result : results known.getTypeID k) :
        ∃ other, TypeFactory.getType k true = some other ∧ other.getTypeID = k ∧ signature other := by
      obtain ⟨other, made⟩ := Option.isSome_iff_exists.mp (simple _ _ result)
      obtain ⟨-, rfl, otherNullable⟩ := TypeFactory.getType_eq_some_iff.mp made
      exact ⟨other, made, rfl, (plausibleAt other).mpr ⟨otherNullable, result⟩⟩
    refine ⟨type.getTypeID, (complete _ _).mpr ⟨⟨result, fun k' result' => ?_⟩, seen⟩, ?_⟩
    · obtain ⟨other, -, rfl, otherPlausible⟩ := made result'
      rw [unique other otherPlausible]
    · obtain ⟨other, otherMade, -, otherPlausible⟩ := made result
      rwa [unique other otherPlausible] at otherMade

/-- Without any argument at least INT and DOUBLE are plausible results. -/
theorem not_certain_of_unknown {type : DataType} : ¬ Certain operation none none type := by
  rintro ⟨-, unique⟩
  have isPlausible (k : TypeID) (result : DataType) (same : result.getTypeID = k)
      (nullable : result.isNullable = true) (found : operation.resultTypeID k k = some k) :
      Plausible operation (some result) none none := by
    rw [plausible_iff_of_unknown (.inl rfl)]
    refine ⟨?_, k, k, k, nofun, nofun, ?_, found⟩
    · rintro _ ⟨⟩
      exact nullable
    · rintro _ ⟨⟩
      exact same.symm
  have int := unique _ (isPlausible .int (.int true) rfl rfl operation.resultTypeID_int)
  have double := unique _ (isPlausible .double (.double true) rfl rfl (by cases operation <;> rfl))
  cases int.trans double.symm

/-- The one case in which a certain result is not found: the modulo of something by a DOUBLE. -/
def overlooked (operation : BinaryOperation) (right : TypeID) : Bool := operation = .modulo && right = .double

def Overlooks (operation : BinaryOperation) (left right : Option DataType) : Prop :=
  left = none ∧ ∃ known ∈ right, operation.overlooked known.getTypeID = true

theorem partialResultType_iff (operation : BinaryOperation) {forLeft forRight : TypeID → Option TypeID}
    (lefts : ∀ l k, forLeft l = some k ↔ ((∃ r, operation.resultTypeID l r = some k) ∧
      ∀ k', (∃ r, operation.resultTypeID l r = some k') → k' = k) ∧ false = false)
    (rights : ∀ r k, forRight r = some k ↔ ((∃ l, operation.resultTypeID l r = some k) ∧
      ∀ k', (∃ l, operation.resultTypeID l r = some k') → k' = k) ∧ operation.overlooked r = false)
    {type : DataType} :
    partialResultType operation.resultTypeForArgumentTypes forLeft forRight left right = some type ↔
      Certain operation left right type ∧ ¬ Overlooks operation left right := by
  cases left with
  | none =>
    cases right with
    | none => exact iff_of_false nofun fun certain => not_certain_of_unknown certain.1
    | some right =>
      refine (bind_table_iff (fun type => Plausible operation (some type) none (some right)) rights ?_
        fun other => ?_).trans ?_
      · rintro r k ⟨l, found⟩
        exact (getType_of_resultTypeID found true).2.2
      · rw [plausible_iff_of_unknown (.inl rfl)]
        simp
      · simp [Certain, Overlooks]
  | some left =>
    cases right with
    | none =>
      refine (bind_table_iff (fun type => Plausible operation (some type) (some left) none) lefts ?_
        fun other => ?_).trans ?_
      · rintro l k ⟨r, found⟩
        exact (getType_of_resultTypeID found true).2.2
      · rw [plausible_iff_of_unknown (.inr rfl)]
        simp
      · simp [Certain, Overlooks]
    | some right =>
      have isPlausible (other : DataType) : Plausible operation (some other) (some left) (some right) ↔
          operation.resultTypeForArgumentTypes left right = some other := by
        constructor
        · rintro ⟨_, _, _, rfl, rfl, agrees, found⟩
          rwa [agrees other rfl] at found
        · intro found
          refine ⟨left, right, other, rfl, rfl, ?_, found⟩
          rintro _ ⟨⟩
          rfl
      unfold partialResultType Certain
      simp only [isPlausible]
      constructor
      · intro found
        exact ⟨⟨found, fun other found' => Option.some.inj (found'.symm.trans found)⟩, fun both => nomatch both.1⟩
      · exact fun certain => certain.1.1

/-- **The result type for partial argument types** is the one that is certain, if there is one. -/
theorem resultTypeForPartialArgumentTypes_iff (operation : BinaryOperation) (left right : Option DataType)
    (type : DataType) :
    operation.resultTypeForPartialArgumentTypes left right = some type ↔
      Certain operation left right type ∧ ¬ Overlooks operation left right := by
  cases operation with
  | add =>
    unfold resultTypeForPartialArgumentTypes AddBinaryOperation.resultTypeForPartialArgumentTypes
    apply partialResultType_iff .add <;> decide +kernel
  | subtract =>
    unfold resultTypeForPartialArgumentTypes SubtractBinaryOperation.resultTypeForPartialArgumentTypes
    apply partialResultType_iff .subtract <;> decide +kernel
  | multiply =>
    unfold resultTypeForPartialArgumentTypes MultiplyBinaryOperation.resultTypeForPartialArgumentTypes
    apply partialResultType_iff .multiply <;> decide +kernel
  | divide =>
    unfold resultTypeForPartialArgumentTypes DivideBinaryOperation.resultTypeForPartialArgumentTypes
    apply partialResultType_iff .divide <;> decide +kernel
  | modulo =>
    unfold resultTypeForPartialArgumentTypes ModuloBinaryOperation.resultTypeForPartialArgumentTypes
    apply partialResultType_iff .modulo <;> decide +kernel

/-! ## Hints -/

/-- Types of arguments that give the result. -/
def Gives (operation : BinaryOperation) (type left right : DataType) : Prop :=
  operation.resultTypeForArgumentTypes left right = some type

/-- What hints for the arguments are good for, when the result should have a type. -/
structure Helps (operation : BinaryOperation) (type : DataType) (hints : Option DataType × Option DataType) :
    Prop where
  /-- If the result can be had at all, then by arguments of the types in the hints. -/
  yields : (∃ left right, Gives operation type left right) →
    ∃ left right, (∀ hint ∈ hints.1, left = hint) ∧ (∀ hint ∈ hints.2, right = hint) ∧ Gives operation type left right
  /-- All arguments that give the result can be coerced safely to the types in the hints. -/
  precise : ∀ left right, Gives operation type left right →
    (∀ hint ∈ hints.1, hint.isSafelyCoercibleFrom left = true) ∧
      (∀ hint ∈ hints.2, hint.isSafelyCoercibleFrom right = true)
  /-- There are no hints for a result that cannot be had. -/
  inapplicable : (¬ ∃ left right, Gives operation type left right) → hints = (none, none)

/-- Which `TypeID`s give a result, with the nullability of the arguments. -/
theorem gives_iff {type leftType rightType : DataType} : Gives operation type leftType rightType ↔
    operation.resultTypeID leftType.getTypeID rightType.getTypeID = some type.getTypeID ∧
      type.isNullable = (leftType.isNullable || rightType.isNullable) := by
  unfold Gives
  constructor
  · intro found
    refine ⟨?_, isNullable_of_result found⟩
    rw [resultTypeForArgumentTypes_eq, Option.bind_eq_some_iff] at found
    obtain ⟨typeId, found, made⟩ := found
    rw [found, (TypeFactory.getType_eq_some_iff.mp made).2.1]
  · rintro ⟨found, nullable⟩
    obtain ⟨other, made⟩ := Option.isSome_iff_exists.mp (getType_of_resultTypeID found true).2.2
    rw [resultTypeForArgumentTypes_eq, found, Option.bind_some, ← nullable]
    exact TypeFactory.getType_eq_some_iff.mpr ⟨(TypeFactory.getType_eq_some_iff.mp made).1, rfl, rfl⟩

/-- The argument types that give a result are those that `TypeFactory` makes. -/
theorem Gives.getType {type leftType rightType : DataType} (gives : Gives operation type leftType rightType) :
    TypeFactory.getType leftType.getTypeID leftType.isNullable = some leftType ∧
      TypeFactory.getType rightType.getTypeID rightType.isNullable = some rightType ∧
      TypeFactory.getType type.getTypeID (leftType.isNullable || rightType.isNullable) = some type := by
  obtain ⟨found, nullable⟩ := gives_iff.mp gives
  obtain ⟨left, right, result⟩ := getType_of_resultTypeID found true
  simp only [Option.isSome_iff_exists, TypeFactory.getType_eq_some_iff] at left right result
  obtain ⟨⟨_, leftLetters, -⟩, ⟨_, rightLetters, -⟩, ⟨_, letters, -⟩⟩ := And.intro left (And.intro right result)
  refine ⟨?_, ?_, ?_⟩
  · exact TypeFactory.getType_eq_some_iff.mpr ⟨leftLetters, rfl, rfl⟩
  · exact TypeFactory.getType_eq_some_iff.mpr ⟨rightLetters, rfl, rfl⟩
  · exact TypeFactory.getType_eq_some_iff.mpr ⟨letters, rfl, nullable⟩

theorem pushDown_helps (operation : BinaryOperation) {both leftOnly : List TypeID}
    (same : ∀ k ∈ both, operation.resultTypeID k k = some k)
    (exists' : ∀ k ∈ leftOnly, ∃ r, operation.resultTypeID k r = some k)
    (precise : ∀ l r, ∀ k ∈ operation.resultTypeID l r, ∀ b b' : Bool,
      ∀ type ∈ TypeFactory.getType k (b || b'), ∀ left ∈ TypeFactory.getType l b,
        ∀ right ∈ TypeFactory.getType r b',
          (k ∈ both ∨ k ∈ leftOnly → type.isSafelyCoercibleFrom left = true) ∧
            (k ∈ both → type.isSafelyCoercibleFrom right = true))
    (type : DataType) : Helps operation type (pushDown both leftOnly (some type)) := by
  have itself (inside : type.getTypeID ∈ both) : Gives operation type type type :=
    gives_iff.mpr ⟨same _ inside, (Bool.or_self _).symm⟩
  have left (inside : type.getTypeID ∈ leftOnly) : ∃ right, Gives operation type type right := by
    obtain ⟨rightId, found⟩ := exists' _ inside
    obtain ⟨right, made⟩ := Option.isSome_iff_exists.mp (getType_of_resultTypeID found type.isNullable).2.1
    obtain ⟨-, rfl, nullable⟩ := TypeFactory.getType_eq_some_iff.mp made
    refine ⟨right, gives_iff.mpr ⟨found, ?_⟩⟩
    rw [nullable, Bool.or_self]
  unfold pushDown
  simp only [List.contains_iff_mem]
  split
  · next inside =>
    refine ⟨fun _ => ⟨type, type, ?_, ?_, itself inside⟩, fun leftType rightType gives => ?_, fun cannot => ?_⟩
    · simp
    · simp
    · obtain ⟨leftMade, rightMade, made⟩ := gives.getType
      have coercible := precise _ _ _ (gives_iff.mp gives).1 _ _ type made leftType leftMade rightType rightMade
      simpa using And.intro (coercible.1 (.inl inside)) (coercible.2 inside)
    · exact absurd ⟨type, type, itself inside⟩ cannot
  · split
    · next inside =>
      obtain ⟨right, gives⟩ := left inside
      refine ⟨fun _ => ⟨type, right, ?_, nofun, gives⟩, fun leftType rightType gives => ?_, fun cannot => ?_⟩
      · simp
      · obtain ⟨leftMade, rightMade, made⟩ := gives.getType
        have coercible := precise _ _ _ (gives_iff.mp gives).1 _ _ type made leftType leftMade rightType rightMade
        simpa using coercible.1 (.inr inside)
      · exact absurd ⟨type, right, gives⟩ cannot
    · refine ⟨?_, fun _ _ _ => ⟨nofun, nofun⟩, fun _ => rfl⟩
      rintro ⟨leftType, rightType, gives⟩
      exact ⟨leftType, rightType, nofun, nofun, gives⟩

/-- **Hints help**: they are right and as precise as they can be, and there are none where none can help. -/
theorem pushDownTypeHint_helps (operation : BinaryOperation) (type : DataType) :
    Helps operation type (operation.pushDownTypeHint (some type)) := by
  cases operation with
  | add => apply pushDown_helps .add <;> decide +kernel
  | subtract => apply pushDown_helps .subtract <;> decide +kernel
  | multiply => apply pushDown_helps .multiply <;> decide +kernel
  | divide => apply pushDown_helps .divide <;> decide +kernel
  | modulo => apply pushDown_helps .modulo <;> decide +kernel

end BinaryOperation

end Quickstep.Types
