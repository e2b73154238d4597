import Quickstep.Types.Literals

/-!
# Coercion

The methods of `Type` that relate two types, `TypeFactory::GetUnifyingType`, and `coerceValue` of
every type.
-/

namespace Quickstep.Types

inductive SuperTypeID where
  | numeric | asciiString | other
  deriving DecidableEq, Repr

namespace DataType

def getSuperTypeID : DataType → SuperTypeID
  | int _ | long _ | float _ | double _ => .numeric
  | char _ _ | varChar _ _ => .asciiString
  | date _ | datetime _ | datetimeInterval _ | yearMonthInterval _ | nullType => .other

/-- Only strings have a string length. -/
def getStringLength : DataType → BitVec 64
  | char length _ | varChar length _ => length
  | int _ | long _ | float _ | double _ | date _ | datetime _ | datetimeInterval _
  | yearMonthInterval _ | nullType => 0

def getNullableVersion : DataType → DataType
  | int _ => .int true
  | long _ => .long true
  | float _ => .float true
  | double _ => .double true
  | char length _ => .char length true
  | varChar length _ => .varChar length true
  | date _ => .date true
  | datetime _ => .datetime true
  | datetimeInterval _ => .datetimeInterval true
  | yearMonthInterval _ => .yearMonthInterval true
  | nullType => .nullType

/-- `QUICKSTEP_NULL_COERCIBILITY_CHECK`, before the `otherwise` of the method that uses it. -/
def nullCoercibilityCheck (type originalType : DataType) (otherwise : Bool) : Bool :=
  if originalType.isNullable && !type.isNullable then false
  else if originalType.getTypeID = .nullType then true
  else otherwise

def isCoercibleFrom (type originalType : DataType) : Bool :=
  match type with
  | int _ | long _ | float _ | double _ =>
    nullCoercibilityCheck type originalType (originalType.getSuperTypeID = .numeric)
  | char _ _ | varChar _ _ =>
    nullCoercibilityCheck type originalType (originalType.getSuperTypeID = .asciiString)
  | date _ | datetime _ | datetimeInterval _ | yearMonthInterval _ =>
    nullCoercibilityCheck type originalType (originalType.getTypeID = type.getTypeID)
  | nullType => originalType.getTypeID = .nullType

def isSafelyCoercibleFrom (type originalType : DataType) : Bool :=
  match type with
  | int _ => nullCoercibilityCheck type originalType (originalType matches .int _)
  | long _ => nullCoercibilityCheck type originalType (originalType matches .int _ | .long _)
  | float _ => nullCoercibilityCheck type originalType (originalType matches .int _ | .float _)
  | double _ =>
    nullCoercibilityCheck type originalType
      (originalType matches .int _ | .long _ | .float _ | .double _)
  | char length _ =>
    nullCoercibilityCheck type originalType <|
      match originalType with
      | char _ _ => originalType.maximumByteLength ≤ length
      | varChar _ _ => originalType.maximumByteLength - 1 ≤ length
      | _ => false
  | varChar length _ =>
    nullCoercibilityCheck type originalType <|
      match originalType with
      | char _ _ => originalType.maximumByteLength ≤ length
      | varChar _ _ => originalType.maximumByteLength ≤ length + 1
      | _ => false
  | date _ | datetime _ | datetimeInterval _ | yearMonthInterval _ =>
    nullCoercibilityCheck type originalType (originalType.getTypeID = type.getTypeID)
  | nullType => originalType.getTypeID = .nullType

/-- A VARCHAR is also subsumed by a longer one. -/
def isSubsumedBy (type other : DataType) : Bool :=
  type == other || type.getNullableVersion == other ||
    match type, other with
    | varChar _ nullable, varChar _ _ =>
      type.maximumByteLength ≤ other.maximumByteLength && (!nullable || other.isNullable)
    | _, _ => false

theorem isNullable_of_isSubsumedBy {type other : DataType} (subsumed : type.isSubsumedBy other = true)
    (nullable : type.isNullable = true) : other.isNullable = true := by
  simp only [isSubsumedBy, Bool.or_eq_true, beq_iff_eq] at subsumed
  rcases subsumed with (rfl | rfl) | longer
  · exact nullable
  · cases type <;> rfl
  · split at longer
    · have nullableToo := (Bool.and_eq_true_iff.mp longer).2
      simp only [isNullable] at nullable
      simpa [nullable] using nullableToo
    · cases longer

theorem getTypeID_of_isSubsumedBy {type other : DataType}
    (subsumed : type.isSubsumedBy other = true) : type.getTypeID = other.getTypeID := by
  simp only [isSubsumedBy, Bool.or_eq_true, beq_iff_eq] at subsumed
  rcases subsumed with (rfl | rfl) | longer
  · rfl
  · cases type <;> rfl
  · split at longer
    · rfl
    · cases longer

end DataType

/-! ## Unifying types -/

namespace TypeFactory

def getMostSpecificType (first second : DataType) : Option DataType :=
  if first.isSafelyCoercibleFrom second then some first
  else if second.isSafelyCoercibleFrom first then some second
  else none

/-- No numeric type other than DOUBLE holds both a LONG and a FLOAT. -/
def getUnifyingType (first second : DataType) : Option DataType :=
  let nullable := first.isNullable || second.isNullable
  let unifier :=
    if nullable then getMostSpecificType first.getNullableVersion second.getNullableVersion
    else getMostSpecificType first second
  match unifier, first, second with
  | none, .long _, .float _ | none, .float _, .long _ => some (.double nullable)
  | unifier, _, _ => unifier

end TypeFactory

/-- `NumericTypeUnifier`. -/
def numericTypeUnifier : NumericType → NumericType → NumericType
  | .int, .int => .int
  | .int, .long | .long, .int | .long, .long => .long
  | .int, .float | .float, .int | .float, .float => .float
  | .int, .double | .long, .float | .long, .double | .float, .long | .float, .double => .double
  | .double, .int | .double, .long | .double, .float | .double, .double => .double

/-- On numeric types the two ways of unifying agree. -/
theorem getUnifyingType_numeric (first second : NumericType) (firstNullable secondNullable : Bool) :
    TypeFactory.getUnifyingType (first.type firstNullable) (second.type secondNullable) =
      some ((numericTypeUnifier first second).type (firstNullable || secondNullable)) := by
  cases first <;> cases second <;> cases firstNullable <;> cases secondNullable <;> rfl

/-! ## Coercing values -/

/-- The position of the first NUL among the first `maxLength` characters. -/
def strnlen (data : List (BitVec 8)) (maxLength : Nat) : Nat :=
  ((data.take maxLength).takeWhile (· ≠ 0)).length

/-- The data that a string value points to. -/
def TypedValue.getOutOfLineData : TypedValue → List (BitVec 8)
  | char data | varChar data => data
  | null _ | int _ | long _ | float _ | double _ | date _ _ _ | datetime _ | datetimeInterval _
  | yearMonthInterval _ => []

/-- `getAsciiStringLength`: a VARCHAR ends with its terminator. -/
def TypedValue.getAsciiStringLength : TypedValue → Nat
  | char data => strnlen data data.length
  | varChar data => data.length - 1
  | null _ | int _ | long _ | float _ | double _ | date _ _ _ | datetime _ | datetimeInterval _
  | yearMonthInterval _ => 0

/-- `CharType::coerceValue` of a string. -/
def coerceToChar (length : BitVec 64) (originalType : DataType) (data : List (BitVec 8)) :
    TypedValue :=
  let nullTerminated := originalType.getTypeID = .varChar ∨
    data.length < originalType.maximumByteLength.toNat ∨ 0 ∈ data
  if data.length ≤ length.toNat then
    if nullTerminated ∨ data.length = length.toNat then .char data else .char (data ++ [0])
  else .char (data.take length.toNat)

/-- `VarCharType::coerceValue` of a string. -/
def coerceToVarChar (length : BitVec 64) (originalType : DataType) (data : List (BitVec 8)) :
    TypedValue :=
  let originalLength :=
    if originalType.getTypeID = .varChar then data.length - 1 else strnlen data data.length
  if originalLength ≤ length.toNat ∧ originalLength < data.length then .varChar data
  else .varChar (data.take (min originalLength length.toNat) ++ [0])

/-- `coerceValue` of the numeric types; `none` where `LOG(FATAL)` ends the program. -/
def coerceToNumber (platform : Platform) (type : NumericType) (originalValue : TypedValue)
    (originalType : DataType) : Option TypedValue :=
  if originalValue.isNull then some (.null type.typeId)
  else
    originalType.numericType?.map fun original =>
      if original = type then originalValue
      else
        .ofLiteral (.number type)
          (staticCast platform original type (originalValue.getLiteral (.number original)))

/-- `coerceValue`; `none` where `LOG(FATAL)` ends the program. -/
def DataType.coerceValue (platform : Platform) (type : DataType) (originalValue : TypedValue)
    (originalType : DataType) : Option TypedValue :=
  match type with
  | int _ => coerceToNumber platform .int originalValue originalType
  | long _ => coerceToNumber platform .long originalValue originalType
  | float _ => coerceToNumber platform .float originalValue originalType
  | double _ => coerceToNumber platform .double originalValue originalType
  | char length _ =>
    if originalValue.isNull then some (.null .char)
    else some (coerceToChar length originalType originalValue.getOutOfLineData)
  | varChar length _ =>
    if originalValue.isNull then some (.null .varChar)
    else some (coerceToVarChar length originalType originalValue.getOutOfLineData)
  | date _ | datetime _ | datetimeInterval _ | yearMonthInterval _ | nullType =>
    if originalType.getTypeID = .nullType then some (.null type.getTypeID) else some originalValue

/-- A returned value: it has the `TypeID` of the type, and is NULL where it should be. -/
structure DataType.Returns (type : DataType) (null : Bool) (value : TypedValue) : Prop where
  typeId : value.getTypeID = type.getTypeID
  isNull : value.isNull = null

theorem coerceToChar_eq (length : BitVec 64) (originalType : DataType) (data : List (BitVec 8)) :
    ∃ coerced, coerceToChar length originalType data = .char coerced := by
  unfold coerceToChar
  simp only
  split
  · split <;> exact ⟨_, rfl⟩
  · exact ⟨_, rfl⟩

theorem coerceToVarChar_eq (length : BitVec 64) (originalType : DataType) (data : List (BitVec 8)) :
    ∃ coerced, coerceToVarChar length originalType data = .varChar coerced := by
  unfold coerceToVarChar
  generalize (if originalType.getTypeID = .varChar then data.length - 1
    else strnlen data data.length) = originalLength
  simp only
  split <;> exact ⟨_, rfl⟩

section CoerceValue

variable {platform : Platform} {originalValue : TypedValue} {originalType : DataType}

/-- A value that is not NULL has a type other than `NullType`. -/
theorem DataType.Admits.ne_nullType (admits : originalType.Admits originalValue)
    (notNull : originalValue.isNull = false) : originalType.getTypeID ≠ .nullType := by
  intro isNullType
  have typeId := admits.typeId
  rw [isNullType] at typeId
  cases originalValue with
  | null _ => cases notNull
  | int _ | long _ | float _ | double _ | char _ | varChar _ | date _ _ _ | datetime _
  | datetimeInterval _ | yearMonthInterval _ => cases typeId

/-- The check of a value that is not NULL is left to the method. -/
theorem DataType.Admits.otherwise {type : DataType} {otherwise : Bool}
    (admits : originalType.Admits originalValue) (notNull : originalValue.isNull = false)
    (check : type.nullCoercibilityCheck originalType otherwise = true) : otherwise = true := by
  unfold nullCoercibilityCheck at check
  rw [if_neg (admits.ne_nullType notNull)] at check
  split at check
  · cases check
  · exact check

theorem coerceToNumber_returns (type : NumericType) (nullable : Bool) {check : DataType}
    (admits : originalType.Admits originalValue)
    (coercible : check.nullCoercibilityCheck originalType (originalType.getSuperTypeID = .numeric) =
      true) :
    ∃ value, coerceToNumber platform type originalValue originalType = some value ∧
      (type.type nullable).Returns originalValue.isNull value := by
  unfold coerceToNumber
  cases null : originalValue.isNull with
  | true => exact ⟨_, if_pos rfl, (type.getTypeID_type nullable).symm, rfl⟩
  | false =>
    obtain ⟨original, isNumeric⟩ : ∃ original, originalType.numericType? = some original := by
      have isNumeric := admits.otherwise null coercible
      revert isNumeric
      cases originalType <;> simp [DataType.getSuperTypeID, DataType.numericType?]
    have originalId : originalValue.getTypeID = original.typeId := by
      rw [admits.typeId, DataType.eq_type_of_numericType? isNumeric, NumericType.getTypeID_type]
    refine ⟨_, by rw [if_neg (by simp), isNumeric, Option.map_some], ?_⟩
    split
    · rename_i same
      exact ⟨by rw [originalId, same, NumericType.getTypeID_type], null⟩
    · exact ⟨by simp [CppType.typeId], by simp⟩

/-- `coerceValue` of a type without conversions of its own. -/
theorem coerceSame_returns (type : DataType) (admits : originalType.Admits originalValue)
    (coercible : type.nullCoercibilityCheck originalType (originalType.getTypeID = type.getTypeID) =
      true) :
    ∃ value, (if originalType.getTypeID = .nullType then some (.null type.getTypeID)
        else some originalValue) = some value ∧ type.Returns originalValue.isNull value := by
  by_cases isNullType : originalType.getTypeID = .nullType
  · refine ⟨_, if_pos isNullType, rfl, ?_⟩
    cases null : originalValue.isNull with
    | true => rfl
    | false => exact absurd isNullType (admits.ne_nullType null)
  · refine ⟨_, if_neg isNullType, ?_, rfl⟩
    unfold DataType.nullCoercibilityCheck at coercible
    rw [if_neg isNullType] at coercible
    split at coercible
    · cases coercible
    · exact admits.typeId.trans (of_decide_eq_true coercible)

theorem coerceString_returns (type : DataType) (coerced : TypedValue)
    (typeId : coerced.getTypeID = type.getTypeID) (notNull : coerced.isNull = false) :
    ∃ value, (if originalValue.isNull then some (.null type.getTypeID) else some coerced) =
      some value ∧ type.Returns originalValue.isNull value := by
  cases null : originalValue.isNull with
  | true => exact ⟨_, if_pos rfl, rfl, rfl⟩
  | false => exact ⟨_, if_neg (by simp), typeId, notNull⟩

/-- **Coercion yields the type**: a value that may be coerced becomes a value of the type. -/
theorem DataType.coerceValue_returns (platform : Platform) (type : DataType)
    (admits : originalType.Admits originalValue)
    (coercible : type.isCoercibleFrom originalType = true) :
    ∃ value, type.coerceValue platform originalValue originalType = some value ∧
      type.Returns originalValue.isNull value := by
  cases type with
  | int nullable => exact coerceToNumber_returns .int nullable admits coercible
  | long nullable => exact coerceToNumber_returns .long nullable admits coercible
  | float nullable => exact coerceToNumber_returns .float nullable admits coercible
  | double nullable => exact coerceToNumber_returns .double nullable admits coercible
  | char length nullable =>
    obtain ⟨data, coerced⟩ :=
      coerceToChar_eq length originalType originalValue.getOutOfLineData
    rw [coerceValue, coerced]
    exact coerceString_returns (.char length nullable) (.char data) rfl rfl
  | varChar length nullable =>
    obtain ⟨data, coerced⟩ :=
      coerceToVarChar_eq length originalType originalValue.getOutOfLineData
    rw [coerceValue, coerced]
    exact coerceString_returns (.varChar length nullable) (.varChar data) rfl rfl
  | date _ | datetime _ | datetimeInterval _ | yearMonthInterval _ =>
    exact coerceSame_returns _ admits coercible
  | nullType =>
    have isNullType : originalType.getTypeID = .nullType := of_decide_eq_true coercible
    refine coerceSame_returns .nullType admits ?_
    unfold nullCoercibilityCheck
    rw [if_pos isNullType, if_neg (by simp [isNullable])]

end CoerceValue

end Quickstep.Types
