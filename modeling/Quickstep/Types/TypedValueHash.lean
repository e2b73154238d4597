import Quickstep.Types.ValueUnion

/-!
# Hashes and quick equality of values

`getHash` and `fastEqualCheck` read all bytes of the union of an inline value, and of a string as many
bytes as `getAsciiStringLength` says. The padding of a date and what follows the terminator of a
VARCHAR count too, though they are not part of the value.
-/

namespace Quickstep.Types
open Quickstep.Lib CString WordFields

namespace StoredValue

/-- `getHash` where `size_t` has 64 bits. The hash function of strings is `hash`. -/
def getHash (hash : List (BitVec 8) → BitVec 64) (stored : StoredValue) : BitVec 64 :=
  match stored.typeId with
  | .int | .long | .float | .double | .date | .datetime | .datetimeInterval | .yearMonthInterval =>
    stored.hash64
  | .char | .varChar => hash (stored.outOfLineData.take stored.value.getAsciiStringLength)
  | .nullType => hash stored.outOfLineData

def fastEqualCheck (stored other : StoredValue) : Bool :=
  match stored.typeId with
  | .int | .long | .float | .double | .date | .datetime | .datetimeInterval | .yearMonthInterval =>
    stored.hash64 == other.hash64
  | .char | .varChar =>
    let length := stored.value.getAsciiStringLength
    let otherLength := other.value.getAsciiStringLength
    length == otherLength && stored.outOfLineData.take length == other.outOfLineData.take length
  | .nullType =>
    stored.outOfLineData.length == other.outOfLineData.length &&
      stored.outOfLineData == other.outOfLineData

end StoredValue

/-! ## The checked comparison -/

namespace BasicComparison

variable (platform : Platform) (functor : ComparisonFunctor)

def compareLiterals (type : ComparedType) (left right : TypedValue) : Exec Bool :=
  if left.isNull || right.isNull then pure false
  else pure (functor.apply (TypedValue.literalOrder platform type left right))

def compareStrings (left right : TypedValue) : Exec Bool :=
  if left.isNull || right.isNull then pure false
  else do
    let res ← strcmpHelper left right
    pure (functor.apply (some (compare res 0)))

/-- Numbers are coerced to the unifying type first. -/
def compareNumbers (left : TypedValue) (leftType : DataType) (right : TypedValue)
    (rightType : DataType) : Option (Exec Bool) :=
  if left.isNull || right.isNull then some (pure false)
  else do
    let unifier ← TypeFactory.getUnifyingType leftType rightType
    let leftCoerced ← unifier.coerceValue platform left leftType
    let rightCoerced ← unifier.coerceValue platform right rightType
    let type ← unifier.numericType?
    some (compareLiterals platform functor (.literal (.number type)) leftCoerced rightCoerced)

/-- `none` where `LOG(FATAL)` ends the program. -/
def compareTypedValuesCheckedHelper (left : TypedValue) (leftType : DataType) (right : TypedValue)
    (rightType : DataType) : Option (Exec Bool) :=
  match leftType.getTypeID, rightType.getTypeID with
  | .date, .date => some (compareLiterals platform functor .dateLit left right)
  | .datetime, .datetime =>
    some (compareLiterals platform functor (.literal .datetimeLit) left right)
  | .datetimeInterval, .datetimeInterval =>
    some (compareLiterals platform functor (.literal .datetimeIntervalLit) left right)
  | .yearMonthInterval, .yearMonthInterval =>
    some (compareLiterals platform functor (.literal .yearMonthIntervalLit) left right)
  | .char, .char | .char, .varChar | .varChar, .char | .varChar, .varChar =>
    some (compareStrings functor left right)
  | _, _ =>
    if leftType.numericType?.isSome && rightType.numericType?.isSome then
      compareNumbers platform functor left leftType right rightType
    else none

end BasicComparison

/-! ## What the law says -/

/-- Strings with the same characters represent the same value, whatever holds them. -/
def TypedValue.SameValue (left right : TypedValue) : Prop :=
  if left.hasOutOfLineData && right.hasOutOfLineData then left.characters = right.characters
  else left = right

/-- Two values compare equal as values of any two types that they may have. -/
def ComparesEqual (platform : Platform) (left right : StoredValue) : Prop :=
  ∀ leftType rightType : DataType, leftType.getTypeID = left.typeId →
    rightType.getTypeID = right.typeId →
    BasicComparison.compareTypedValuesCheckedHelper platform .equalTo left.value leftType right.value
      rightType = some (.ok true)

/-- The law of hashing and equality for two values of one type. -/
structure Coherent (platform : Platform) (hash : List (BitVec 8) → BitVec 64)
    (left right : StoredValue) : Prop where
  found : left.value.SameValue right.value →
    left.fastEqualCheck right = true ∧ left.getHash hash = right.getHash hash
  sound : left.fastEqualCheck right = true → ComparesEqual platform left right

/-- The bytes that are not part of the value but are read: the padding of a date, and what follows
the terminator of a VARCHAR. The last byte of a VARCHAR is not read. -/
def UnwrittenAgree (left right : StoredValue) : Prop :=
  match left.typeId with
  | .date => left.datePadding = right.datePadding
  | .varChar =>
    (trailing left.outOfLineData).length = (trailing right.outOfLineData).length ∧
      (trailing left.outOfLineData).dropLast = (trailing right.outOfLineData).dropLast
  | .int | .long | .float | .double | .char | .datetime | .datetimeInterval | .yearMonthInterval
  | .nullType => True

/-! ## Inline values -/

section Inline

/-- Dates are equal in memory when their fields and their padding are. -/
theorem hash64_eq_iff_of_date {left right : BitVec 64} :
    left = right ↔
      (left.extractLsb' 0 32 = right.extractLsb' 0 32 ∧
        left.extractLsb' 32 8 = right.extractLsb' 32 8 ∧
          left.extractLsb' 40 8 = right.extractLsb' 40 8) ∧
        left.extractLsb' 48 16 = right.extractLsb' 48 16 := by
  constructor
  · rintro rfl
    exact ⟨⟨rfl, rfl, rfl⟩, rfl⟩
  · rintro ⟨⟨year, month, day⟩, padding⟩
    have whole : left.extractLsb' 0 64 = right.extractLsb' 0 64 :=
      extractLsb'_eq_of_parts (extractLsb'_eq_of_parts (extractLsb'_eq_of_parts year month) day) padding
    rwa [BitVec.extractLsb'_eq_self, BitVec.extractLsb'_eq_self] at whole

/-- What a value that is held in line is read back as tells its bytes, a date's up to its padding. -/
theorem StoredValue.hash64_eq_iff {left right : StoredValue} (leftFormed : left.WellFormed)
    (rightFormed : right.WellFormed) (same : left.typeId = right.typeId)
    (inline : left.value.hasOutOfLineData = false) (exact : left.typeId ≠ .float ∧ left.typeId ≠ .double) :
    left.hash64 = right.hash64 ↔ left.value = right.value ∧ UnwrittenAgree left right := by
  obtain ⟨leftId, leftBytes, leftData⟩ := left
  obtain ⟨rightId, rightBytes, rightData⟩ := right
  obtain rfl : leftId = rightId := same
  cases leftId with
  | int =>
    have leftZeroed : leftBytes = (leftBytes.setWidth 32).setWidth 64 := leftFormed.zeroed rfl
    have rightZeroed : rightBytes = (rightBytes.setWidth 32).setWidth 64 := rightFormed.zeroed rfl
    change leftBytes = rightBytes ↔
      TypedValue.int (leftBytes.setWidth 32) = .int (rightBytes.setWidth 32) ∧ True
    rw [and_true, TypedValue.int.injEq]
    refine ⟨fun bytes => congrArg _ bytes, fun low => ?_⟩
    rw [leftZeroed, rightZeroed, low]
  | long => exact (TypedValue.long.injEq ..).symm.to_iff.trans (and_true _).symm.to_iff
  | datetime => exact (TypedValue.datetime.injEq ..).symm.to_iff.trans (and_true _).symm.to_iff
  | datetimeInterval =>
    exact (TypedValue.datetimeInterval.injEq ..).symm.to_iff.trans (and_true _).symm.to_iff
  | yearMonthInterval =>
    exact (TypedValue.yearMonthInterval.injEq ..).symm.to_iff.trans (and_true _).symm.to_iff
  | date =>
    refine hash64_eq_iff_of_date.trans (and_congr_left fun _ => ?_)
    exact (TypedValue.date.injEq ..).symm.to_iff
  | float => exact absurd rfl exact.1
  | double => exact absurd rfl exact.2
  | char | varChar => cases inline
  | nullType => exact absurd rfl leftFormed.typed

/-- `getHash` and `fastEqualCheck` of a value that is held in line see its bytes only. -/
theorem StoredValue.inline_spec (hash : List (BitVec 8) → BitVec 64) {stored : StoredValue}
    (wellFormed : stored.WellFormed) (inline : stored.value.hasOutOfLineData = false) :
    stored.getHash hash = stored.hash64 ∧
      ∀ other, stored.fastEqualCheck other = (stored.hash64 == other.hash64) := by
  obtain ⟨typeId, bytes, data⟩ := stored
  cases typeId with
  | int | long | float | double | date | datetime | datetimeInterval | yearMonthInterval =>
    exact ⟨rfl, fun _ => rfl⟩
  | char | varChar => cases inline
  | nullType => exact absurd rfl wellFormed.typed

end Inline

/-! ## Literals compare equal to themselves -/

section Reflexive

/-- The types whose literals are compared as integers, field by field in a date. -/
def ComparedType.isExact (type : ComparedType) : Bool :=
  type != .literal (.number .float) && type != .literal (.number .double)

variable (platform : Platform)

theorem literalOrder_self {type : ComparedType} (isExact : type.isExact = true)
    (literal : type.Value) : literalOrder platform type type literal literal = some .eq := by
  rcases type with ((_ | _ | _ | _) | _ | _ | _) | _
  · exact congrArg some (compare_eq_iff_eq.mpr rfl)
  · exact congrArg some (compare_eq_iff_eq.mpr rfl)
  · cases isExact
  · cases isExact
  · exact congrArg some (compare_eq_iff_eq.mpr rfl)
  · exact congrArg some (compare_eq_iff_eq.mpr rfl)
  · exact congrArg some (compare_eq_iff_eq.mpr rfl)
  · change some (DateLit.order literal literal) = some .eq
    unfold DateLit.order
    rw [if_neg (not_not.mpr rfl), if_neg (not_not.mpr rfl), compare_eq_iff_eq.mpr rfl]

variable {value : TypedValue} (notNull : value.isNull = false)

include notNull

theorem compareLiterals_self {type : ComparedType} (isExact : type.isExact = true) :
    BasicComparison.compareLiterals platform .equalTo type value value = .ok true := by
  unfold BasicComparison.compareLiterals TypedValue.literalOrder
  rw [notNull, if_neg (by decide), literalOrder_self platform isExact]
  rfl

/-- Numbers of one type are not converted. -/
theorem compareNumbers_self {type : NumericType}
    (isExact : (ComparedType.literal (.number type)).isExact = true)
    (leftNullable rightNullable : Bool) :
    BasicComparison.compareNumbers platform .equalTo value (type.type leftNullable) value
      (type.type rightNullable) = some (.ok true) := by
  have unchanged : ∀ nullable,
      (type.type (leftNullable || rightNullable)).coerceValue platform value (type.type nullable) =
        some value := by
    intro nullable
    cases type <;> simp [NumericType.type, DataType.coerceValue, coerceToNumber, notNull,
      DataType.numericType?]
  have unified : numericTypeUnifier type type = type := by cases type <;> rfl
  have numeric : (type.type (leftNullable || rightNullable)).numericType? = some type := by
    cases type <;> rfl
  unfold BasicComparison.compareNumbers
  rw [notNull, if_neg (by decide), getUnifyingType_numeric, unified]
  change (do
    let leftCoerced ← (type.type (leftNullable || rightNullable)).coerceValue platform value
      (type.type leftNullable)
    let rightCoerced ← (type.type (leftNullable || rightNullable)).coerceValue platform value
      (type.type rightNullable)
    let common ← (type.type (leftNullable || rightNullable)).numericType?
    some (BasicComparison.compareLiterals platform .equalTo (.literal (.number common)) leftCoerced
      rightCoerced)) = some (.ok true)
  rw [unchanged, unchanged, numeric]
  exact congrArg some (compareLiterals_self platform notNull isExact)

/-- **A value that is held in line** compares equal to itself, as a value of any type it has. -/
theorem compareTypedValuesChecked_self (inline : value.hasOutOfLineData = false)
    (exact : value.getTypeID ≠ .float ∧ value.getTypeID ≠ .double) {leftType rightType : DataType}
    (leftTyped : leftType.getTypeID = value.getTypeID)
    (rightTyped : rightType.getTypeID = value.getTypeID) :
    BasicComparison.compareTypedValuesCheckedHelper platform .equalTo value leftType value rightType =
      some (.ok true) := by
  cases value with
  | null _ => cases notNull
  | char _ | varChar _ => cases inline
  | float _ => exact absurd rfl exact.1
  | double _ => exact absurd rfl exact.2
  | int _ =>
    cases leftType <;> cases leftTyped
    cases rightType <;> cases rightTyped
    rename_i leftNullable rightNullable
    exact @compareNumbers_self platform _ notNull .int rfl leftNullable rightNullable
  | long _ =>
    cases leftType <;> cases leftTyped
    cases rightType <;> cases rightTyped
    rename_i leftNullable rightNullable
    exact @compareNumbers_self platform _ notNull .long rfl leftNullable rightNullable
  | date _ _ _ | datetime _ | datetimeInterval _ | yearMonthInterval _ =>
    unfold BasicComparison.compareTypedValuesCheckedHelper
    rw [leftTyped, rightTyped]
    exact congrArg some (compareLiterals_self platform notNull rfl)

end Reflexive

/-! ## Strings -/

section Strings

variable {left right : List (BitVec 8)}

theorem getAsciiStringLength_char (data : List (BitVec 8)) :
    (TypedValue.char data).getAsciiStringLength = (CString.characters data).length :=
  (strnlen_eq data data.length).trans (Nat.min_eq_right (length_characters_le data))

/-- CHARs are compared by their characters. -/
theorem sameCharacters_iff_of_char :
    ((CString.characters left).length = (CString.characters right).length ∧
        left.take (CString.characters left).length = right.take (CString.characters left).length) ↔
      CString.characters left = CString.characters right := by
  constructor
  · rintro ⟨lengths, bytes⟩
    rw [← characters_take (le_refl (CString.characters left).length), bytes,
      characters_take lengths.ge]
  · intro same
    exact ⟨congrArg _ same, take_eq_of_characters_eq same⟩

/-- VARCHARs are compared by all bytes but the last. -/
theorem sameCharacters_iff_of_varChar (leftEnds : 0 ∈ left) (rightEnds : 0 ∈ right) :
    (left.length - 1 = right.length - 1 ∧
        left.take (left.length - 1) = right.take (left.length - 1)) ↔
      CString.characters left = CString.characters right ∧
        (trailing left).length = (trailing right).length ∧
          (trailing left).dropLast = (trailing right).dropLast := by
  have leftLong := length_characters_lt leftEnds
  have rightLong := length_characters_lt rightEnds
  constructor
  · rintro ⟨lengths, bytes⟩
    have bytes : left.dropLast = right.dropLast := by
      rw [List.dropLast_eq_take, List.dropLast_eq_take, bytes, lengths]
    have same : CString.characters left = CString.characters right := by
      rw [← characters_take (Nat.le_sub_one_of_lt leftLong), ← List.dropLast_eq_take, bytes,
        List.dropLast_eq_take, characters_take (Nat.le_sub_one_of_lt rightLong)]
    exact ⟨same, (dropLast_eq_iff_of_characters_eq leftEnds rightEnds same).mp ⟨by omega, bytes⟩⟩
  · rintro ⟨same, agree⟩
    obtain ⟨lengths, bytes⟩ := (dropLast_eq_iff_of_characters_eq leftEnds rightEnds same).mpr agree
    refine ⟨congrArg (· - 1) lengths, ?_⟩
    rw [← List.dropLast_eq_take, bytes, List.dropLast_eq_take, lengths]

/-- Strings of one kind with the same characters compare equal. -/
theorem compareStrings_char (same : CString.characters left = CString.characters right) :
    BasicComparison.compareStrings .equalTo (.char left) (.char right) = .ok true := by
  have order : BasicComparison.strcmpHelper (.char left) (.char right) = .ok 0 := by
    unfold BasicComparison.strcmpHelper
    rw [if_neg (by rintro ⟨kind, -⟩; cases kind), getAsciiStringLength_char,
      getAsciiStringLength_char, same, if_neg (Nat.lt_irrefl _), if_neg (Nat.lt_irrefl _)]
    refine (strncmp_spec (.inl ?_) (.inl (length_characters_le right))).trans ?_
    · exact same ▸ length_characters_le left
    · change Except.ok (orderSign ((CString.characters left).take _) _) = _
      rw [same, orderSign_self]
  unfold BasicComparison.compareStrings
  rw [order]
  rfl

theorem compareStrings_varChar (leftEnds : 0 ∈ left) (rightEnds : 0 ∈ right)
    (same : CString.characters left = CString.characters right) :
    BasicComparison.compareStrings .equalTo (.varChar left) (.varChar right) = .ok true := by
  have order : BasicComparison.strcmpHelper (.varChar left) (.varChar right) = .ok 0 := by
    unfold BasicComparison.strcmpHelper
    rw [if_pos ⟨rfl, rfl⟩]
    refine (strcmp_spec leftEnds rightEnds).trans ?_
    rw [same, orderSign_self]
  unfold BasicComparison.compareStrings
  rw [order]
  rfl

end Strings

/-! ## Hashes and equality -/

section Law

variable {left right : StoredValue} (leftFormed : left.WellFormed) (rightFormed : right.WellFormed)
  (same : left.typeId = right.typeId) (exact : left.typeId ≠ .float ∧ left.typeId ≠ .double)

include leftFormed rightFormed same exact

/-- **The quick check** sees the value and some bytes that are not part of it. -/
theorem fastEqualCheck_iff :
    left.fastEqualCheck right = true ↔
      left.value.SameValue right.value ∧ UnwrittenAgree left right := by
  cases inline : left.value.hasOutOfLineData with
  | false =>
    have sameValue : left.value.SameValue right.value ↔ left.value = right.value := by
      unfold TypedValue.SameValue
      rw [inline, Bool.false_and, if_neg Bool.false_ne_true]
    rw [(left.inline_spec (fun _ => 0) leftFormed inline).2 right, beq_iff_eq, sameValue]
    exact StoredValue.hash64_eq_iff leftFormed rightFormed same inline exact
  | true =>
    obtain ⟨leftId, leftBytes, leftData⟩ := left
    obtain ⟨rightId, rightBytes, rightData⟩ := right
    obtain rfl : leftId = rightId := same
    cases leftId with
    | char =>
      change (((TypedValue.char leftData).getAsciiStringLength ==
          (TypedValue.char rightData).getAsciiStringLength) &&
        leftData.take (TypedValue.char leftData).getAsciiStringLength ==
          rightData.take (TypedValue.char leftData).getAsciiStringLength) = true ↔
        CString.characters leftData = CString.characters rightData ∧ True
      rw [getAsciiStringLength_char, getAsciiStringLength_char, Bool.and_eq_true, beq_iff_eq,
        beq_iff_eq, and_true]
      exact sameCharacters_iff_of_char
    | varChar =>
      change ((leftData.length - 1 == rightData.length - 1) &&
        leftData.take (leftData.length - 1) == rightData.take (leftData.length - 1)) = true ↔
        CString.characters leftData = CString.characters rightData ∧ _
      rw [Bool.and_eq_true, beq_iff_eq, beq_iff_eq]
      exact sameCharacters_iff_of_varChar (leftFormed.terminated rfl) (rightFormed.terminated rfl)
    | int | long | float | double | date | datetime | datetimeInterval | yearMonthInterval
    | nullType => cases inline

omit exact in
/-- Values that pass the quick check have the same hash. -/
theorem getHash_eq_of_fastEqualCheck (hash : List (BitVec 8) → BitVec 64)
    (equal : left.fastEqualCheck right = true) : left.getHash hash = right.getHash hash := by
  obtain ⟨leftId, leftBytes, leftData⟩ := left
  obtain ⟨rightId, rightBytes, rightData⟩ := right
  obtain rfl : leftId = rightId := same
  cases leftId with
  | char | varChar =>
    obtain ⟨lengths, bytes⟩ := Bool.and_eq_true_iff.mp equal
    exact congrArg hash ((beq_iff_eq.mp bytes).trans
      (congrArg (rightData.take ·) (beq_iff_eq.mp lengths)))
  | int | long | float | double | date | datetime | datetimeInterval | yearMonthInterval =>
    exact beq_iff_eq.mp equal
  | nullType => exact absurd rfl leftFormed.typed

/-- Values that are the same compare equal. -/
theorem comparesEqual_of_sameValue (platform : Platform)
    (sameValue : left.value.SameValue right.value) : ComparesEqual platform left right := by
  intro leftType rightType leftTyped rightTyped
  cases inline : left.value.hasOutOfLineData with
  | false =>
    unfold TypedValue.SameValue at sameValue
    rw [inline, Bool.false_and, if_neg Bool.false_ne_true] at sameValue
    have typed : left.value.getTypeID = left.typeId := left.getTypeID_value
    rw [← sameValue]
    exact compareTypedValuesChecked_self platform (StoredValue.isNull_value leftFormed.typed) inline
      (typed ▸ exact) (leftTyped.trans typed.symm) ((rightTyped.trans same.symm).trans typed.symm)
  | true =>
    obtain ⟨leftId, leftBytes, leftData⟩ := left
    obtain ⟨rightId, rightBytes, rightData⟩ := right
    obtain rfl : leftId = rightId := same
    unfold BasicComparison.compareTypedValuesCheckedHelper
    rw [leftTyped, rightTyped]
    cases leftId with
    | char => exact congrArg some (compareStrings_char sameValue)
    | varChar =>
      exact congrArg some
        (compareStrings_varChar (leftFormed.terminated rfl) (rightFormed.terminated rfl) sameValue)
    | int | long | float | double | date | datetime | datetimeInterval | yearMonthInterval
    | nullType => cases inline

/-- The law holds of well-formed values exactly where the bytes that are not part of them agree. -/
theorem StoredValue.WellFormed.coherent_iff (platform : Platform)
    (hash : List (BitVec 8) → BitVec 64) :
    Coherent platform hash left right ↔
      (left.value.SameValue right.value → UnwrittenAgree left right) := by
  have checked := fastEqualCheck_iff leftFormed rightFormed same exact
  constructor
  · intro coherent sameValue
    exact (checked.mp (coherent.found sameValue).1).2
  · intro agree
    refine ⟨fun sameValue => ?_, fun equal => ?_⟩
    · have equal := checked.mpr ⟨sameValue, agree sameValue⟩
      exact ⟨equal, getHash_eq_of_fastEqualCheck leftFormed rightFormed same hash equal⟩
    · exact comparesEqual_of_sameValue leftFormed rightFormed same exact platform
        (checked.mp equal).1

end Law

/-! ## Values that were produced -/

section Productions

/-- The hash of a literal is reversible: it gives the value back, padding included. -/
theorem ofHash_getHash (hash : List (BitVec 8) → BitVec 64) (before : BitVec 64) (type : ComparedType)
    (literal : type.Value) :
    StoredValue.ofHash (StoredValue.ofLiteral before type literal).typeId
      ((StoredValue.ofLiteral before type literal).getHash hash) =
        .ofLiteral before type literal := by
  rcases type with ((_ | _ | _ | _) | _ | _ | _) | _ <;> rfl

/-- A date is told from itself exactly where the union held something else behind the day. -/
theorem dates_coherent_iff (platform : Platform) (hash : List (BitVec 8) → BitVec 64)
    (before before' : BitVec 64) (date : DateLit) :
    Coherent platform hash (.ofLiteral before .dateLit date) (.ofLiteral before' .dateLit date) ↔
      before.extractLsb' 48 16 = before'.extractLsb' 48 16 := by
  have sameValue : (StoredValue.ofLiteral before .dateLit date).value.SameValue
      (StoredValue.ofLiteral before' .dateLit date).value := by
    rw [StoredValue.value_ofLiteral, StoredValue.value_ofLiteral]
    exact (rfl : TypedValue.date date.year date.month date.day = _)
  have law := (StoredValue.wellFormed_ofLiteral before .dateLit date).coherent_iff
    (StoredValue.wellFormed_ofLiteral before' .dateLit date) rfl ⟨nofun, nofun⟩ platform hash
  have agree : UnwrittenAgree (.ofLiteral before .dateLit date) (.ofLiteral before' .dateLit date) ↔
      before.extractLsb' 48 16 = before'.extractLsb' 48 16 := by
    rw [← (StoredValue.fields_ofLiteral_date before date).2.2.2,
      ← (StoredValue.fields_ofLiteral_date before' date).2.2.2]
    exact Iff.rfl
  rw [law, agree, imp_iff_right sameValue]

/-- **The law of hashing and equality** holds of two values, however they were produced, exactly if
they do not represent the same value or the padding of dates and the bytes behind the terminators of
VARCHARs agree. -/
theorem hashEquality_coherent_iff (platform : Platform) (hash : List (BitVec 8) → BitVec 64)
    {left right : StoredValue} (leftProduced : Produced left) (rightProduced : Produced right)
    (same : left.typeId = right.typeId) (exact : left.typeId ≠ .float ∧ left.typeId ≠ .double) :
    Coherent platform hash left right ↔
      (left.value.SameValue right.value → UnwrittenAgree left right) :=
  leftProduced.wellFormed.coherent_iff rightProduced.wellFormed same exact platform hash

/-- The first of January 2000 where the union held zero, and where it held ones. -/
def newYear (before : BitVec 64) : StoredValue :=
  .ofLiteral before .dateLit ⟨2000#32, 1#8, 1#8⟩

/-- The unions agree in the two bytes behind the day, or they do not. -/
theorem hashEquality_coherent_iff_newYear :
    Coherent integerPlatform (fun _ => 0) (newYear 0) (newYear 0xFFFF#64) ∧
      ¬Coherent integerPlatform (fun _ => 0) (newYear 0) (newYear (BitVec.allOnes 64)) := by
  have law (before : BitVec 64) : Coherent integerPlatform (fun _ => 0) (newYear 0) (newYear before) ↔ _ :=
    hashEquality_coherent_iff integerPlatform (fun _ => 0) (.literal _ .dateLit _)
      (.literal _ .dateLit _) rfl (by decide)
  constructor
  · refine (law _).mpr fun _ => ?_
    show (newYear 0).datePadding = (newYear 0xFFFF#64).datePadding
    decide
  · intro coherent
    have agree : (newYear 0).datePadding = (newYear (BitVec.allOnes 64)).datePadding := by
      refine (law _).mp coherent ?_
      unfold newYear
      rw [StoredValue.value_ofLiteral, StoredValue.value_ofLiteral]
      exact (rfl : TypedValue.date 2000#32 1#8 1#8 = .date 2000#32 1#8 1#8)
    exact absurd agree (by decide)

/-- The law does not hold of all values that are produced. -/
theorem not_hashEquality_coherent :
    ¬∀ (platform : Platform) (hash : List (BitVec 8) → BitVec 64) (left right : StoredValue),
      Produced left → Produced right → left.typeId = right.typeId →
      left.typeId ≠ .float ∧ left.typeId ≠ .double → Coherent platform hash left right := by
  intro coherent
  have law := coherent integerPlatform (fun _ => 0) (newYear 0) (newYear (BitVec.allOnes 64))
    (.literal _ .dateLit _) (.literal _ .dateLit _) rfl (by decide)
  have sameValue : (newYear 0).value.SameValue (newYear (BitVec.allOnes 64)).value := by
    unfold newYear
    rw [StoredValue.value_ofLiteral, StoredValue.value_ofLiteral]
    exact (rfl : TypedValue.date 2000#32 1#8 1#8 = .date 2000#32 1#8 1#8)
  have differ : (newYear 0).fastEqualCheck (newYear (BitVec.allOnes 64)) = false := by decide
  exact Bool.false_ne_true (differ.symm.trans (law.found sameValue).1)

end Productions

end Quickstep.Types
