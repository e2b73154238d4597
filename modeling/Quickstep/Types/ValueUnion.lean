import Quickstep.Lib.WordFields
import Quickstep.Types.Accumulation

/-!
# Values in memory

A `TypedValue` as it lies in memory: eight bytes of a union, and the bytes that a string points to.
The constructors and `coerceValue` do not always write all bytes of the union, nor give a string
only the bytes that it needs.
-/

namespace Quickstep.Types
open Quickstep.Lib CString WordFields

/-- A value that is not NULL. `hash64` is `value_union_`, of a string the address of its data; the
number of bytes of the data is in `value_info_`. -/
structure StoredValue where
  typeId : TypeID
  hash64 : BitVec 64
  outOfLineData : List (BitVec 8)
  deriving DecidableEq

namespace StoredValue

/-- The constructors from a literal, where the union held `before`. Only those of INT and FLOAT zero
it first. A date is six bytes long, and nothing is stored behind them. -/
def ofLiteral (before : BitVec 64) : (type : ComparedType) → type.Value → StoredValue
  | .literal (.number .int), value => ⟨.int, store (store before 0 (0#64)) 0 value, []⟩
  | .literal (.number .long), value => ⟨.long, store before 0 value, []⟩
  | .literal (.number .float), value =>
    ⟨.float, store (store before 0 (0#64)) 0 (Canonical.ofBits TypedValue.float_width value).bits, []⟩
  | .literal (.number .double), value =>
    ⟨.double, store before 0 (Canonical.ofBits TypedValue.double_width value).bits, []⟩
  | .literal .datetimeLit, ticks => ⟨.datetime, store before 0 ticks, []⟩
  | .literal .datetimeIntervalLit, intervalTicks =>
    ⟨.datetimeInterval, store before 0 intervalTicks, []⟩
  | .literal .yearMonthIntervalLit, months => ⟨.yearMonthInterval, store before 0 months, []⟩
  | .dateLit, date =>
    ⟨.date, store (store (store before 0 date.year) 32 date.month) 40 date.day, []⟩

/-- The constructor from the address and the size of some data. -/
def ofOutOfLineData (typeId : TypeID) (address : BitVec 64) (data : List (BitVec 8)) : StoredValue :=
  ⟨typeId, address, data⟩

/-- The constructor that reverses a hash. -/
def ofHash (typeId : TypeID) (hash : BitVec 64) : StoredValue := ⟨typeId, hash, []⟩

/-- What is read back: `getLiteral` of the type of the value, or its data. -/
def value (stored : StoredValue) : TypedValue :=
  match stored.typeId with
  | .int => .int (stored.hash64.setWidth 32)
  | .long => .long stored.hash64
  | .float => .float (.ofBits TypedValue.float_width (stored.hash64.setWidth 32))
  | .double => .double (.ofBits TypedValue.double_width stored.hash64)
  | .char => .char stored.outOfLineData
  | .varChar => .varChar stored.outOfLineData
  | .date =>
    .date (stored.hash64.extractLsb' 0 32) (stored.hash64.extractLsb' 32 8)
      (stored.hash64.extractLsb' 40 8)
  | .datetime => .datetime stored.hash64
  | .datetimeInterval => .datetimeInterval stored.hash64
  | .yearMonthInterval => .yearMonthInterval stored.hash64
  | .nullType => .null .nullType

theorem getTypeID_value (stored : StoredValue) : stored.value.getTypeID = stored.typeId := by
  unfold value
  cases stored.typeId <;> rfl

theorem isNull_value {stored : StoredValue} (typed : stored.typeId ≠ .nullType) :
    stored.value.isNull = false := by
  unfold value
  cases typeId : stored.typeId with
  | nullType => exact absurd typeId typed
  | int | long | float | double | char | varChar | date | datetime | datetimeInterval
  | yearMonthInterval => rfl

/-- The two bytes behind the day of a date. -/
def datePadding (stored : StoredValue) : BitVec 16 := stored.hash64.extractLsb' 48 16

end StoredValue

/-- `parseValueFromString` of the string types. The other types pass a literal to a constructor. The
text is followed by a NUL, as `c_str()` is. -/
def DataType.parseString (type : DataType) (valueString : List (BitVec 8)) : Option TypedValue :=
  match type with
  | char length _ =>
    if valueString.length > length.toNat then none
    else if valueString.length = length.toNat then some (.char valueString)
    else some (.char (valueString ++ [0]))
  | varChar length _ =>
    if valueString.length > length.toNat then none else some (.varChar (valueString ++ [0]))
  | int _ | long _ | float _ | double _ | date _ | datetime _ | datetimeInterval _
  | yearMonthInterval _ | nullType => none

/-- The values that there are: made from a literal, from stored data, from text, or by coercing a
string. Addresses and what the union held before are arbitrary. -/
inductive Produced : StoredValue → Prop where
  | literal (before : BitVec 64) (type : ComparedType) (literal : type.Value) :
    Produced (.ofLiteral before type literal)
  | stored (address : BitVec 64) {type : DataType} {value : TypedValue} : type.Stores value →
    Produced (.ofOutOfLineData value.getTypeID address value.getOutOfLineData)
  | parsed (address : BitVec 64) {type : DataType} {valueString : List (BitVec 8)}
    {value : TypedValue} : type.parseString valueString = some value →
    Produced (.ofOutOfLineData value.getTypeID address value.getOutOfLineData)
  | coerced (address : BitVec 64) (platform : Platform) {type originalType : DataType}
    {original : StoredValue} {value : TypedValue} : Produced original →
    originalType.getTypeID = original.typeId → type.getSuperTypeID = .asciiString →
    originalType.getSuperTypeID = .asciiString → type.isCoercibleFrom originalType = true →
    type.coerceValue platform original.value originalType = some value →
    Produced (.ofOutOfLineData value.getTypeID address value.getOutOfLineData)

/-! ## What the constructors store -/

section Constructors

namespace StoredValue

theorem setWidth_setWidth_int (value : BitVec 32) : (value.setWidth 64).setWidth 32 = value := by
  rw [BitVec.setWidth_setWidth_of_le value (by decide), BitVec.setWidth_eq]

theorem hash64_ofLiteral_int (before : BitVec 64) (value : BitVec 32) :
    (ofLiteral before (.literal (.number .int)) value).hash64 = value.setWidth 64 := by
  change store (store before 0 (0#64)) 0 value = _
  rw [store_full, store_zero]

/-- The fields of a date, and what lay behind them. -/
theorem fields_ofLiteral_date (before : BitVec 64) (date : DateLit) :
    (ofLiteral before .dateLit date).hash64.extractLsb' 0 32 = date.year ∧
      (ofLiteral before .dateLit date).hash64.extractLsb' 32 8 = date.month ∧
        (ofLiteral before .dateLit date).hash64.extractLsb' 40 8 = date.day ∧
          (ofLiteral before .dateLit date).datePadding = before.extractLsb' 48 16 := by
  refine ⟨?_, ?_, ?_, ?_⟩
  · change (store (store (store before 0 date.year) 32 date.month) 40 date.day).extractLsb' 0 32 = _
    rw [extractLsb'_store_of_disjoint _ _ (by decide) (.inl (by decide)),
      extractLsb'_store_of_disjoint _ _ (by decide) (.inl (by decide)),
      extractLsb'_store _ _ (by decide)]
  · change (store (store (store before 0 date.year) 32 date.month) 40 date.day).extractLsb' 32 8 = _
    rw [extractLsb'_store_of_disjoint _ _ (by decide) (.inl (by decide)),
      extractLsb'_store _ _ (by decide)]
  · exact extractLsb'_store _ _ (by decide)
  · change (store (store (store before 0 date.year) 32 date.month) 40 date.day).extractLsb' 48 16 = _
    rw [extractLsb'_store_of_disjoint _ _ (by decide) (.inr (by decide)),
      extractLsb'_store_of_disjoint _ _ (by decide) (.inr (by decide)),
      extractLsb'_store_of_disjoint _ _ (by decide) (.inr (by decide))]

/-- **What is read back** does not depend on what the union held before. -/
theorem value_ofLiteral (before : BitVec 64) (type : ComparedType) (literal : type.Value) :
    (ofLiteral before type literal).value = .ofComparedLiteral type literal := by
  rcases type with ((_ | _ | _ | _) | _ | _ | _) | _
  · change TypedValue.int ((ofLiteral before (.literal (.number .int)) literal).hash64.setWidth 32) = _
    rw [hash64_ofLiteral_int, setWidth_setWidth_int]
    rfl
  · exact congrArg TypedValue.long (store_full before literal)
  · change TypedValue.float (.ofBits _ ((store (store before 0 (0#64)) 0
      (Canonical.ofBits TypedValue.float_width literal).bits).setWidth 32)) = _
    rw [store_full, store_zero, setWidth_setWidth_int, Canonical.ofBits_bits]
    rfl
  · change TypedValue.double (.ofBits _ (store before 0
      (Canonical.ofBits TypedValue.double_width literal).bits)) = _
    rw [store_full, Canonical.ofBits_bits]
    rfl
  · exact congrArg TypedValue.datetime (store_full before literal)
  · exact congrArg TypedValue.datetimeInterval (store_full before literal)
  · exact congrArg TypedValue.yearMonthInterval (store_full before literal)
  · obtain ⟨year, month, day, -⟩ := fields_ofLiteral_date before literal
    change TypedValue.date _ _ _ = TypedValue.date _ _ _
    rw [year, month, day]

end StoredValue

end Constructors

/-! ## What every production leaves behind -/

section Produced

/-- What equality and hashing rely on: the upper bytes of an INT are zero, and a VARCHAR is
terminated. -/
structure StoredValue.WellFormed (stored : StoredValue) : Prop where
  typed : stored.typeId ≠ .nullType
  zeroed : stored.typeId = .int → stored.hash64 = (stored.hash64.setWidth 32).setWidth 64
  terminated : stored.typeId = .varChar → 0 ∈ stored.outOfLineData

/-- A string value, terminated if it is a VARCHAR. -/
structure TypedValue.IsString (value : TypedValue) : Prop where
  hasOutOfLineData : value.hasOutOfLineData = true
  terminated : value.getTypeID = .varChar → 0 ∈ value.getOutOfLineData

theorem TypedValue.isString_char (data : List (BitVec 8)) : (TypedValue.char data).IsString :=
  ⟨rfl, nofun⟩

theorem TypedValue.IsString.wellFormed {value : TypedValue} (isString : value.IsString)
    (address : BitVec 64) :
    (StoredValue.ofOutOfLineData value.getTypeID address value.getOutOfLineData).WellFormed := by
  obtain ⟨hasOutOfLineData, terminated⟩ := isString
  cases value with
  | char data =>
    exact ⟨nofun, nofun, nofun⟩
  | varChar data => exact ⟨nofun, nofun, terminated⟩
  | null _ | int _ | long _ | float _ | double _ | date _ _ _ | datetime _ | datetimeInterval _
  | yearMonthInterval _ => cases hasOutOfLineData

theorem DataType.Stores.isString {type : DataType} {value : TypedValue} (stores : type.Stores value) :
    value.IsString := by
  cases stores with
  | char _ _ => exact TypedValue.isString_char _
  | varChar ends _ => exact ⟨rfl, fun _ => ends⟩

theorem DataType.isString_of_parseString {type : DataType} {valueString : List (BitVec 8)}
    {value : TypedValue} (parsed : type.parseString valueString = some value) : value.IsString := by
  cases type with
  | char length nullable =>
    unfold parseString at parsed
    simp only at parsed
    split at parsed
    · cases parsed
    · split at parsed
      · cases parsed
        exact TypedValue.isString_char _
      · cases parsed
        exact TypedValue.isString_char _
  | varChar length nullable =>
    unfold parseString at parsed
    simp only at parsed
    split at parsed
    · cases parsed
    · cases parsed
      exact ⟨rfl, fun _ => by simp [TypedValue.getOutOfLineData]⟩
  | int _ | long _ | float _ | double _ | date _ | datetime _ | datetimeInterval _
  | yearMonthInterval _ | nullType => cases parsed

/-- A coerced VARCHAR is terminated: data is only kept if there is room behind its characters. -/
theorem coerceToVarChar_isString (length : BitVec 64) {originalType : DataType}
    {data : List (BitVec 8)} (ends : originalType.getTypeID = .varChar → 0 ∈ data) :
    (coerceToVarChar length originalType data).IsString := by
  unfold coerceToVarChar
  by_cases isVarChar : originalType.getTypeID = .varChar
  · rw [if_pos isVarChar]
    simp only
    split
    · exact ⟨rfl, fun _ => ends isVarChar⟩
    · exact ⟨rfl, fun _ => by simp [TypedValue.getOutOfLineData]⟩
  · rw [if_neg isVarChar]
    simp only
    split
    · rename_i kept
      refine ⟨rfl, fun _ => terminated_of_length_characters_lt ?_⟩
      have short := kept.2
      rwa [strnlen_eq, Nat.min_eq_right (length_characters_le data)] at short
    · exact ⟨rfl, fun _ => by simp [TypedValue.getOutOfLineData]⟩

theorem StoredValue.WellFormed.isString_of_coerceValue {original : StoredValue}
    (wellFormed : original.WellFormed) {platform : Platform} {type originalType : DataType}
    (typed : originalType.getTypeID = original.typeId) (isString : type.getSuperTypeID = .asciiString)
    (originalIsString : originalType.getSuperTypeID = .asciiString) {value : TypedValue}
    (coerced : type.coerceValue platform original.value originalType = some value) :
    value.IsString := by
  obtain ⟨data, same, ends⟩ : ∃ data, original.value.getOutOfLineData = data ∧
      (originalType.getTypeID = .varChar → 0 ∈ data) := by
    refine ⟨_, rfl, fun isVarChar => ?_⟩
    have typeId : original.typeId = .varChar := typed.symm.trans isVarChar
    unfold StoredValue.value
    rw [typeId]
    exact wellFormed.terminated typeId
  have notNull : original.value.isNull = false := by
    unfold StoredValue.value
    rw [← typed]
    cases originalType with
    | char _ _ | varChar _ _ => rfl
    | int _ | long _ | float _ | double _ | date _ | datetime _ | datetimeInterval _
    | yearMonthInterval _ | nullType => cases originalIsString
  cases type with
  | char length nullable =>
    change (if original.value.isNull then _ else some (coerceToChar length originalType
      original.value.getOutOfLineData)) = some value at coerced
    rw [notNull, same, if_neg Bool.false_ne_true] at coerced
    obtain ⟨kept, isChar⟩ := coerceToChar_eq length originalType data
    rw [isChar] at coerced
    cases coerced
    exact TypedValue.isString_char kept
  | varChar length nullable =>
    change (if original.value.isNull then _ else some (coerceToVarChar length originalType
      original.value.getOutOfLineData)) = some value at coerced
    rw [notNull, same, if_neg Bool.false_ne_true] at coerced
    cases coerced
    exact coerceToVarChar_isString length ends
  | int _ | long _ | float _ | double _ | date _ | datetime _ | datetimeInterval _
  | yearMonthInterval _ | nullType => cases isString

theorem StoredValue.wellFormed_ofLiteral (before : BitVec 64) (type : ComparedType)
    (literal : type.Value) : (ofLiteral before type literal).WellFormed := by
  rcases type with ((_ | _ | _ | _) | _ | _ | _) | _
  · refine ⟨nofun, fun _ => ?_, nofun⟩
    rw [hash64_ofLiteral_int, setWidth_setWidth_int]
  all_goals exact ⟨nofun, nofun, nofun⟩

/-- **Every production** leaves a well-formed value. -/
theorem Produced.wellFormed {stored : StoredValue} (produced : Produced stored) :
    stored.WellFormed := by
  induction produced with
  | literal before type literal => exact StoredValue.wellFormed_ofLiteral before type literal
  | stored address stores => exact stores.isString.wellFormed address
  | parsed address parsed => exact (DataType.isString_of_parseString parsed).wellFormed address
  | coerced address platform _ typed isString originalIsString _ coerced wellFormed =>
    exact (wellFormed.isString_of_coerceValue typed isString originalIsString coerced).wellFormed
      address

end Produced

end Quickstep.Types
