import Quickstep.Types.ColumnVector

/-!
# Column vectors as lists

Whatever is written to a column vector in a history that its checks allow, it has the size of the plain
list of the values written, and these values are read back from it, strings as strings.
-/

namespace Quickstep.Types
open Quickstep.Lib Quickstep.Utility Bytes

/-- A stored value of some type; only a string has data outside. -/
structure StoredValue.IsValue (value : StoredValue) : Prop where
  wellFormed : value.WellFormed
  inline : value.typeId ≠ .char → value.typeId ≠ .varChar → value.outOfLineData = []

theorem TypedValue.IsString.isValue {value : TypedValue} (isString : value.IsString)
    (address : BitVec 64) :
    (StoredValue.ofOutOfLineData value.getTypeID address value.getOutOfLineData).IsValue := by
  refine ⟨isString.wellFormed address, fun notChar notVarChar => ?_⟩
  have hasData := isString.hasOutOfLineData
  cases value with
  | char _ => exact absurd rfl notChar
  | varChar _ => exact absurd rfl notVarChar
  | null _ | int _ | long _ | float _ | double _ | date _ _ _ | datetime _ | datetimeInterval _
  | yearMonthInterval _ => cases hasData

/-- Whatever is made from a literal, from stored data, from text or by coercion is a value. -/
theorem Produced.isValue {stored : StoredValue} (produced : Produced stored) : stored.IsValue := by
  cases produced with
  | literal before type literal =>
    refine ⟨StoredValue.wellFormed_ofLiteral before type literal, fun _ _ => ?_⟩
    rcases type with ((_ | _ | _ | _) | _ | _ | _) | _ <;> rfl
  | stored address stores => exact stores.isString.isValue address
  | parsed address parsed => exact (DataType.isString_of_parseString parsed).isValue address
  | coerced address platform original typed isString originalIsString _ coerced =>
    have wellFormed := original.wellFormed
    exact (wellFormed.isString_of_coerceValue typed isString originalIsString coerced).isValue address

namespace NativeColumnVector

/-- What is written at one position of a native column vector. -/
inductive Value where
  | null
  | untyped (value : List (BitVec 8))
  | directWrite (bytes : List (BitVec 8))
  | typed (value : PassedValue)

namespace Value

/-- The value that is meant. -/
def meaning (type : DataType) : Value → TypedValue
  | null => type.makeNullValue
  | untyped value => type.makeValue value
  | directWrite bytes => type.makeValue bytes
  | typed value => value.value

def isNull : Value → Bool
  | null => true
  | untyped _ | directWrite _ => false
  | typed value => value.isNull

/-- The checks of a write, and that untyped values have the length of the type. Only a CHAR may be
written in part, with its terminator. -/
def Checked (type : DataType) : Value → Prop
  | null => type.isNullable = true
  | untyped value => type.getTypeID ≠ .nullType ∧ value.length = type.typeLength
  | directWrite bytes =>
    type.getTypeID ≠ .nullType ∧
      (bytes.length = type.typeLength ∨
        type.getTypeID = .char ∧ bytes.length < type.typeLength ∧ 0 ∈ bytes)
  | typed value =>
    value.isPlausibleInstanceOf type = true ∧ ∀ stored, value = .stored stored → stored.IsValue

end Value

variable {type : DataType} {reserved_length_ : Nat}

/-- One write. -/
def write (column : NativeColumnVector type reserved_length_) :
    Write Value → NativeColumnVector type reserved_length_
  | .append .null => column.appendNullValue
  | .append (.untyped value) => column.appendUntypedValue value
  | .append (.directWrite bytes) => column.directWrite bytes
  | .append (.typed value) => column.appendTypedValue value
  | .fill .null => column.fillWithNulls
  | .fill (.typed value) => column.fillWithValue value
  | .prepareForPositionalWrites => column.prepareForPositionalWrites
  | .positionalWrite position .null => column.positionalWriteNullValue position
  | .positionalWrite position (.untyped value) => column.positionalWriteUntypedValue position value
  | .positionalWrite position (.typed value) => column.positionalWriteTypedValue position value
  | .fill (.untyped _) | .fill (.directWrite _) | .positionalWrite _ (.directWrite _) => column

/-- The writes that there are, with their checks. -/
def Checked (type : DataType) : Write Value → Prop
  | .append value => value.Checked type
  | .fill value => value.Checked type ∧ (value = .null ∨ ∃ typed, value = .typed typed)
  | .prepareForPositionalWrites => True
  | .positionalWrite _ value => value.Checked type ∧ ∀ bytes, value ≠ .directWrite bytes

/-- A NULL of the type is meant. -/
theorem Value.Checked.meant {value : Value} (checked : value.Checked type) (isNull : value.isNull = true) :
    value.meaning type = type.makeNullValue := by
  cases value with
  | null => rfl
  | untyped _ | directWrite _ => cases isNull
  | typed value =>
    cases value with
    | stored _ => cases isNull
    | null typeId =>
      have sameType := eq_of_beq (Bool.and_eq_true_iff.mp checked.1).1
      exact congrArg TypedValue.null sameType

/-! ## Bytes of values -/

theorem SameValue.refl (value : TypedValue) : value.SameValue value := by
  unfold TypedValue.SameValue
  split <;> rfl

/-- Bytes that fill a position, or end in it. -/
def Fits (type : DataType) (bytes : List (BitVec 8)) : Prop :=
  bytes.length = type.typeLength ∨
    type.getTypeID = .char ∧ bytes.length < type.typeLength ∧ 0 ∈ bytes

/-- What fits is read back. -/
theorem Fits.sameValue {bytes : List (BitVec 8)} (fits : Fits type bytes) (memory : WordMemory 8)
    (dest : Nat) :
    (type.makeValue bytes).SameValue
      (type.makeValue (read (memcpy memory dest bytes) dest type.typeLength)) := by
  rcases fits with full | ⟨isChar, short, ends⟩
  · rw [read_memcpy_of_length full]
    exact SameValue.refl _
  · rw [read_memcpy short.le]
    unfold DataType.makeValue StoredValue.value
    rw [isChar]
    exact (CString.characters_append ends _).symm

theorem getTypeID_makeValue (bytes : List (BitVec 8)) :
    (type.makeValue bytes).getTypeID = type.getTypeID :=
  StoredValue.getTypeID_value _

/-- What plausibility says of the data. -/
theorem of_isPlausibleInstanceOf {value : StoredValue}
    (isPlausible : (PassedValue.stored value).isPlausibleInstanceOf type = true) :
    value.typeId = type.getTypeID ∧
      (type.getTypeID = .char → value.outOfLineData.length = type.getStringLength.toNat ∨
        value.outOfLineData.length < type.getStringLength.toNat ∧ 0 ∈ value.outOfLineData) ∧
      (type.getTypeID = .varChar →
        value.outOfLineData.length ≤ (type.getStringLength + 1).toNat) := by
  unfold PassedValue.isPlausibleInstanceOf at isPlausible
  rw [Bool.and_eq_true, beq_iff_eq] at isPlausible
  obtain ⟨sameType, data⟩ := isPlausible
  refine ⟨sameType, fun isChar => ?_, fun isVarChar => ?_⟩
  · rw [sameType, isChar] at data
    simp only at data
    split at data
    · next full => exact .inl full
    · split at data
      · next short => exact .inr ⟨short, List.contains_iff_mem.mp data⟩
      · cases data
  · rw [sameType, isVarChar] at data
    exact of_decide_eq_true data

/-- An inline value is stored in as many bytes as its type takes. -/
theorem copyInto_inline {value : StoredValue} (isValue : value.IsValue)
    (sameType : value.typeId = type.getTypeID) (notChar : type.getTypeID ≠ .char)
    (notVarChar : type.getTypeID ≠ .varChar) :
    value.copyInto.length = type.typeLength ∧ type.makeValue value.copyInto = value.value := by
  have noData := isValue.inline (sameType ▸ notChar) (sameType ▸ notVarChar)
  have typed := isValue.wellFormed.typed
  have four : (ofLittleEndian 64 (littleEndian 4 value.hash64)).setWidth 32 =
      value.hash64.setWidth 32 := by
    rw [setWidth_ofLittleEndian _ (by decide)]
    exact ofLittleEndian_littleEndian value.hash64 (Nat.le_refl 32)
  have eight : ofLittleEndian 64 (littleEndian 8 value.hash64) = value.hash64 :=
    (ofLittleEndian_littleEndian value.hash64 (Nat.le_refl 64)).trans (BitVec.setWidth_eq _)
  unfold StoredValue.copyInto DataType.makeValue StoredValue.value
  rw [noData, if_neg (not_not_intro List.length_nil), sameType]
  rw [sameType] at typed
  cases type with
  | int _ | float _ =>
    refine ⟨length_littleEndian 4 _, ?_⟩
    simp only [DataType.getTypeID, four]
  | long _ | double _ | date _ | datetime _ | datetimeInterval _ | yearMonthInterval _ =>
    refine ⟨length_littleEndian 8 _, ?_⟩
    simp only [DataType.getTypeID, eight]
  | char _ _ => exact absurd rfl notChar
  | varChar _ _ => exact absurd rfl notVarChar
  | nullType => exact absurd rfl typed

theorem typeLength_of_varChar (usable : usableForType type = true) (isVarChar : type.getTypeID = .varChar) :
    type.typeLength = 1 ∧ (type.getStringLength + 1).toNat = 1 := by
  cases type with
  | varChar length nullable =>
    have same : (1 : BitVec 64) = length + 1 := by
      simpa [usableForType, DataType.isVariableLength, DataType.minimumByteLength,
        DataType.maximumByteLength] using usable
    show (length + 1).toNat = 1 ∧ (length + 1).toNat = 1
    rw [← same]
    exact ⟨rfl, rfl⟩
  | int _ | long _ | float _ | double _ | char _ _ | date _ | datetime _ | datetimeInterval _
  | yearMonthInterval _ | nullType => cases isVarChar

theorem typeLength_of_char (isChar : type.getTypeID = .char) :
    type.typeLength = type.getStringLength.toNat := by
  cases type with
  | char length nullable => rfl
  | int _ | long _ | float _ | double _ | varChar _ _ | date _ | datetime _ | datetimeInterval _
  | yearMonthInterval _ | nullType => cases isChar

/-- A string is stored as its bytes, if it has any. -/
theorem copyInto_string {value : StoredValue} (sameType : value.typeId = type.getTypeID)
    (isString : type.getTypeID = .char ∨ type.getTypeID = .varChar) :
    (value.outOfLineData ≠ [] → value.copyInto = value.outOfLineData) ∧
      type.makeValue value.outOfLineData = value.value := by
  constructor
  · intro some
    exact if_pos (some ∘ List.eq_nil_of_length_eq_zero)
  · unfold DataType.makeValue StoredValue.value
    rw [sameType]
    rcases isString with isChar | isVarChar
    · rw [isChar]
    · rw [isVarChar]

/-- **A stored value** goes into the room of its type, and is read back. The type CHAR(0) has no room,
and a CHAR without bytes is copied as the eight bytes of the union; they go past the room, which is not
read. -/
theorem copyInto_spec (usable : usableForType type = true) {value : StoredValue}
    (isValue : value.IsValue)
    (isPlausible : (PassedValue.stored value).isPlausibleInstanceOf type = true) :
    (value.copyInto.length ≤ type.typeLength ∨ type.typeLength = 0) ∧
      ∀ memory dest, value.value.SameValue
        (type.makeValue (read (memcpy memory dest value.copyInto) dest type.typeLength)) := by
  obtain ⟨sameType, asChar, asVarChar⟩ := of_isPlausibleInstanceOf isPlausible
  have ofFits {bytes : List (BitVec 8)} (fits : Fits type bytes) (stored : value.copyInto = bytes)
      (read : type.makeValue bytes = value.value) : (value.copyInto.length ≤ type.typeLength ∨
        type.typeLength = 0) ∧ ∀ memory dest, value.value.SameValue
        (type.makeValue (Bytes.read (memcpy memory dest value.copyInto) dest type.typeLength)) := by
    rw [stored, ← read]
    refine ⟨.inl ?_, fits.sameValue⟩
    rcases fits with full | short
    · exact full.le
    · exact short.2.1.le
  by_cases isChar : type.getTypeID = .char
  · obtain ⟨stored, meant⟩ := copyInto_string sameType (.inl isChar)
    rw [← typeLength_of_char isChar] at asChar
    by_cases none : value.outOfLineData = []
    · -- No bytes: the type has no room either, and nothing is read.
      have noRoom : type.typeLength = 0 := by
        rcases asChar isChar with full | ⟨-, ends⟩
        · rw [← full, none, List.length_nil]
        · rw [none] at ends
          cases ends
      refine ⟨.inr noRoom, fun memory dest => ?_⟩
      rw [noRoom, ← meant, none]
      exact SameValue.refl _
    · apply ofFits _ (stored none) meant
      rcases asChar isChar with full | short
      · exact .inl full
      · exact .inr ⟨isChar, short⟩
  · by_cases isVarChar : type.getTypeID = .varChar
    · obtain ⟨stored, meant⟩ := copyInto_string sameType (.inr isVarChar)
      obtain ⟨room, limit⟩ := typeLength_of_varChar usable isVarChar
      have ends := isValue.wellFormed.terminated (sameType.trans isVarChar)
      have some := List.ne_nil_of_mem ends
      apply ofFits _ (stored some) meant
      left
      have atMost := asVarChar isVarChar
      have atLeast := List.length_pos_of_ne_nil some
      omega
    · obtain ⟨full, meant⟩ := copyInto_inline isValue sameType isChar isVarChar
      exact ofFits (.inl full) rfl meant

/-! ## What a write does -/

section Effects

variable {column : NativeColumnVector type reserved_length_}

/-- A value is written at a position, and everything else is as it was. -/
structure WritesAt (column column' : NativeColumnVector type reserved_length_) (position : Nat)
    (value : Value) : Prop where
  bitmap : column'.null_bitmap_.isSome = column.null_bitmap_.isSome
  nullBit : ∀ i < reserved_length_, column'.nullBit i =
    if i = position then column.nullBit i || value.isNull else column.nullBit i
  others : ∀ i, i ≠ position → column'.cell i = column.cell i
  value : value.isNull = false →
    (value.meaning type).SameValue (type.makeValue (column'.cell position))

theorem WritesAt.grow {column' : NativeColumnVector type reserved_length_} {position : Nat}
    {value : Value} (writes : WritesAt column column' position value) :
    WritesAt column column'.grow position value :=
  ⟨writes.bitmap, writes.nullBit, writes.others, writes.value⟩

theorem nullBit_setNull (nullable : column.null_bitmap_.isSome = true) (position : Nat) {i : Nat}
    (inside : i < reserved_length_) :
    (column.setNull position).nullBit i = if i = position then true else column.nullBit i := by
  obtain ⟨bitmap, present⟩ := Option.isSome_iff_exists.mp nullable
  unfold nullBit setNull
  rw [present, Option.map_some, Option.any_some, Option.any_some, BitVector.getBit_eq,
    BitVector.getBit_eq, BitVector.storedBit_setBit (BitVector.lt_storage inside)]

/-- The bytes at other positions are not changed. Where the type has no room a position has no bytes,
whatever is written over its end. -/
theorem cell_store_of_ne {position i : Nat} {bytes : List (BitVec 8)} (other : i ≠ position)
    (fits : bytes.length ≤ type.typeLength ∨ type.typeLength = 0) :
    (column.store position bytes).cell i = column.cell i := by
  unfold cell store
  rcases fits with short | noRoom
  · apply read_memcpy_of_disjoint
    rcases Nat.lt_or_gt_of_ne other with before | behind
    · left
      have next := Nat.mul_le_mul_right type.typeLength (Nat.succ_le_of_lt before)
      rw [Nat.succ_mul] at next
      exact next
    · right
      have next := Nat.mul_le_mul_right type.typeLength (Nat.succ_le_of_lt behind)
      rw [Nat.succ_mul] at next
      omega
  · rw [noRoom]
    rfl

theorem writesAt_setNull (nullable : column.null_bitmap_.isSome = true) (position : Nat) {value : Value}
    (isNull : value.isNull = true) : WritesAt column (column.setNull position) position value where
  bitmap := Option.isSome_map
  nullBit i inside := by
    rw [nullBit_setNull nullable position inside, isNull, Bool.or_true]
  others _ _ := rfl
  value notNull := absurd (isNull.symm.trans notNull) (by decide)

theorem writesAt_store {position : Nat} {bytes : List (BitVec 8)} {value : Value}
    (notNull : value.isNull = false)
    (fits : bytes.length ≤ type.typeLength ∨ type.typeLength = 0)
    (stored : ∀ memory dest, (value.meaning type).SameValue
      (type.makeValue (read (memcpy memory dest bytes) dest type.typeLength))) :
    WritesAt column (column.store position bytes) position value where
  bitmap := rfl
  nullBit i _ := by
    rw [notNull, Bool.or_false, ite_self]
    rfl
  others _ other := cell_store_of_ne other fits
  value _ := stored _ _

theorem writesAt_bytes {position : Nat} {bytes : List (BitVec 8)} {value : Value}
    (notNull : value.isNull = false) (meant : value.meaning type = type.makeValue bytes)
    (fits : Fits type bytes) : WritesAt column (column.store position bytes) position value := by
  apply writesAt_store notNull
  · left
    rcases fits with full | short
    · exact full.le
    · exact short.2.1.le
  · rw [meant]
    exact fits.sameValue

theorem nullBit_fillWithNulls (nullable : column.null_bitmap_.isSome = true) {i : Nat}
    (inside : i < reserved_length_) : column.fillWithNulls.nullBit i = true := by
  obtain ⟨bitmap, present⟩ := Option.isSome_iff_exists.mp nullable
  unfold nullBit fillWithNulls
  rw [present, Option.map_some, Option.any_some, BitVector.getBit_eq,
    BitVector.storedBit_setBitRange (BitVector.lt_storage inside), if_pos]
  exact ⟨Nat.zero_le i, by omega⟩

theorem nullBit_fillWithValue (column : NativeColumnVector type reserved_length_) (value : StoredValue)
    {i : Nat} (inside : i < reserved_length_) :
    (column.fillWithValue (.stored value)).nullBit i = false := by
  unfold nullBit fillWithValue
  cases column.null_bitmap_ with
  | none => rfl
  | some bitmap =>
    show bitmap.clear.getBit i = false
    rw [BitVector.getBit_eq, BitVector.storedBit_clear (BitVector.lt_storage inside)]

/-- The loop of `fillWithValue` stores the value at every position. -/
theorem cell_fillWithValue (column : NativeColumnVector type reserved_length_) {value : StoredValue}
    (fits : value.copyInto.length ≤ type.typeLength ∨ type.typeLength = 0) {i : Nat}
    (inside : i < reserved_length_) :
    ∃ memory dest, (column.fillWithValue (.stored value)).cell i =
      read (memcpy memory dest value.copyInto) dest type.typeLength := by
  let Inv (k : Nat) (values : WordMemory 8) : Prop := ∀ i < k, ∃ memory dest,
    read values (i * type.typeLength) type.typeLength =
      read (memcpy memory dest value.copyInto) dest type.typeLength
  have filled : Inv reserved_length_ (column.fillWithValue (.stored value)).values_ := by
    apply forUpTo_invariant _ Inv
    · exact fun i before => absurd before (Nat.not_lt_zero i)
    · intro k values _ inv i before
      rcases Nat.lt_succ_iff_lt_or_eq.mp before with earlier | rfl
      · obtain ⟨memory, dest, same⟩ := inv i earlier
        have kept : read (memcpy values (k * type.typeLength) value.copyInto) (i * type.typeLength)
            type.typeLength = read values (i * type.typeLength) type.typeLength :=
          @cell_store_of_ne _ _ { column with values_ := values } _ _ _ (Nat.ne_of_lt earlier) fits
        exact ⟨memory, dest, kept.trans same⟩
      · exact ⟨values, i * type.typeLength, rfl⟩
  exact filled i inside

/-- A value put at a position, without its effect on the length. -/
def place (column : NativeColumnVector type reserved_length_) (position : Nat) :
    Value → NativeColumnVector type reserved_length_
  | .null => column.setNull position
  | .untyped value => column.store position value
  | .directWrite bytes => column.store position bytes
  | .typed value => column.storeTyped position value

theorem write_append (column : NativeColumnVector type reserved_length_) (value : Value) :
    column.write (.append value) = (column.place column.actual_length_ value).grow := by
  cases value <;> rfl

theorem write_positionalWrite (column : NativeColumnVector type reserved_length_) (position : Nat)
    {value : Value} (offered : ∀ bytes, value ≠ .directWrite bytes) :
    column.write (.positionalWrite position value) = column.place position value := by
  cases value with
  | directWrite bytes => exact absurd rfl (offered bytes)
  | null | untyped _ | typed _ => rfl

theorem place_actual_length (column : NativeColumnVector type reserved_length_) (position : Nat)
    (value : Value) : (column.place position value).actual_length_ = column.actual_length_ := by
  cases value with
  | typed value => cases value <;> rfl
  | null | untyped _ | directWrite _ => rfl

/-- **What a write does at a position.** -/
theorem writesAt_place (usable : usableForType type = true)
    (bitmap : column.null_bitmap_.isSome = type.isNullable) {value : Value}
    (checked : value.Checked type) (position : Nat) :
    WritesAt column (column.place position value) position value := by
  cases value with
  | null => exact writesAt_setNull (bitmap.trans checked) position rfl
  | untyped bytes => exact writesAt_bytes rfl rfl (.inl checked.2)
  | directWrite bytes => exact writesAt_bytes rfl rfl checked.2
  | typed value =>
    obtain ⟨isPlausible, isValue⟩ := checked
    cases value with
    | null typeId =>
      have nullable : type.isNullable = true := (Bool.and_eq_true_iff.mp isPlausible).2
      exact writesAt_setNull (bitmap.trans nullable) position rfl
    | stored value =>
      obtain ⟨fits, stored⟩ := copyInto_spec usable (isValue value rfl) isPlausible
      exact writesAt_store rfl fits stored

end Effects

/-! ## The list that a column vector holds -/

/-- A column vector holds the values written so far. -/
structure Holds (written : Written Value) (column : NativeColumnVector type reserved_length_) :
    Prop where
  size : column.actual_length_ = written.values.length
  bound : written.values.length ≤ reserved_length_
  bitmap : column.null_bitmap_.isSome = type.isNullable
  meant : ∀ i value, written.entry i = some value → value.isNull = true →
    value.meaning type = type.makeNullValue
  nulls : ∀ i < reserved_length_, column.nullBit i = (written.entry i).any Value.isNull
  cells : ∀ i value, written.entry i = some value → value.isNull = false →
    (value.meaning type).SameValue (type.makeValue (column.cell i))

namespace Holds

variable {column column' : NativeColumnVector type reserved_length_} {written written' : Written Value}

/-- A write at a position that had no value. -/
theorem writeAt (h : Holds written column) {position : Nat} {value : Value}
    (writes : WritesAt column column' position value)
    (meant : value.isNull = true → value.meaning type = type.makeNullValue)
    (unwritten : written.entry position = none)
    (entries : ∀ i, written'.entry i = if i = position then some value else written.entry i)
    (size : column'.actual_length_ = written'.values.length)
    (bound : written'.values.length ≤ reserved_length_) : Holds written' column' where
  size := size
  bound := bound
  bitmap := writes.bitmap.trans h.bitmap
  meant i other found := by
    rw [entries i] at found
    split at found
    · cases found
      exact meant
    · exact h.meant i other found
  nulls i within := by
    rw [writes.nullBit i within, entries i, h.nulls i within]
    by_cases same : i = position
    · rw [if_pos same, if_pos same, same, unwritten]
      rfl
    · rw [if_neg same, if_neg same]
  cells i other found notNull := by
    rw [entries i] at found
    by_cases same : i = position
    · rw [if_pos same] at found
      cases found
      rw [same]
      exact writes.value notNull
    · rw [if_neg same] at found
      rw [writes.others i same]
      exact h.cells i other found notNull

theorem fill (h : Holds written column) {value : Value} (checked : value.Checked type)
    (nulls : ∀ i < reserved_length_, column'.nullBit i = value.isNull)
    (cells : value.isNull = false → ∀ i < reserved_length_,
      (value.meaning type).SameValue (type.makeValue (column'.cell i)))
    (bitmap : column'.null_bitmap_.isSome = column.null_bitmap_.isSome)
    (size : column'.actual_length_ = reserved_length_) :
    Holds (written.fill reserved_length_ value) column' := by
  obtain ⟨length, entries⟩ := @Written.fill_spec Value reserved_length_ written value
  refine ⟨size.trans length.symm, length.le, bitmap.trans h.bitmap, fun i other found => ?_,
    fun i inside => ?_, fun i other found notNull => ?_⟩
  · rw [entries i] at found
    split at found
    · cases found
      exact checked.meant
    · cases found
  · rw [entries i, if_pos inside, Option.any_some]
    exact nulls i inside
  · rw [entries i] at found
    split at found
    · next inside =>
      cases found
      exact cells notNull i inside
    · cases found

/-- **One write** that is allowed. -/
theorem write (usable : usableForType type = true) (next : Write Value) (checked : Checked type next)
    (h : Holds written column)
    (allowed : written.write reserved_length_ next = some written') :
    Holds written' (column.write next) := by
  cases next with
  | append value =>
    obtain ⟨room, length, unwritten, entries⟩ := Written.append_eq_some allowed
    have writes := (writesAt_place usable h.bitmap checked column.actual_length_).grow
    rw [write_append]
    rw [← h.size] at unwritten entries
    apply h.writeAt writes checked.meant unwritten entries
    · show (column.place column.actual_length_ value).actual_length_ + 1 = _
      rw [place_actual_length, h.size, length]
    · omega
  | positionalWrite position value =>
    obtain ⟨inside, length, unwritten, entries⟩ := Written.positionalWrite_eq_some allowed
    rw [write_positionalWrite column position checked.2]
    apply h.writeAt (writesAt_place usable h.bitmap checked.1 position) checked.1.meant unwritten entries
    · rw [place_actual_length, h.size, length]
    · rw [length]
      exact h.bound
  | prepareForPositionalWrites =>
    obtain ⟨empty, length, unwritten, entries⟩ := Written.prepare_eq_some allowed
    refine ⟨length.symm, length.le, h.bitmap, fun i value found => ?_, fun i inside => ?_,
      fun i value found => ?_⟩
    · rw [entries i] at found
      cases found
    · rw [entries i, ← unwritten i]
      exact h.nulls i inside
    · rw [entries i] at found
      cases found
  | fill value =>
    cases allowed
    have nullFill {value : Value} (checked : value.Checked type) (nullable : type.isNullable = true)
        (isNull : value.isNull = true) :
        Holds (written.fill reserved_length_ value) column.fillWithNulls := by
      apply h.fill checked
      · intro i inside
        rw [isNull]
        exact nullBit_fillWithNulls (h.bitmap.trans nullable) inside
      · exact fun notNull => absurd (isNull.symm.trans notNull) (by decide)
      · exact Option.isSome_map
      · rfl
    obtain ⟨checked, rfl | ⟨typed, rfl⟩⟩ := checked
    · exact nullFill checked checked rfl
    · cases typed with
      | null typeId => exact nullFill checked (Bool.and_eq_true_iff.mp checked.1).2 rfl
      | stored value =>
        obtain ⟨fits, stored⟩ := copyInto_spec usable (checked.2 value rfl) checked.1
        apply h.fill checked
        · exact fun i inside => nullBit_fillWithValue column value inside
        · intro _ i inside
          obtain ⟨memory, dest, same⟩ := cell_fillWithValue column fits inside
          show value.value.SameValue (type.makeValue ((column.fillWithValue (.stored value)).cell i))
          rw [same]
          exact stored memory dest
        · exact Option.isSome_map
        · rfl

theorem create (type : DataType) (values_ : WordMemory 8) (bits : BitVector false reserved_length_) :
    Holds Written.empty (NativeColumnVector.create type reserved_length_ values_ bits) where
  size := rfl
  bound := Nat.zero_le _
  bitmap := by
    show (if type.isNullable then some bits.clear else none).isSome = type.isNullable
    cases type.isNullable <;> rfl
  nulls i inside := by
    show (if type.isNullable then some bits.clear else none).any (fun bitmap => bitmap.getBit i) = false
    cases type.isNullable with
    | false => rfl
    | true =>
      show bits.clear.getBit i = false
      rw [BitVector.getBit_eq, BitVector.storedBit_clear (BitVector.lt_storage inside)]
  meant i value found := by cases found
  cells i value found := by cases found

/-- The value at a position. -/
theorem getTypedValue (h : Holds written column) {i : Nat} {value : Value}
    (found : written.entry i = some value) :
    (column.getTypedValue i).getTypeID = type.getTypeID ∧
      (value.meaning type).SameValue (column.getTypedValue i) := by
  have inside : i < reserved_length_ := by
    obtain ⟨within, -⟩ := List.getElem?_eq_some_iff.mp (Option.join_eq_some_iff.mp found)
    exact Nat.lt_of_lt_of_le within h.bound
  have isNull : column.nullBit i = value.isNull := by
    rw [h.nulls i inside, found, Option.any_some]
  unfold NativeColumnVector.getTypedValue
  rw [isNull]
  cases null : value.isNull with
  | false => exact ⟨getTypeID_makeValue _, h.cells i value found null⟩
  | true =>
    rw [h.meant i value found null]
    exact ⟨rfl, SameValue.refl _⟩

/-- A write at a position changes no other. -/
theorem getTypedValue_of_ne (usable : usableForType type = true) (h : Holds written column)
    {position : Nat} {value : Value} (checked : Checked type (.positionalWrite position value)) {i : Nat}
    (inside : i < column.size) (other : i ≠ position) :
    (column.write (.positionalWrite position value)).getTypedValue i = column.getTypedValue i := by
  have writes := writesAt_place usable h.bitmap checked.1 position
  have within : i < reserved_length_ := Nat.lt_of_lt_of_le inside (h.size.trans_le h.bound)
  rw [write_positionalWrite column position checked.2]
  unfold NativeColumnVector.getTypedValue
  rw [writes.nullBit i within, if_neg other, writes.others i other]

end Holds

end NativeColumnVector

namespace IndirectColumnVector

variable {type : DataType} {reserved_length_ : Nat}

/-- One write. -/
def write (column : IndirectColumnVector type reserved_length_) :
    Write PassedValue → IndirectColumnVector type reserved_length_
  | .append value => column.appendTypedValue value
  | .fill value => column.fillWithValue value
  | .prepareForPositionalWrites => column.prepareForPositionalWrites
  | .positionalWrite position value => column.positionalWriteTypedValue position value

/-- A column vector holds the values written so far. -/
structure Holds (written : Written PassedValue) (column : IndirectColumnVector type reserved_length_) :
    Prop where
  size : column.size = written.values.length
  values : ∀ i value, written.entry i = some value → column.getTypedValue i = some value.value

/-- **One write** that is allowed. -/
theorem Holds.write {column : IndirectColumnVector type reserved_length_}
    {written written' : Written PassedValue} (h : Holds written column) {next : Write PassedValue}
    (allowed : written.write reserved_length_ next = some written') :
    Holds written' (column.write next) := by
  have size : column.values_.length = written.values.length := h.size
  cases next with
  | append value =>
    obtain ⟨_, length, _, entries⟩ := Written.append_eq_some allowed
    refine ⟨?_, fun i other found => ?_⟩
    · show (column.values_ ++ [value.value]).length = _
      rw [List.length_append, List.length_singleton, size, length]
    · show (column.values_ ++ [value.value])[i]? = _
      rw [entries i] at found
      split at found
      · next last =>
        cases found
        rw [last, ← size, List.getElem?_concat_length]
      · have before := h.values i other found
        exact List.getElem?_append_left (List.getElem?_eq_some_iff.mp before).1 ▸ before
  | fill value =>
    cases allowed
    obtain ⟨length, entries⟩ := @Written.fill_spec PassedValue reserved_length_ written value
    refine ⟨List.length_replicate.trans length.symm, fun i other found => ?_⟩
    rw [entries i] at found
    split at found
    · next inside =>
      cases found
      exact List.getElem?_replicate_of_lt inside
    · cases found
  | prepareForPositionalWrites =>
    obtain ⟨empty, length, _, entries⟩ := Written.prepare_eq_some allowed
    refine ⟨?_, fun i value found => ?_⟩
    · show (column.values_ ++ List.replicate (reserved_length_ - column.values_.length) _).length = _
      rw [List.length_append, List.length_replicate, size, empty, length]
      omega
    · rw [entries i] at found
      cases found
  | positionalWrite position value =>
    obtain ⟨inside, length, _, entries⟩ := Written.positionalWrite_eq_some allowed
    refine ⟨List.length_set.trans (size.trans length.symm), fun i other found => ?_⟩
    show (column.values_.set position value.value)[i]? = _
    rw [entries i] at found
    split at found
    · next same =>
      cases found
      rw [same, List.getElem?_set_self (size ▸ inside)]
    · next other =>
      rw [List.getElem?_set_ne (Ne.symm other)]
      exact h.values i _ found

end IndirectColumnVector

/-! ## Lists -/

/-- A native column vector is the list of the values written to it. -/
structure NativeColumnVector.IsList {type : DataType} {reserved_length_ : Nat}
    (written : Written Value) (column : NativeColumnVector type reserved_length_) : Prop where
  size : column.size = written.values.length
  values : ∀ i value, written.entry i = some value →
    (column.getTypedValue i).getTypeID = type.getTypeID ∧
      (value.meaning type).SameValue (column.getTypedValue i)
  others : ∀ position value i, Checked type (.positionalWrite position value) → i < column.size →
    i ≠ position →
      (column.write (.positionalWrite position value)).getTypedValue i = column.getTypedValue i

/-- An indirect column vector is the list of the values written to it. -/
structure IndirectColumnVector.IsList {type : DataType} {reserved_length_ : Nat}
    (written : Written PassedValue) (column : IndirectColumnVector type reserved_length_) :
    Prop where
  size : column.size = written.values.length
  values : ∀ i value, written.entry i = some value → column.getTypedValue i = some value.value
  others : ∀ position value i, i ≠ position →
    (column.write (.positionalWrite position value)).getTypedValue i = column.getTypedValue i

/-- **Column vectors are lists** after every history of writes that their checks allow. -/
theorem columnVectors_are_lists (type : DataType) (reserved_length_ : Nat) :
    (NativeColumnVector.usableForType type = true →
      ∀ values_ bits writes written,
        (∀ next ∈ writes, NativeColumnVector.Checked type next) →
        Written.history reserved_length_ writes = some written →
        (writes.foldl NativeColumnVector.write
          (NativeColumnVector.create type reserved_length_ values_ bits)).IsList written) ∧
      ∀ writes written, Written.history reserved_length_ writes = some written →
        (writes.foldl IndirectColumnVector.write
          (IndirectColumnVector.create type reserved_length_)).IsList written := by
  constructor
  · intro usable values_ bits writes written checked allowed
    have holds := Written.refines (NativeColumnVector.Holds.create type values_ bits)
      (fun _ _ _ next checked holds allowed => holds.write usable next checked allowed) checked allowed
    refine ⟨holds.size, fun i value found => holds.getTypedValue found, ?_⟩
    exact fun position value i checked inside other =>
      holds.getTypedValue_of_ne usable checked inside other
  · intro writes written allowed
    have start : IndirectColumnVector.Holds Written.empty
        (IndirectColumnVector.create type reserved_length_) := ⟨rfl, nofun⟩
    have always : ∀ next ∈ writes, (fun _ : Write PassedValue => True) next := fun _ _ => trivial
    have holds := Written.refines start (fun _ _ _ _ _ holds allowed => holds.write allowed) always
      allowed
    refine ⟨holds.size, holds.values, fun position value i other => ?_⟩
    exact List.getElem?_set_ne (Ne.symm other)

/-- A CHAR shorter than the type, and a NULL. -/
theorem columnVectors_are_lists_char :
    (List.foldl NativeColumnVector.write
      (NativeColumnVector.create (.char 4 true) 2 (fun _ => 0xff#8) (.regular (by decide) fun _ => 0#64))
      [.append (.typed (.stored ⟨.char, 0#64, [97#8, 98#8, 0#8]⟩)), .append .null]).IsList
        ⟨[some (.typed (.stored ⟨.char, 0#64, [97#8, 98#8, 0#8]⟩)), some .null], false⟩ := by
  apply (columnVectors_are_lists (.char 4 true) 2).1 rfl
  · intro next mem
    rcases List.mem_cons.mp mem with rfl | rest
    · refine ⟨rfl, fun stored same => ?_⟩
      cases same
      exact ⟨⟨nofun, nofun, nofun⟩, fun notChar => absurd rfl notChar⟩
    · rcases List.mem_singleton.mp rest with rfl
      exact rfl
  · rfl

end Quickstep.Types
