import Quickstep.Lib.Bytes
import Quickstep.Lib.WriteHistory
import Quickstep.Types.TypedValueHash
import Quickstep.Utility.BitVectorBits

/-!
# Column vectors

`NativeColumnVector` and `IndirectColumnVector` of `types/containers/ColumnVector.hpp`. A native column
vector keeps the values of a fixed-length type one after the other in an array of bytes, and NULLs in a
bitmap beside it; an indirect one keeps typed values.
-/

namespace Quickstep.Types
open Quickstep.Lib Quickstep.Utility Bytes

/-- A `TypedValue` as it is passed to a column vector. -/
inductive PassedValue where
  | null (typeId : TypeID)
  | stored (value : StoredValue)
  deriving DecidableEq

namespace PassedValue

/-- What is read back of it. -/
def value : PassedValue → TypedValue
  | null typeId => .null typeId
  | stored value => value.value

def isNull : PassedValue → Bool
  | null _ => true
  | stored _ => false

/-- `isPlausibleInstanceOf` of the signature of a type. -/
def isPlausibleInstanceOf (type : DataType) : PassedValue → Bool
  | null typeId => typeId == type.getTypeID && type.isNullable
  | stored value =>
    let dataSize := value.outOfLineData.length
    value.typeId == type.getTypeID &&
      match value.typeId with
      | .int | .long | .float | .double | .date | .datetime | .datetimeInterval | .yearMonthInterval =>
        true
      | .char =>
        if dataSize = type.getStringLength.toNat then true
        else if dataSize < type.getStringLength.toNat then value.outOfLineData.contains 0 else false
      | .varChar => dataSize ≤ (type.getStringLength + 1).toNat
      | .nullType => dataSize ≤ type.getStringLength.toNat

end PassedValue

/-- The bytes that `copyInto` stores. Data of no bytes counts as stored in the union. -/
def StoredValue.copyInto (value : StoredValue) : List (BitVec 8) :=
  if value.outOfLineData.length ≠ 0 then value.outOfLineData
  else
    match value.typeId with
    | .int | .float => littleEndian 4 value.hash64
    | .long | .double | .char | .varChar | .date | .datetime | .datetimeInterval | .yearMonthInterval
    | .nullType => littleEndian 8 value.hash64

namespace DataType

def makeNullValue (type : DataType) : TypedValue := .null type.getTypeID

/-- `makeValue` from the bytes of a value. There is none of the type of NULL. -/
def makeValue (type : DataType) (bytes : List (BitVec 8)) : TypedValue :=
  (StoredValue.mk type.getTypeID (ofLittleEndian 64 bytes) bytes).value

/-- How long a value is in a native column vector. -/
def typeLength (type : DataType) : Nat := type.maximumByteLength.toNat

end DataType

/-! ## Native column vectors -/

/-- A native column vector of a reserved length. -/
structure NativeColumnVector (type : DataType) (reserved_length_ : Nat) where
  values_ : WordMemory 8
  actual_length_ : Nat
  null_bitmap_ : Option (BitVector false reserved_length_)

namespace NativeColumnVector

variable {type : DataType} {reserved_length_ : Nat}

def usableForType (type : DataType) : Bool := !type.isVariableLength

/-- The constructor. What the array and the bitmap are allocated with is arbitrary. -/
def create (type : DataType) (reserved_length_ : Nat) (values_ : WordMemory 8)
    (bits : BitVector false reserved_length_) : NativeColumnVector type reserved_length_ where
  values_ := values_
  actual_length_ := 0
  null_bitmap_ := if type.isNullable then some bits.clear else none

variable (column : NativeColumnVector type reserved_length_)

def size : Nat := column.actual_length_

/-- Whether the bitmap says that the value is NULL. -/
def nullBit (position : Nat) : Bool := column.null_bitmap_.any fun bitmap => bitmap.getBit position

/-- The bytes at a position. -/
def cell (position : Nat) : List (BitVec 8) :=
  read column.values_ (position * type.typeLength) type.typeLength

/-- The bytes that the pointer points to, or no pointer for a NULL. -/
def getUntypedValue (checkNull : Bool) (position : Nat) : Option (List (BitVec 8)) :=
  if checkNull && column.nullBit position then none else some (column.cell position)

def getTypedValue (position : Nat) : TypedValue :=
  if column.nullBit position then type.makeNullValue else type.makeValue (column.cell position)

/-- Bytes written at a position. -/
def store (position : Nat) (bytes : List (BitVec 8)) : NativeColumnVector type reserved_length_ :=
  { column with values_ := memcpy column.values_ (position * type.typeLength) bytes }

def setNull (position : Nat) : NativeColumnVector type reserved_length_ :=
  { column with null_bitmap_ := column.null_bitmap_.map fun bitmap => bitmap.setBit position true }

/-- A typed value written at a position. -/
def storeTyped (position : Nat) (value : PassedValue) : NativeColumnVector type reserved_length_ :=
  match value with
  | .null _ => column.setNull position
  | .stored value => column.store position value.copyInto

def grow : NativeColumnVector type reserved_length_ :=
  { column with actual_length_ := column.actual_length_ + 1 }

def appendUntypedValue (value : List (BitVec 8)) : NativeColumnVector type reserved_length_ :=
  (column.store column.actual_length_ value).grow

def appendNullValue : NativeColumnVector type reserved_length_ :=
  (column.setNull column.actual_length_).grow

def appendTypedValue (value : PassedValue) : NativeColumnVector type reserved_length_ :=
  (column.storeTyped column.actual_length_ value).grow

/-- `getPtrForDirectWrite`, and what is written through the pointer. -/
def directWrite (bytes : List (BitVec 8)) : NativeColumnVector type reserved_length_ :=
  column.grow.store column.actual_length_ bytes

def fillWithNulls : NativeColumnVector type reserved_length_ where
  values_ := column.values_
  actual_length_ := reserved_length_
  null_bitmap_ := column.null_bitmap_.map fun bitmap => bitmap.setBitRange 0 reserved_length_ true

def fillWithValue (value : PassedValue) : NativeColumnVector type reserved_length_ :=
  match value with
  | .null _ => column.fillWithNulls
  | .stored value =>
    { values_ := forUpTo reserved_length_
        (fun pos values_ => memcpy values_ (pos * type.typeLength) value.copyInto) column.values_
      actual_length_ := reserved_length_
      null_bitmap_ := column.null_bitmap_.map BitVector.clear }

def prepareForPositionalWrites : NativeColumnVector type reserved_length_ :=
  { column with actual_length_ := reserved_length_ }

def positionalWriteUntypedValue (position : Nat) (value : List (BitVec 8)) :
    NativeColumnVector type reserved_length_ := column.store position value

def positionalWriteNullValue (position : Nat) : NativeColumnVector type reserved_length_ :=
  column.setNull position

def positionalWriteTypedValue (position : Nat) (value : PassedValue) :
    NativeColumnVector type reserved_length_ := column.storeTyped position value

end NativeColumnVector

/-! ## Indirect column vectors -/

/-- An indirect column vector of a reserved length. -/
structure IndirectColumnVector (type : DataType) (reserved_length_ : Nat) where
  values_ : List TypedValue

namespace IndirectColumnVector

variable {type : DataType} {reserved_length_ : Nat}

def create (type : DataType) (reserved_length_ : Nat) : IndirectColumnVector type reserved_length_ :=
  ⟨[]⟩

/-- `assign` forgets the values before it. -/
def fillWithValue (_ : IndirectColumnVector type reserved_length_) (value : PassedValue) :
    IndirectColumnVector type reserved_length_ := ⟨List.replicate reserved_length_ value.value⟩

variable (column : IndirectColumnVector type reserved_length_)

def size : Nat := column.values_.length

def getTypedValue (position : Nat) : Option TypedValue := column.values_[position]?

def appendTypedValue (value : PassedValue) : IndirectColumnVector type reserved_length_ :=
  ⟨column.values_ ++ [value.value]⟩

/-- `resize` from no values appends values of the default constructor. -/
def prepareForPositionalWrites : IndirectColumnVector type reserved_length_ :=
  ⟨column.values_ ++ List.replicate (reserved_length_ - column.values_.length) (.int 0)⟩

def positionalWriteTypedValue (position : Nat) (value : PassedValue) :
    IndirectColumnVector type reserved_length_ := ⟨column.values_.set position value.value⟩

end IndirectColumnVector

end Quickstep.Types
