import Quickstep.Common.TupleIdSequence

/-!
# Types, values and value accessors

The type system of `types/`, its values, and the accessors of `types/containers/` that iterate
over tuples. A column is the list of its values; native and indirect layouts hold the same list.
-/

namespace Quickstep.Types
open Quickstep.Common

inductive TypeID where
  | int | long | float | double | char | varChar | date | datetime | datetimeInterval
  | yearMonthInterval | nullType
  deriving DecidableEq, Repr

/-- A `Type` instance. `NULL` is always nullable; only strings have a length. -/
inductive DataType where
  | int (nullable : Bool)
  | long (nullable : Bool)
  | float (nullable : Bool)
  | double (nullable : Bool)
  | char (length : BitVec 64) (nullable : Bool)
  | varChar (length : BitVec 64) (nullable : Bool)
  | date (nullable : Bool)
  | datetime (nullable : Bool)
  | datetimeInterval (nullable : Bool)
  | yearMonthInterval (nullable : Bool)
  | nullType
  deriving DecidableEq, Repr

namespace DataType

def getTypeID : DataType → TypeID
  | int _ => .int
  | long _ => .long
  | float _ => .float
  | double _ => .double
  | char _ _ => .char
  | varChar _ _ => .varChar
  | date _ => .date
  | datetime _ => .datetime
  | datetimeInterval _ => .datetimeInterval
  | yearMonthInterval _ => .yearMonthInterval
  | nullType => .nullType

def isNullable : DataType → Bool
  | int nullable | long nullable | float nullable | double nullable | char _ nullable
  | varChar _ nullable | date nullable | datetime nullable | datetimeInterval nullable
  | yearMonthInterval nullable => nullable
  | nullType => true

def minimumByteLength : DataType → BitVec 64
  | int _ | float _ => 4
  | long _ | double _ | date _ | datetime _ | datetimeInterval _ | yearMonthInterval _ => 8
  | char length _ => length
  | varChar _ _ => 1
  | nullType => 0

/-- A VARCHAR has room for its terminator. -/
def maximumByteLength : DataType → BitVec 64
  | int _ | float _ => 4
  | long _ | double _ | date _ | datetime _ | datetimeInterval _ | yearMonthInterval _ => 8
  | char length _ => length
  | varChar length _ => length + 1
  | nullType => 0

def estimateAverageByteLength : DataType → BitVec 64
  | int _ | float _ => 4
  | long _ | double _ | date _ | datetime _ | datetimeInterval _ | yearMonthInterval _ => 8
  | char length _ => length
  | varChar length _ => if 160 < length.toNat then 80 else (length >>> 1) + 1
  | nullType => 0

def isVariableLength (type : DataType) : Bool :=
  type.minimumByteLength != type.maximumByteLength

end DataType

/-- The bits of an IEEE number of `w` bits other than negative zero. -/
structure Canonical (w : Nat) where
  bits : BitVec w
  notNegativeZero : bits ≠ BitVec.intMin w
  deriving DecidableEq

/-- The constructors of `TypedValue` from a floating point number replace negative zero by zero. -/
def Canonical.ofBits {w : Nat} (positive : 0 < w) (bits : BitVec w) : Canonical w :=
  if negativeZero : bits = BitVec.intMin w then
    ⟨0#w, fun zero => by
      have top := congrArg BitVec.msb zero
      simp [BitVec.msb_intMin, positive] at top⟩
  else ⟨bits, negativeZero⟩

theorem Canonical.ofBits_bits {w : Nat} (positive : 0 < w) (number : Canonical w) :
    ofBits positive number.bits = number := dif_neg number.notNegativeZero

/-- A value with its `TypeID`; a NULL carries nothing else. -/
inductive TypedValue where
  | null (typeId : TypeID)
  | int (value : BitVec 32)
  | long (value : BitVec 64)
  | float (value : Canonical 32)
  | double (value : Canonical 64)
  | char (data : List (BitVec 8))
  | varChar (data : List (BitVec 8))
  | date (year : BitVec 32) (month day : BitVec 8)
  | datetime (ticks : BitVec 64)
  | datetimeInterval (intervalTicks : BitVec 64)
  | yearMonthInterval (months : BitVec 64)
  deriving DecidableEq

instance : Inhabited TypedValue := ⟨.null .nullType⟩

/-- Whether a value has its data outside: only the strings do. -/
def TypedValue.hasOutOfLineData : TypedValue → Bool
  | char _ | varChar _ => true
  | null _ | int _ | long _ | float _ | double _ | date _ _ _ | datetime _ | datetimeInterval _
  | yearMonthInterval _ => false

def TypedValue.getTypeID : TypedValue → TypeID
  | null typeId => typeId
  | int _ => .int
  | long _ => .long
  | float _ => .float
  | double _ => .double
  | char _ => .char
  | varChar _ => .varChar
  | date _ _ _ => .date
  | datetime _ => .datetime
  | datetimeInterval _ => .datetimeInterval
  | yearMonthInterval _ => .yearMonthInterval

def TypedValue.isNull : TypedValue → Bool
  | null _ => true
  | int _ | long _ | float _ | double _ | char _ | varChar _ | date _ _ _ | datetime _
  | datetimeInterval _ | yearMonthInterval _ => false

/-- A value of a type: it has the `TypeID` of the type, and is NULL only if the type is nullable. -/
structure DataType.Admits (type : DataType) (value : TypedValue) : Prop where
  typeId : value.getTypeID = type.getTypeID
  nullable : value.isNull = true → type.isNullable = true

abbrev Tuple := List TypedValue

abbrev ColumnVector := List TypedValue

/-- `MakeVectorOfValue`. -/
def ColumnVector.makeVectorOfValue (value : TypedValue) (numCopies : Nat) : ColumnVector :=
  List.replicate numCopies value

/-- `column_length_`: the size of the column added last, zero before the first. -/
def columnLength (columns : List ColumnVector) : Nat := (columns.getLast?.map List.length).getD 0

/-- The accessors that own tuples. They iterate over every position below `n`. -/
inductive TupleStore (n : Nat) where
  | tupleVector (tuples : Vector Tuple n)
  | columnVectors (columns : List ColumnVector) (length : columnLength columns = n)

/-- Attribute ids and positions out of range are undefined behaviour in the source. -/
def TupleStore.getTypedValueAtAbsolutePosition {n : Nat} (store : TupleStore n)
    (attributeId : Nat) (tuple : Fin n) : TypedValue :=
  match store with
  | tupleVector tuples => tuples[tuple].getD attributeId default
  | columnVectors columns _ => (columns.getD attributeId []).getD tuple default

/-- An accessor with end position `n`, as it is or below a `TupleIdSequence` adapter. -/
structure ValueAccessor (n : Nat) where
  store : TupleStore n
  tupleIdSequence : Option (TupleIdSequence n)

namespace ValueAccessor

variable {n : Nat}

def getTypedValueAtAbsolutePosition (accessor : ValueAccessor n) (attributeId : Nat)
    (tuple : Fin n) : TypedValue :=
  accessor.store.getTypedValueAtAbsolutePosition attributeId tuple

/-- An adapter over an adapter adapts the same underlying accessor. -/
def createSharedTupleIdSequenceAdapter (accessor : ValueAccessor n)
    (idSequence : TupleIdSequence n) : ValueAccessor n :=
  { accessor with tupleIdSequence := some idSequence }

/-- The values of `getCurrentPosition` in one iteration. -/
def positions (accessor : ValueAccessor n) : List (Fin n) :=
  TupleIdSequence.iterated accessor.tupleIdSequence

def getNumTuples (accessor : ValueAccessor n) : Nat :=
  match accessor.tupleIdSequence with
  | some sequence => sequence.numTuples
  | none => n

/-- The values of one attribute in one iteration. -/
def column (accessor : ValueAccessor n) (attributeId : Nat) : ColumnVector :=
  accessor.positions.map (accessor.getTypedValueAtAbsolutePosition attributeId)

/-- An existence map is given exactly for an adapter, and then it names the adapter's tuples. -/
def Describes (accessor : ValueAccessor n) (existenceMap : Option (TupleIdSequence n)) : Prop :=
  match accessor.tupleIdSequence, existenceMap with
  | none, none => True
  | some sequence, some existenceMap => ∀ t, t ∈ existenceMap ↔ t ∈ sequence
  | none, some _ | some _, none => False

@[simp] theorem length_positions (accessor : ValueAccessor n) :
    accessor.positions.length = accessor.getNumTuples := by
  unfold positions getNumTuples TupleIdSequence.iterated
  cases accessor.tupleIdSequence with
  | none => exact List.length_finRange
  | some sequence => rfl

theorem describes_self (accessor : ValueAccessor n) :
    accessor.Describes accessor.tupleIdSequence := by
  unfold Describes
  cases accessor.tupleIdSequence with
  | none => trivial
  | some sequence => exact fun _ => Iff.rfl

theorem Describes.positions {accessor : ValueAccessor n} {existenceMap : Option (TupleIdSequence n)}
    (describes : accessor.Describes existenceMap) :
    accessor.positions = TupleIdSequence.iterated existenceMap := by
  unfold Describes at describes
  unfold ValueAccessor.positions TupleIdSequence.iterated
  cases sequence : accessor.tupleIdSequence with
  | none =>
    cases existenceMap with
    | none => rfl
    | some existenceMap => simp [sequence] at describes
  | some sequence' =>
    cases existenceMap with
    | none => simp [sequence] at describes
    | some existenceMap =>
      simp only [sequence] at describes
      exact TupleIdSequence.ids_congr fun t => (describes t).symm

@[simp] theorem positions_adapter (accessor : ValueAccessor n) (sequence : TupleIdSequence n) :
    (accessor.createSharedTupleIdSequenceAdapter sequence).positions = sequence.ids := rfl

@[simp] theorem getTypedValue_adapter (accessor : ValueAccessor n) (sequence : TupleIdSequence n) :
    (accessor.createSharedTupleIdSequenceAdapter sequence).getTypedValueAtAbsolutePosition =
      accessor.getTypedValueAtAbsolutePosition := rfl

end ValueAccessor

end Quickstep.Types
