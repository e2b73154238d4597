import Quickstep.Types.ColumnVectorLoops

/-!
# Writing literals to a column vector

The operators on literals write their results straight to the memory of a native column vector.
-/

namespace Quickstep.Types
open Quickstep.Lib Bytes

/-- A literal as it lies in memory. -/
def CppType.bytes : (type : CppType) → type.Value → List (BitVec 8)
  | .number .int, value | .number .float, value => littleEndian 4 value
  | .number .long, value | .number .double, value => littleEndian 8 value
  | .datetimeLit, ticks | .datetimeIntervalLit, ticks | .yearMonthIntervalLit, ticks =>
    littleEndian 8 ticks

section Results

variable {resultType : DataType}

/-- A literal fills the length of a type with its `TypeID`. -/
theorem CppType.length_bytes {type : CppType} (sameType : resultType.getTypeID = type.typeId)
    (value : type.Value) : (type.bytes value).length = resultType.typeLength := by
  rcases type with (_ | _ | _ | _) | _ | _ | _
  all_goals
    rw [CppType.bytes, length_littleEndian]
    cases resultType <;> first | rfl | cases sameType

/-- A literal is read back as the constructor of `TypedValue` takes it. -/
theorem CppType.makeValue_bytes {type : CppType} (sameType : resultType.getTypeID = type.typeId)
    (value : type.Value) : resultType.makeValue (type.bytes value) = .ofLiteral type value := by
  have four (value : BitVec 32) :
      (ofLittleEndian 64 (littleEndian 4 value)).setWidth 32 = value := by
    rw [setWidth_ofLittleEndian _ (by decide), ofLittleEndian_littleEndian value (Nat.le_refl 32),
      BitVec.setWidth_eq]
  have eight (value : BitVec 64) : ofLittleEndian 64 (littleEndian 8 value) = value := by
    rw [ofLittleEndian_littleEndian value (Nat.le_refl 64), BitVec.setWidth_eq]
  unfold DataType.makeValue StoredValue.value
  rw [sameType]
  rcases type with (_ | _ | _ | _) | _ | _ | _
  · exact congrArg TypedValue.int (four value)
  · exact congrArg TypedValue.long (eight value)
  · exact congrArg (fun bits => TypedValue.float (.ofBits TypedValue.float_width bits)) (four value)
  · exact congrArg (fun bits => TypedValue.double (.ofBits TypedValue.double_width bits)) (eight value)
  · exact congrArg TypedValue.datetime (eight value)
  · exact congrArg TypedValue.datetimeInterval (eight value)
  · exact congrArg TypedValue.yearMonthInterval (eight value)

theorem CppType.usable_of_typeId {type : CppType} (sameType : resultType.getTypeID = type.typeId) :
    NativeColumnVector.usableForType resultType = true := by
  cases resultType with
  | char _ _ => rcases type with (_ | _ | _ | _) | _ | _ | _ <;> cases sameType
  | varChar _ _ => rcases type with (_ | _ | _ | _) | _ | _ | _ <;> cases sameType
  | int _ | long _ | float _ | double _ | date _ | datetime _ | datetimeInterval _
  | yearMonthInterval _ | nullType => rfl

theorem CppType.typeId_ne_nullType (type : CppType) : type.typeId ≠ .nullType := by
  rcases type with (_ | _ | _ | _) | _ | _ | _ <;> exact nofun

/-- A literal can be put into a column vector of a type with its `TypeID`. -/
theorem CppType.placeable_bytes {type : CppType} (sameType : resultType.getTypeID = type.typeId)
    (value : type.Value) : NativeColumnVector.Placeable resultType (.directWrite (type.bytes value)) := by
  apply NativeColumnVector.Value.Checked.placeable (CppType.usable_of_typeId sameType)
  exact ⟨sameType ▸ CppType.typeId_ne_nullType _, .inl (CppType.length_bytes sameType _)⟩

/-- So can a NULL, if the type is nullable. -/
theorem CppType.placeable_null {type : CppType} (sameType : resultType.getTypeID = type.typeId)
    (nullable : resultType.isNullable = true) : NativeColumnVector.Placeable resultType .null :=
  NativeColumnVector.Value.Checked.placeable (CppType.usable_of_typeId sameType) nullable

end Results

end Quickstep.Types
