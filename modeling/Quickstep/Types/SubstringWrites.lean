import Quickstep.Types.ColumnVectorLoops
import Quickstep.Types.StringCoercion

/-!
# What SUBSTRING writes

The checked form and the operators of `SubstringOperation` with the memory that they write their result
to: a buffer of the declared length, or a position of a column vector. All of them write some bytes from
the start of their output on; where the string is over before the start position, that is a terminator,
whether there is room for it or not.
-/

namespace Quickstep.Types
open Quickstep.Lib Quickstep.Utility Bytes CString

namespace SubstringOperation

/-- The bytes written to an output with some room, from its start on. -/
def writtenBytes (input : List (BitVec 8)) (startPosition stringLength maximumLength room : Nat) :
    List (BitVec 8) :=
  if startPosition ≥ stringLength then [0]
  else
    let actualSubstringLength := min (stringLength - startPosition) maximumLength
    (input.drop startPosition).take actualSubstringLength ++
      if actualSubstringLength < room then [0] else []

section Functions

variable (startPosition substringLength : BitVec 64)

/-- The type of the results. -/
def resultType (type : DataType) : DataType :=
  .char (computeMaximumSubstringLength startPosition substringLength type) type.isNullable

/-- What `applyToChecked` writes to its output. -/
def checkedBytes (argument : TypedValue) (argumentType : DataType) : List (BitVec 8) :=
  writtenBytes argument.getOutOfLineData startPosition.toNat argument.getAsciiStringLength
    substringLength.toNat
    (computeMaximumSubstringLength startPosition substringLength argumentType).toNat

/-- What `computeSubstring` of the operator for a type writes to its output. The operator has the
maximum length of a result for its substring length. -/
def computeSubstring (type : DataType) (input : List (BitVec 8)) : List (BitVec 8) :=
  let substringLength := (computeMaximumSubstringLength startPosition substringLength type).toNat
  let stringLength :=
    strnlen input (if type.getTypeID = .varChar then input.length else type.getStringLength.toNat)
  writtenBytes input startPosition.toNat stringLength substringLength substringLength

/-- `CreateWithOwnedData` of a CHAR. The size is kept in the upper 56 bits of a word. -/
def createWithOwnedData (memory : WordMemory 8) (size : BitVec 64) : TypedValue :=
  .char (read memory 0 ((size <<< 8) >>> 8).toNat)

/-! The memory that the output is allocated in is arbitrary. -/

namespace InMemory

def applyToChecked (memory : WordMemory 8) (argument : TypedValue) (argumentType : DataType) :
    TypedValue :=
  if argumentType.isNullable && argument.isNull then
    (resultType startPosition substringLength argumentType).makeNullValue
  else
    createWithOwnedData
      (memcpy memory 0 (checkedBytes startPosition substringLength argument argumentType))
      (computeMaximumSubstringLength startPosition substringLength argumentType)

def applyToDataPtr (memory : WordMemory 8) (type : DataType) (argument : Option (List (BitVec 8))) :
    TypedValue :=
  match argument with
  | none => (resultType startPosition substringLength type).makeNullValue
  | some input =>
    createWithOwnedData (memcpy memory 0 (computeSubstring startPosition substringLength type input))
      (computeMaximumSubstringLength startPosition substringLength type)

def applyToTypedValue (memory : WordMemory 8) (type : DataType) (argument : TypedValue) : TypedValue :=
  if type.isNullable && argument.isNull then
    (resultType startPosition substringLength type).makeNullValue
  else
    createWithOwnedData
      (memcpy memory 0
        (computeSubstring startPosition substringLength type argument.getOutOfLineData))
      (computeMaximumSubstringLength startPosition substringLength type)

/-- What the loops append for an argument. -/
def appended (type : DataType) (argument : TypedValue) : NativeColumnVector.Value :=
  if type.isNullable && argument.isNull then .null
  else .directWrite (computeSubstring startPosition substringLength type argument.getOutOfLineData)

/-- The loop over the arguments, with the length that is reserved for the results. -/
def appendSubstrings (type : DataType) {reserved_length_ : Nat} (values_ : WordMemory 8)
    (bits : BitVector false reserved_length_) (arguments : List TypedValue) :
    Exec (NativeColumnVector (resultType startPosition substringLength type) reserved_length_) :=
  (NativeColumnVector.create _ _ values_ bits).appendAll
    (arguments.map (appended startPosition substringLength type))

def applyToColumnVector (type : DataType) (argument : ColumnVector) (values_ : WordMemory 8)
    (bits : BitVector false argument.length) :=
  appendSubstrings startPosition substringLength type values_ bits argument

def applyToValueAccessor (type : DataType) {n : Nat} (accessor : ValueAccessor n)
    (argumentAttrId : Nat) (values_ : WordMemory 8) (bits : BitVector false accessor.getNumTuples) :=
  appendSubstrings startPosition substringLength type values_ bits (accessor.column argumentAttrId)

end InMemory

end Functions

theorem resultTypeForArgumentType_eq {startPosition substringLength : BitVec 64} {type : DataType}
    (isString : type.getSuperTypeID = .asciiString) :
    resultTypeForArgumentType startPosition substringLength type =
      some (resultType startPosition substringLength type) := if_pos isString

/-! ## The declared length -/

section Length

variable {startPosition substringLength : BitVec 64} {type : DataType}

theorem toNat_computeMaximumSubstringLength :
    (computeMaximumSubstringLength startPosition substringLength type).toNat =
      min substringLength.toNat (type.getStringLength - startPosition).toNat := by
  unfold computeMaximumSubstringLength
  simp only [BitVec.lt_def]
  split
  · next shorter => rw [Nat.min_eq_left shorter.le]
  · next longer => rw [Nat.min_eq_right (Nat.not_lt.mp longer)]

/-- No room for anything. -/
theorem computeMaximumSubstringLength_eq_zero_iff :
    (computeMaximumSubstringLength startPosition substringLength type).toNat = 0 ↔
      substringLength = 0 ∨ startPosition = type.getStringLength := by
  have none : substringLength.toNat = 0 ↔ substringLength = 0 := by
    rw [← BitVec.toNat_inj]
    rfl
  have atEnd : (type.getStringLength - startPosition).toNat = 0 ↔
      startPosition = type.getStringLength := by
    have start := startPosition.isLt
    have length := type.getStringLength.isLt
    rw [BitVec.toNat_sub, ← BitVec.toNat_inj]
    omega
  rw [toNat_computeMaximumSubstringLength, ← none, ← atEnd]
  omega

/-- A start position inside the type does not wrap around. -/
theorem toNat_computeMaximumSubstringLength_of_le
    (inside : startPosition.toNat ≤ type.getStringLength.toNat) :
    (computeMaximumSubstringLength startPosition substringLength type).toNat =
      min substringLength.toNat (type.getStringLength.toNat - startPosition.toNat) := by
  rw [toNat_computeMaximumSubstringLength, BitVec.toNat_sub_of_le (BitVec.le_def.mpr inside)]

theorem toNat_sizeBits (size : BitVec 64) : ((size <<< 8) >>> 8).toNat = size.toNat % 2 ^ 56 := by
  rw [BitVec.toNat_ushiftRight, BitVec.toNat_shiftLeft, Nat.shiftLeft_eq, Nat.shiftRight_eq_div_pow]
  omega

end Length

/-! ## The bytes that are written -/

section Bytes

/-- Text that is written with a terminator where there is room for it is read back. -/
theorem characters_read_terminated {text : List (BitVec 8)} {room : Nat} (fits : text.length ≤ room)
    (memory : WordMemory 8) (dest : Nat) :
    CString.characters
      (read (memcpy memory dest (text ++ if text.length < room then [0] else [])) dest room) =
      CString.characters text := by
  by_cases short : text.length < room
  · have length : (text ++ [0]).length ≤ room := by
      rw [List.length_append, List.length_singleton]
      omega
    rw [if_pos short, read_memcpy length, characters_append, characters_append_zero]
    exact List.mem_append_right text (List.mem_singleton_self 0)
  · rw [if_neg short, List.append_nil, read_memcpy_of_length (by omega)]

theorem characters_read_zero {room : Nat} (memory : WordMemory 8) (dest : Nat) :
    CString.characters (read (memcpy memory dest [0]) dest room) = [] := by
  cases room with
  | zero => rfl
  | succ room =>
    rw [read_memcpy (by simp)]
    rfl

variable {input : List (BitVec 8)} {startPosition stringLength maximumLength room : Nat}

/-- Nothing is written behind the room, unless there is none for the terminator of an empty string. -/
theorem length_writtenBytes_le_iff
    (bound : startPosition < stringLength → min (stringLength - startPosition) maximumLength ≤ room) :
    (writtenBytes input startPosition stringLength maximumLength room).length ≤ room ↔
      (stringLength ≤ startPosition → room ≠ 0) := by
  unfold writtenBytes
  by_cases beyond : startPosition ≥ stringLength
  · rw [if_pos beyond, List.length_singleton]
    constructor
    · intro one _
      omega
    · intro some
      have := some beyond
      omega
  · have bound := bound (Nat.not_le.mp beyond)
    rw [if_neg beyond]
    refine iff_of_true ?_ fun behind => absurd behind beyond
    simp only [List.length_append, List.length_take]
    split
    · rw [List.length_singleton]
      omega
    · rw [List.length_nil]
      omega

theorem characters_writtenBytes_self :
    CString.characters (writtenBytes input startPosition stringLength maximumLength room) =
      if startPosition ≥ stringLength then []
      else (CString.characters (input.drop startPosition)).take
        (min (stringLength - startPosition) maximumLength) := by
  unfold writtenBytes
  split
  · rfl
  · rw [← characters_take_eq]
    simp only
    split
    · exact characters_append_zero _
    · rw [List.append_nil]

/-- The characters of what is read back. -/
theorem characters_writtenBytes (covered : stringLength ≤ input.length)
    (bound : startPosition < stringLength → min (stringLength - startPosition) maximumLength ≤ room)
    (memory : WordMemory 8) (dest : Nat) :
    CString.characters (read
      (memcpy memory dest (writtenBytes input startPosition stringLength maximumLength room)) dest room) =
      if startPosition ≥ stringLength then []
      else (CString.characters (input.drop startPosition)).take
        (min (stringLength - startPosition) maximumLength) := by
  unfold writtenBytes
  by_cases beyond : startPosition ≥ stringLength
  · rw [if_pos beyond, if_pos beyond]
    exact characters_read_zero memory dest
  · rw [if_neg beyond, if_neg beyond, ← characters_take_eq]
    have length : ((input.drop startPosition).take
        (min (stringLength - startPosition) maximumLength)).length =
        min (stringLength - startPosition) maximumLength := by
      rw [List.length_take, List.length_drop]
      omega
    have written := characters_read_terminated (length.trans_le (bound (Nat.not_le.mp beyond))) memory dest
    rwa [length] at written

end Bytes

/-! ## What the results should be -/

section Results

variable (startPosition substringLength : BitVec 64)

/-- The characters of the substring. -/
def cut (argument : TypedValue) : List Nat :=
  (argument.characters.drop startPosition.toNat).take substringLength.toNat

/-- The substring as a CHAR of the declared length. -/
def IsSubstring (type : DataType) (argument result : TypedValue) : Prop :=
  ∃ data, result = .char data ∧
    data.length = (computeMaximumSubstringLength startPosition substringLength type).toNat ∧
    CString.characters data = cut startPosition substringLength argument

/-- A value of a string type, as the debug checks demand it. -/
structure HasArgument (type : DataType) (argument : TypedValue) : Prop where
  nullable : argument.isNull = true → type.isNullable = true
  stores : argument.isNull = false → type.Stores argument
  sized : argument.getTypeID = .varChar →
    argument.getOutOfLineData.length ≤ type.getStringLength.toNat + 1

/-- When the start position and the length go well together with an argument: the declared length fits
in the size of a value, there is room for the terminator where the argument is over before the start
position, and a VARCHAR that has bytes behind its terminator is not cut there. -/
structure CutsWell (type : DataType) (argument : TypedValue) : Prop where
  size : substringLength.toNat < 2 ^ 56 ∨ (type.getStringLength - startPosition).toNat < 2 ^ 56
  beforeEnd : startPosition ≠ type.getStringLength
  nonempty : substringLength = 0 → startPosition.toNat < argument.characters.length
  notBehind : argument.getTypeID = .varChar → argument.characters.length < startPosition.toNat →
    startPosition.toNat + 1 < argument.getOutOfLineData.length →
      argument.getOutOfLineData[startPosition.toNat]? = some 0

end Results

/-! ## What is written of an argument -/

section Arguments

variable {startPosition substringLength : BitVec 64} {type : DataType} {argument : TypedValue}

/-- The string lengths that the two forms take: the unchecked one that of the string, the checked one
of a VARCHAR that of its data. -/
structure Lengths (type : DataType) (argument : TypedValue) : Prop where
  fits : argument.characters.length ≤ argument.getAsciiStringLength
  bound : argument.getAsciiStringLength ≤ type.getStringLength.toNat
  covered : argument.getAsciiStringLength ≤ argument.getOutOfLineData.length
  unchecked : strnlen argument.getOutOfLineData (if type.getTypeID = .varChar then
    argument.getOutOfLineData.length else type.getStringLength.toNat) = argument.characters.length
  char : argument.getTypeID ≠ .varChar → argument.getAsciiStringLength = argument.characters.length
  varChar : argument.getTypeID = .varChar →
    argument.getAsciiStringLength + 1 = argument.getOutOfLineData.length

theorem HasArgument.lengths (valid : HasArgument type argument) (notNull : argument.isNull = false) :
    Lengths type argument := by
  have stores := valid.stores notNull
  have sized := valid.sized
  cases stores with
  | @char length nullable data fits _ =>
    have short : (CString.characters data).length ≤ data.length := length_characters_le data
    have own : (TypedValue.char data).getAsciiStringLength = (CString.characters data).length := by
      show strnlen data data.length = _
      rw [strnlen_eq, Nat.min_eq_right short]
    refine ⟨own.ge, ?_, own.trans_le short, ?_, fun _ => own, nofun⟩
    · rw [own]
      exact short.trans fits
    · show strnlen data length.toNat = (CString.characters data).length
      rw [strnlen_eq, Nat.min_eq_right (short.trans fits)]
  | @varChar length nullable data ends fits =>
    have shorter : (CString.characters data).length < data.length := length_characters_lt ends
    have size : data.length ≤ length.toNat + 1 := sized rfl
    have own : (TypedValue.varChar data).getAsciiStringLength = data.length - 1 := rfl
    refine ⟨?_, ?_, ?_, ?_, fun notVarChar => absurd rfl notVarChar, fun _ => ?_⟩
    · rw [own]
      exact Nat.le_sub_one_of_lt shorter
    · rw [own]
      exact Nat.sub_le_of_le_add size
    · rw [own]
      exact Nat.sub_le _ _
    · show strnlen data data.length = (CString.characters data).length
      rw [strnlen_eq, Nat.min_eq_right shorter.le]
    · rw [own]
      show data.length - 1 + 1 = data.length
      omega

/-- A copy never exceeds the declared length. -/
theorem Lengths.copied_le (lengths : Lengths type argument) {stringLength : Nat}
    (bound : stringLength ≤ argument.getAsciiStringLength) (inside : startPosition.toNat < stringLength) :
    min (stringLength - startPosition.toNat) substringLength.toNat ≤
      (computeMaximumSubstringLength startPosition substringLength type).toNat := by
  have limit := lengths.bound
  rw [toNat_computeMaximumSubstringLength_of_le (by omega)]
  omega

/-- Within the string a copy has the characters of the substring. -/
theorem cut_of_le {limit : Nat}
    (inside : startPosition.toNat ≤ argument.characters.length)
    (enough : min limit (argument.characters.length - startPosition.toNat) =
      min substringLength.toNat (argument.characters.length - startPosition.toNat)) :
    (CString.characters (argument.getOutOfLineData.drop startPosition.toNat)).take limit =
      cut startPosition substringLength argument := by
  rw [characters_drop inside]
  unfold cut
  apply List.take_eq_take_iff.mpr
  rw [List.length_drop]
  exact enough

/-- Behind the string there is nothing to cut. -/
theorem cut_of_ge (behind : argument.characters.length ≤ startPosition.toNat) :
    cut startPosition substringLength argument = [] := by
  unfold cut
  rw [List.drop_eq_nil_of_le behind, List.take_nil]

/-- The operators cut the string at its own end and at the declared length. -/
theorem Lengths.cut_eq (lengths : Lengths type argument) :
    (if startPosition.toNat ≥ argument.characters.length then []
      else (CString.characters (argument.getOutOfLineData.drop startPosition.toNat)).take
        (min (argument.characters.length - startPosition.toNat)
          (computeMaximumSubstringLength startPosition substringLength type).toNat)) =
      cut startPosition substringLength argument := by
  have bound := lengths.bound
  have fits := lengths.fits
  split
  · next behind => exact (cut_of_ge behind).symm
  · next inside =>
    have inside := Nat.not_le.mp inside
    apply cut_of_le inside.le
    rw [toNat_computeMaximumSubstringLength_of_le (by omega)]
    omega

theorem Lengths.characters_computeSubstring (lengths : Lengths type argument) :
    CString.characters
      (computeSubstring startPosition substringLength type argument.getOutOfLineData) =
      cut startPosition substringLength argument := by
  unfold computeSubstring
  simp only [lengths.unchecked]
  rw [characters_writtenBytes_self]
  exact lengths.cut_eq

/-- **The unchecked operator** writes the substring, and a terminator too much where there is no room. -/
theorem Lengths.computeSubstring_spec (lengths : Lengths type argument) :
    ((computeSubstring startPosition substringLength type argument.getOutOfLineData).length ≤
        (computeMaximumSubstringLength startPosition substringLength type).toNat ↔
      (argument.characters.length ≤ startPosition.toNat →
        (computeMaximumSubstringLength startPosition substringLength type).toNat ≠ 0)) ∧
      ∀ memory dest, CString.characters (read
        (memcpy memory dest
          (computeSubstring startPosition substringLength type argument.getOutOfLineData)) dest
        (computeMaximumSubstringLength startPosition substringLength type).toNat) =
          cut startPosition substringLength argument := by
  unfold computeSubstring
  simp only [lengths.unchecked]
  refine ⟨length_writtenBytes_le_iff fun _ => Nat.min_le_right _ _, fun memory dest => ?_⟩
  have covered : argument.characters.length ≤ argument.getOutOfLineData.length := length_characters_le _
  rw [characters_writtenBytes covered fun _ => Nat.min_le_right _ _]
  exact lengths.cut_eq

theorem length_checkedBytes_le_iff (lengths : Lengths type argument) :
    (checkedBytes startPosition substringLength argument type).length ≤
        (computeMaximumSubstringLength startPosition substringLength type).toNat ↔
      (argument.getAsciiStringLength ≤ startPosition.toNat →
        (computeMaximumSubstringLength startPosition substringLength type).toNat ≠ 0) :=
  length_writtenBytes_le_iff fun inside => lengths.copied_le (Nat.le_refl _) inside

/-- **The checked form** writes the substring, unless it cuts behind the terminator of a VARCHAR. -/
theorem Lengths.characters_checkedBytes_iff (lengths : Lengths type argument)
    (nonempty : substringLength = 0 → startPosition.toNat < argument.characters.length)
    (memory : WordMemory 8) (dest : Nat) :
    CString.characters (read
      (memcpy memory dest (checkedBytes startPosition substringLength argument type)) dest
      (computeMaximumSubstringLength startPosition substringLength type).toNat) =
        cut startPosition substringLength argument ↔
      (argument.getTypeID = .varChar → argument.characters.length < startPosition.toNat →
        startPosition.toNat + 1 < argument.getOutOfLineData.length →
          argument.getOutOfLineData[startPosition.toNat]? = some 0) := by
  have fits := lengths.fits
  have covered := lengths.covered
  unfold checkedBytes
  rw [characters_writtenBytes covered fun inside => lengths.copied_le (Nat.le_refl _) inside]
  split
  · next beyond =>
    refine iff_of_true (cut_of_ge (by omega)).symm fun isVarChar _ behind => ?_
    have size := lengths.varChar isVarChar
    omega
  · next inside =>
    have inside := Nat.not_le.mp inside
    by_cases inString : startPosition.toNat ≤ argument.characters.length
    · refine iff_of_true (cut_of_le inString (by omega)) fun _ behind _ => ?_
      omega
    · -- Behind the terminator: the data goes on, so it is a VARCHAR.
      have behind := Nat.not_le.mp inString
      have isVarChar : argument.getTypeID = .varChar := by
        by_contra notVarChar
        have own := lengths.char notVarChar
        omega
      have size := lengths.varChar isVarChar
      have some : substringLength.toNat ≠ 0 := by
        intro none
        have := nonempty (BitVec.eq_of_toNat_eq none)
        omega
      rw [cut_of_ge behind.le, List.take_eq_nil_iff, characters_drop_eq_nil_iff (by omega)]
      constructor
      · rintro (none | nul) _ _ _
        · omega
        · exact nul
      · intro nul
        exact .inr (nul isVarChar behind (by omega))

end Arguments

/-! ## Exactness -/

section Exactness

variable (startPosition substringLength : BitVec 64) (type : DataType)

/-- A result column has one substring per argument, and NULL for NULL. -/
def HoldsSubstrings (arguments : List TypedValue) {reserved_length_ : Nat}
    (run : Exec (NativeColumnVector (resultType startPosition substringLength type) reserved_length_)) :
    Prop :=
  ∃ column, run = .ok column ∧ column.size = arguments.length ∧
    ∀ (k : Nat) (argument : TypedValue), arguments[k]? = some argument →
      if argument.isNull then column.getTypedValue k = .null .char
      else IsSubstring startPosition substringLength type argument (column.getTypedValue k)

/-- All forms return the substring of every argument and write nothing behind its declared length. -/
structure Exact (arguments : List TypedValue) : Prop where
  checked : ∀ argument ∈ arguments, argument.isNull = false → ∀ memory,
    IsSubstring startPosition substringLength type argument
      (InMemory.applyToChecked startPosition substringLength memory argument type)
  typedValue : ∀ argument ∈ arguments, argument.isNull = false → ∀ memory,
    IsSubstring startPosition substringLength type argument
      (InMemory.applyToTypedValue startPosition substringLength memory type argument)
  dataPtr : ∀ argument ∈ arguments, argument.isNull = false → ∀ memory,
    IsSubstring startPosition substringLength type argument
      (InMemory.applyToDataPtr startPosition substringLength memory type
        (some argument.getOutOfLineData))
  columnVector : ∀ values_ bits, HoldsSubstrings startPosition substringLength type arguments
    (InMemory.applyToColumnVector startPosition substringLength type arguments values_ bits)
  valueAccessor : ∀ {n : Nat} (accessor : ValueAccessor n) argumentAttrId values_ bits,
    accessor.column argumentAttrId = arguments →
      HoldsSubstrings startPosition substringLength type arguments
        (InMemory.applyToValueAccessor startPosition substringLength type accessor argumentAttrId values_
          bits)
  reserved : ∀ reserved_length_ values_ (bits : BitVector false reserved_length_),
    arguments.length ≤ reserved_length_ → HoldsSubstrings startPosition substringLength type arguments
      (InMemory.appendSubstrings startPosition substringLength type values_ bits arguments)
  checkedWrites : ∀ argument ∈ arguments, argument.isNull = false →
    (checkedBytes startPosition substringLength argument type).length ≤
      (computeMaximumSubstringLength startPosition substringLength type).toNat
  writes : ∀ argument ∈ arguments, argument.isNull = false →
    (computeSubstring startPosition substringLength type argument.getOutOfLineData).length ≤
      (computeMaximumSubstringLength startPosition substringLength type).toNat

end Exactness

section Exactness

variable {startPosition substringLength : BitVec 64} {type : DataType} {argument : TypedValue}
  {arguments : List TypedValue}

theorem isSubstring_createWithOwnedData_iff {memory : WordMemory 8} :
    IsSubstring startPosition substringLength type argument
        (createWithOwnedData memory
          (computeMaximumSubstringLength startPosition substringLength type)) ↔
      (computeMaximumSubstringLength startPosition substringLength type).toNat < 2 ^ 56 ∧
        CString.characters
          (read memory 0 (computeMaximumSubstringLength startPosition substringLength type).toNat) =
            cut startPosition substringLength argument := by
  unfold IsSubstring createWithOwnedData
  rw [toNat_sizeBits]
  constructor
  · rintro ⟨data, same, length, characters⟩
    cases same
    rw [length_read] at length
    have small : (computeMaximumSubstringLength startPosition substringLength type).toNat < 2 ^ 56 := by
      rw [← length]
      exact Nat.mod_lt _ (by decide)
    rw [Nat.mod_eq_of_lt small] at characters
    exact ⟨small, characters⟩
  · rintro ⟨small, characters⟩
    rw [Nat.mod_eq_of_lt small]
    exact ⟨_, rfl, length_read, characters⟩

theorem size_iff :
    (computeMaximumSubstringLength startPosition substringLength type).toNat < 2 ^ 56 ↔
      substringLength.toNat < 2 ^ 56 ∨ (type.getStringLength - startPosition).toNat < 2 ^ 56 := by
  rw [toNat_computeMaximumSubstringLength, min_lt_iff]

/-- There is room for the terminator of an empty result. -/
theorem CutsWell.room (well : CutsWell startPosition substringLength type argument)
    (behind : argument.characters.length ≤ startPosition.toNat) :
    (computeMaximumSubstringLength startPosition substringLength type).toNat ≠ 0 := by
  rw [ne_eq, computeMaximumSubstringLength_eq_zero_iff]
  rintro (none | atEnd)
  · have := well.nonempty none
    omega
  · exact well.beforeEnd atEnd

/-- What is written ends with a terminator if it does not fill the room. -/
theorem zero_mem_writtenBytes {input : List (BitVec 8)}
    {startPosition stringLength maximumLength room : Nat} (covered : stringLength ≤ input.length)
    (short : (writtenBytes input startPosition stringLength maximumLength room).length < room) :
    0 ∈ writtenBytes input startPosition stringLength maximumLength room := by
  unfold writtenBytes at short ⊢
  split at short
  · next beyond =>
    rw [if_pos beyond]
    exact List.mem_singleton_self 0
  · next inside =>
    rw [if_neg inside]
    simp only at short ⊢
    split at short
    · next terminated =>
      rw [if_pos terminated]
      exact List.mem_append_right _ (List.mem_singleton_self 0)
    · rw [List.append_nil, List.length_take, List.length_drop] at short
      omega

theorem usable_resultType :
    NativeColumnVector.usableForType (resultType startPosition substringLength type) = true := by
  simp [resultType, NativeColumnVector.usableForType, DataType.isVariableLength,
    DataType.minimumByteLength, DataType.maximumByteLength]

/-- The bytes fit at a position of the result. -/
theorem CutsWell.fits (well : CutsWell startPosition substringLength type argument)
    (lengths : Lengths type argument) :
    NativeColumnVector.Fits (resultType startPosition substringLength type)
      (computeSubstring startPosition substringLength type argument.getOutOfLineData) := by
  have short := lengths.computeSubstring_spec.1.mpr well.room
  rcases Nat.lt_or_eq_of_le short with less | full
  · refine .inr ⟨rfl, less, ?_⟩
    unfold computeSubstring at less ⊢
    simp only [lengths.unchecked] at less ⊢
    exact zero_mem_writtenBytes (length_characters_le _) less
  · exact .inl full

/-- What is appended can be put into the result. -/
theorem placeable_appended (valid : HasArgument type argument)
    (well : argument.isNull = false → CutsWell startPosition substringLength type argument) :
    NativeColumnVector.Placeable (resultType startPosition substringLength type)
      (InMemory.appended startPosition substringLength type argument) := by
  apply NativeColumnVector.Value.Checked.placeable usable_resultType
  unfold InMemory.appended
  cases null : argument.isNull with
  | true =>
    have nullable := valid.nullable null
    rw [nullable]
    exact nullable
  | false =>
    rw [Bool.and_false, if_neg Bool.false_ne_true]
    exact ⟨nofun, (well null).fits (valid.lengths null)⟩

/-- **The loop with enough room.** -/
theorem holdsSubstrings (valid : ∀ argument ∈ arguments, HasArgument type argument)
    (well : ∀ argument ∈ arguments, argument.isNull = false →
      CutsWell startPosition substringLength type argument)
    {reserved_length_ : Nat} (values_ : WordMemory 8) (bits : BitVector false reserved_length_)
    (room : arguments.length ≤ reserved_length_) :
    HoldsSubstrings startPosition substringLength type arguments
      (InMemory.appendSubstrings startPosition substringLength type values_ bits arguments) := by
  have placeable : ∀ value ∈ arguments.map (InMemory.appended startPosition substringLength type),
      NativeColumnVector.Placeable (resultType startPosition substringLength type) value := by
    intro value mem
    obtain ⟨argument, argumentMem, rfl⟩ := List.mem_map.mp mem
    exact placeable_appended (valid argument argumentMem) (well argument argumentMem)
  obtain ⟨column, run, holds⟩ := NativeColumnVector.appendAll_holds values_ bits placeable (by
    rwa [List.length_map])
  refine ⟨column, run, ?_, fun k argument found => ?_⟩
  · have size : column.size = _ := holds.size
    rw [size, List.length_map, List.length_map]
  have mem := List.mem_of_getElem? found
  have appended : (arguments.map (InMemory.appended startPosition substringLength type))[k]? =
      some (InMemory.appended startPosition substringLength type argument) := by
    rw [List.getElem?_map, found, Option.map_some]
  obtain ⟨isChar, same⟩ := holds.getTypedValue_of_getElem? appended
  unfold InMemory.appended at same
  cases null : argument.isNull with
  | true =>
    have nullable := (valid argument mem).nullable null
    rw [null, nullable] at same
    rw [if_pos rfl]
    exact same.symm
  | false =>
    have lengths := (valid argument mem).lengths null
    rw [null, Bool.and_false, if_neg Bool.false_ne_true] at same
    rw [if_neg Bool.false_ne_true]
    unfold NativeColumnVector.getTypedValue at same ⊢
    split at same
    · cases same
    · next notNull =>
      rw [if_neg notNull]
      refine ⟨column.cell k, rfl, length_read, ?_⟩
      rw [← lengths.characters_computeSubstring]
      exact same.symm

/-- **SUBSTRING is exact** on some arguments if and only if the start position and the length go well
together with each of them. -/
theorem substring_exact_iff (valid : ∀ argument ∈ arguments, HasArgument type argument) :
    Exact startPosition substringLength type arguments ↔
      ∀ argument ∈ arguments, argument.isNull = false →
        CutsWell startPosition substringLength type argument := by
  constructor
  · intro exact argument mem notNull
    have lengths := (valid argument mem).lengths notNull
    have typed := exact.typedValue argument mem notNull fun _ => 0
    have checked := exact.checked argument mem notNull fun _ => 0
    unfold InMemory.applyToTypedValue at typed
    unfold InMemory.applyToChecked at checked
    rw [notNull, Bool.and_false, if_neg Bool.false_ne_true] at typed checked
    have room := lengths.computeSubstring_spec.1.mp (exact.writes argument mem notNull)
    have nonempty (none : substringLength = 0) :
        startPosition.toNat < argument.characters.length := by
      by_contra behind
      exact room (Nat.not_lt.mp behind) (computeMaximumSubstringLength_eq_zero_iff.mpr (.inl none))
    refine ⟨size_iff.mp (isSubstring_createWithOwnedData_iff.mp typed).1, fun atEnd => ?_, nonempty, ?_⟩
    · have behind : argument.characters.length ≤ startPosition.toNat := by
        have := lengths.fits
        have := lengths.bound
        rw [atEnd]
        omega
      exact room behind (computeMaximumSubstringLength_eq_zero_iff.mpr (.inr atEnd))
    · exact (lengths.characters_checkedBytes_iff nonempty _ _).mp
        (isSubstring_createWithOwnedData_iff.mp checked).2
  · intro well
    have unchecked (argument) (mem : argument ∈ arguments) (notNull : argument.isNull = false)
        (memory : WordMemory 8) : IsSubstring startPosition substringLength type argument
          (createWithOwnedData (memcpy memory 0
            (computeSubstring startPosition substringLength type argument.getOutOfLineData))
            (computeMaximumSubstringLength startPosition substringLength type)) := by
      have lengths := (valid argument mem).lengths notNull
      apply isSubstring_createWithOwnedData_iff.mpr
      exact ⟨size_iff.mpr (well argument mem notNull).size, lengths.computeSubstring_spec.2 memory 0⟩
    refine ⟨?_, ?_, unchecked, ?_, ?_, ?_, ?_, ?_⟩
    · intro argument mem notNull memory
      have lengths := (valid argument mem).lengths notNull
      have well := well argument mem notNull
      unfold InMemory.applyToChecked
      rw [notNull, Bool.and_false, if_neg Bool.false_ne_true]
      apply isSubstring_createWithOwnedData_iff.mpr
      exact ⟨size_iff.mpr well.size,
        (lengths.characters_checkedBytes_iff well.nonempty memory 0).mpr well.notBehind⟩
    · intro argument mem notNull memory
      unfold InMemory.applyToTypedValue
      rw [notNull, Bool.and_false, if_neg Bool.false_ne_true]
      exact unchecked argument mem notNull memory
    · intro values_ bits
      exact holdsSubstrings valid well values_ bits (Nat.le_refl _)
    · rintro n accessor argumentAttrId values_ bits rfl
      apply holdsSubstrings valid well values_ bits
      unfold ValueAccessor.column
      rw [List.length_map, ValueAccessor.length_positions]
    · intro reserved_length_ values_ bits room
      exact holdsSubstrings valid well values_ bits room
    · intro argument mem notNull
      have lengths := (valid argument mem).lengths notNull
      apply (length_checkedBytes_le_iff lengths).mpr
      intro behind
      exact (well argument mem notNull).room (lengths.fits.trans behind)
    · intro argument mem notNull
      have lengths := (valid argument mem).lengths notNull
      exact lengths.computeSubstring_spec.1.mpr (well argument mem notNull).room

/-- The characters 1 and 2 of a CHAR that fills its length. -/
theorem substring_exact_iff_char :
    Exact 1 2 (.char 3 false) [.char [97#8, 98#8, 99#8]] ↔
      ∀ argument ∈ [TypedValue.char [97#8, 98#8, 99#8]], argument.isNull = false →
        CutsWell 1 2 (.char 3 false) argument := by
  apply substring_exact_iff
  intro argument mem
  rcases List.mem_singleton.mp mem with rfl
  exact ⟨nofun, fun _ => .char (by decide) (.inl rfl), nofun⟩

/-- A start position at the end of the type leaves no room for a terminator, which is written. -/
theorem not_substring_exact :
    ¬ ∀ startPosition substringLength : BitVec 64, ∀ (type : DataType) (arguments : List TypedValue),
      (∀ argument ∈ arguments, HasArgument type argument) →
        Exact startPosition substringLength type arguments := by
  intro always
  have exact := always 3 2 (.char 3 false) [.char [97#8, 98#8, 99#8]] (by
    intro argument mem
    rcases List.mem_singleton.mp mem with rfl
    exact ⟨nofun, fun _ => .char (by decide) (.inl rfl), nofun⟩)
  have writes := exact.writes _ (List.mem_singleton_self _) rfl
  exact absurd writes (by decide)

end Exactness

end SubstringOperation

end Quickstep.Types
