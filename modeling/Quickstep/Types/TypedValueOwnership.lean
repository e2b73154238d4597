import Quickstep.Lib.Ownership
import Quickstep.Types.TypedValue

/-!
# Who owns the data of a value

The special member functions of `TypedValue` as they work on memory. A word of 64 bits holds the type, the
NULL indicator, the ownership bit and the size of the data; the data of a string lies behind a pointer, and
a value either owns it or refers to it.
-/

namespace Quickstep.Types
open Quickstep.Lib

/-- Where some data is: a block of memory, and the offset in it. -/
structure Address where
  block : Pointer
  offset : Nat
  deriving DecidableEq

/-- `value_union_`, which holds a pointer or a literal. -/
inductive ValueUnion where
  | outOfLineData (address : Address)
  | hash64 (bits : BitVec 64)
  deriving DecidableEq

/-- A `TypedValue` as an object in memory. -/
structure ValueObject where
  valueUnion : ValueUnion
  valueInfo : BitVec 64
  deriving DecidableEq

/-- The blocks of memory. -/
abbrev Memory := Heap (List (BitVec 8))

/-- `static_cast<std::uint64_t>(type_id)`. -/
def TypeID.code : TypeID → BitVec 64
  | .int => 0#64
  | .long => 1#64
  | .float => 2#64
  | .double => 3#64
  | .char => 4#64
  | .varChar => 5#64
  | .date => 6#64
  | .datetime => 7#64
  | .datetimeInterval => 8#64
  | .yearMonthInterval => 9#64
  | .nullType => 10#64

/-- The types whose values have their data behind a pointer. -/
def TypeID.isString : TypeID → Bool
  | .char | .varChar => true
  | .int | .long | .float | .double | .date | .datetime | .datetimeInterval | .yearMonthInterval
  | .nullType => false

namespace ValueObject

def kTypeIDMask : BitVec 64 := 0x3F#64

def kNullIndicatorMask : BitVec 64 := 0x40#64

def kOwnershipMask : BitVec 64 := 0x80#64

def kNonSizeBitsMask : BitVec 64 := 0xFF#64

def kSizeBitsMask : BitVec 64 := ~~~kNonSizeBitsMask

def kSizeShift : Nat := 8

variable (value : ValueObject)

def isNull : Bool := value.valueInfo &&& kNullIndicatorMask != 0#64

def isReference : Bool :=
  value.valueInfo &&& kSizeBitsMask != 0#64 && value.valueInfo &&& kOwnershipMask == 0#64

def ownsOutOfLineData : Bool :=
  value.valueInfo &&& kOwnershipMask != 0#64 && value.valueInfo &&& kSizeBitsMask != 0#64

/-- `getTypeID`, as a number. -/
def typeCode : BitVec 64 := value.valueInfo &&& kTypeIDMask

def getDataSize : BitVec 64 :=
  if value.typeCode = TypeID.int.code ∨ value.typeCode = TypeID.float.code then 4
  else if value.typeCode = TypeID.long.code ∨ value.typeCode = TypeID.double.code ∨
      value.typeCode = TypeID.date.code ∨ value.typeCode = TypeID.datetime.code ∨
      value.typeCode = TypeID.datetimeInterval.code ∨ value.typeCode = TypeID.yearMonthInterval.code then 8
  else value.valueInfo >>> kSizeShift

/-! ## Constructors -/

/-- The default constructor. -/
def create : ValueObject := ⟨.hash64 0#64, 0#64⟩

/-- The constructors from a literal. -/
def ofLiteral (typeId : TypeID) (bits : BitVec 64) : ValueObject := ⟨.hash64 bits, typeId.code⟩

/-- The constructor of a NULL value. -/
def ofNull (typeId : TypeID) : ValueObject := ⟨.hash64 0#64, typeId.code ||| kNullIndicatorMask⟩

/-- The constructor of a reference. -/
def ofData (typeCode : BitVec 64) (address : Address) (size : BitVec 64) : ValueObject :=
  ⟨.outOfLineData address, typeCode ||| size <<< kSizeShift⟩

/-- `CreateWithOwnedData`. -/
def createWithOwnedData (typeCode : BitVec 64) (address : Address) (size : BitVec 64) : ValueObject :=
  ⟨.outOfLineData address, (ofData typeCode address size).valueInfo ||| kOwnershipMask⟩

/-- `markType`. -/
def markType (typeId : TypeID) : ValueObject :=
  ⟨value.valueUnion, value.valueInfo &&& ~~~kTypeIDMask ||| typeId.code⟩

/-! ## Members that use memory -/

/-- `memcpy` from `value_union_.out_of_line_data`. -/
def readData (memory : Memory) (size : BitVec 64) : Exec (List (BitVec 8)) :=
  match value.valueUnion with
  | .outOfLineData address => do
    let block ← memory.load address.block
    if address.offset + size.toNat ≤ block.length then pure ((block.drop address.offset).take size.toNat)
    else .error .undefinedBehaviour
  | .hash64 _ => .error .undefinedBehaviour

/-- `std::free` of `value_union_.out_of_line_data`. -/
def freeData (memory : Memory) : Exec Memory :=
  match value.valueUnion with
  | .outOfLineData address =>
    if address.offset = 0 then memory.free address.block else .error .undefinedBehaviour
  | .hash64 _ => .error .undefinedBehaviour

def convertToLiteral (memory : Memory) : Exec (ValueObject × Memory) := do
  let data ← value.readData memory value.getDataSize
  pure (⟨.outOfLineData ⟨memory.next, 0⟩, value.valueInfo ||| kOwnershipMask⟩, memory.alloc data)

/-- What the destructor, `clear` and the assignments do first. -/
def release (memory : Memory) : Exec Memory :=
  if value.ownsOutOfLineData then value.freeData memory else pure memory

/-- What the copy constructor and the copy assignment make of the members that they have copied. -/
def copied (memory : Memory) : Exec (ValueObject × Memory) :=
  if value.ownsOutOfLineData then value.convertToLiteral memory else pure (value, memory)

def ensureNotReference (memory : Memory) : Exec (ValueObject × Memory) :=
  if value.isReference then value.convertToLiteral memory else pure (value, memory)

/-- `makeReferenceToThis`, of a value without data the copy constructor. -/
def makeReferenceToThis (memory : Memory) : Exec (ValueObject × Memory) :=
  if value.ownsOutOfLineData then
    match value.valueUnion with
    | .outOfLineData address => pure (ofData value.typeCode address value.getDataSize, memory)
    | .hash64 _ => .error .undefinedBehaviour
  else value.copied memory

/-- What is left of a value that was moved from. -/
def movedFrom : ValueObject := ⟨value.valueUnion, 0#64⟩

/-! ## The bits of `value_info_` -/

section Bits

theorem getLsbD_sizeBits (i : Nat) : kSizeBitsMask.getLsbD i = (decide (8 ≤ i) && decide (i < 64)) := by
  by_cases inside : i < 64
  · have all : ∀ i : Fin 64, kSizeBitsMask.getLsbD i = decide (8 ≤ i.val) := by decide
    simpa [inside] using all ⟨i, inside⟩
  · simp [inside, BitVec.getLsbD_of_ge _ _ (Nat.le_of_not_lt inside)]

/-- The size bits are zero if the size is. -/
theorem sizeBits_eq_zero_iff {info : BitVec 64} : info &&& kSizeBitsMask = 0#64 ↔ info >>> kSizeShift = 0#64 := by
  have shifted : (info >>> kSizeShift) <<< kSizeShift = info &&& kSizeBitsMask := by
    apply BitVec.eq_of_getLsbD_eq
    intro i inside
    rw [BitVec.getLsbD_and, getLsbD_sizeBits]
    simp only [BitVec.getLsbD_shiftLeft, BitVec.getLsbD_ushiftRight, kSizeShift, inside]
    by_cases high : 8 ≤ i
    · simp [high, Nat.not_lt.mpr high, Nat.add_sub_cancel' high]
    · simp [high, Nat.lt_of_not_le high]
  constructor
  · intro zero
    apply BitVec.eq_of_getLsbD_eq
    intro i inside
    rw [BitVec.getLsbD_ushiftRight, BitVec.getLsbD_zero]
    have bit := congrArg (·.getLsbD (kSizeShift + i)) zero
    simp only [BitVec.getLsbD_and, getLsbD_sizeBits] at bit
    by_cases within : kSizeShift + i < 64
    · have high : 8 ≤ kSizeShift + i := Nat.le_add_right 8 i
      simpa [within, high] using bit
    · exact BitVec.getLsbD_of_ge _ _ (Nat.le_of_not_lt within)
  · intro zero
    rw [← shifted, zero, BitVec.zero_shiftLeft]

theorem code_and_ownership (typeId : TypeID) : typeId.code &&& kOwnershipMask = 0#64 := by
  cases typeId <;> decide

/-- Nothing that is within the low bits is in the size. -/
theorem shift_of_low {low : BitVec 64} (small : low.toNat < 256) : low >>> kSizeShift = 0#64 := by
  apply BitVec.eq_of_toNat_eq
  rw [BitVec.toNat_ushiftRight, Nat.shiftRight_eq_div_pow]
  exact Nat.div_eq_of_lt small

/-- The low bits of a word whose size bits are shifted in. -/
theorem low_ofData {code size mask : BitVec 64} (low : mask.toNat < 256) :
    (code ||| size <<< kSizeShift) &&& mask = code &&& mask := by
  have none : size <<< kSizeShift &&& mask = 0#64 := by
    apply BitVec.eq_of_getLsbD_eq
    intro i inside
    rw [BitVec.getLsbD_and, BitVec.getLsbD_shiftLeft, BitVec.getLsbD_zero]
    by_cases high : i < kSizeShift
    · simp [high]
    · have clear : mask.getLsbD i = false := by
        rw [BitVec.getLsbD]
        apply Nat.testBit_lt_two_pow
        exact Nat.lt_of_lt_of_le low (Nat.pow_le_pow_right (Nat.succ_pos 1) (Nat.le_of_not_lt high))
      simp [clear]
  rw [BitVec.and_comm, BitVec.and_or_distrib_left, BitVec.and_comm mask (_ <<< _), none, BitVec.or_zero, BitVec.and_comm]

theorem toNat_code_lt (typeId : TypeID) : typeId.code.toNat < 64 := by
  cases typeId <;> decide

theorem code_and_mask (typeId : TypeID) : typeId.code &&& kTypeIDMask = typeId.code := by
  cases typeId <;> decide

/-- The bytes of data behind the pointer, zero for a value without data. -/
def size : BitVec 64 := value.valueInfo >>> kSizeShift

/-- The type of the value is that of strings. -/
def IsString : Prop := value.typeCode = TypeID.char.code ∨ value.typeCode = TypeID.varChar.code

variable {value}

theorem ownsOutOfLineData_iff :
    value.ownsOutOfLineData = true ↔ value.valueInfo &&& kOwnershipMask ≠ 0#64 ∧ value.size ≠ 0#64 := by
  unfold ownsOutOfLineData size
  rw [Bool.and_eq_true, bne_iff_ne, bne_iff_ne, ne_eq (_ &&& kSizeBitsMask), sizeBits_eq_zero_iff]

theorem isReference_iff :
    value.isReference = true ↔ value.size ≠ 0#64 ∧ value.valueInfo &&& kOwnershipMask = 0#64 := by
  unfold isReference size
  rw [Bool.and_eq_true, bne_iff_ne, beq_iff_eq, ne_eq, sizeBits_eq_zero_iff]

/-- Without the ownership bit a value owns nothing. -/
theorem not_owns (unowned : value.valueInfo &&& kOwnershipMask = 0#64) : value.ownsOutOfLineData = false := by
  rw [Bool.eq_false_iff, ne_eq, ownsOutOfLineData_iff]
  exact fun owns => owns.1 unowned

theorem not_isReference_of_owns (owns : value.ownsOutOfLineData = true) : value.isReference = false := by
  rw [Bool.eq_false_iff, ne_eq, isReference_iff]
  exact fun reference => (ownsOutOfLineData_iff.mp owns).1 reference.2

theorem getDataSize_of_isString (isString : value.IsString) : value.getDataSize = value.size := by
  unfold getDataSize
  rcases isString with char | varChar
  · rw [char, if_neg (by decide), if_neg (by decide)]
    rfl
  · rw [varChar, if_neg (by decide), if_neg (by decide)]
    rfl

theorem isString_of_typeCode {typeId : TypeID} (code : value.typeCode = typeId.code)
    (isString : typeId.isString = true) : value.IsString := by
  unfold IsString
  rw [code]
  cases typeId with
  | char => exact .inl rfl
  | varChar => exact .inr rfl
  | int | long | float | double | date | datetime | datetimeInterval | yearMonthInterval | nullType =>
    cases isString

section Marked

variable {typeId : TypeID}

theorem typeCode_markType : (value.markType typeId).typeCode = typeId.code := by
  unfold typeCode markType
  dsimp only
  rw [BitVec.and_comm, BitVec.and_or_distrib_left, BitVec.and_comm _ typeId.code, code_and_mask,
    BitVec.and_comm value.valueInfo, ← BitVec.and_assoc, show kTypeIDMask &&& ~~~kTypeIDMask = 0#64 from rfl,
    BitVec.zero_and, BitVec.zero_or]

/-- What the type is marked with does not reach the size. -/
theorem size_markType : (value.markType typeId).size = value.size := by
  unfold size markType
  dsimp only
  apply BitVec.eq_of_getLsbD_eq
  intro i inside
  have clear : typeId.code.getLsbD (kSizeShift + i) = false := by
    have zero := congrArg (·.getLsbD i) (shift_of_low (Nat.lt_trans (toNat_code_lt typeId) (by decide)))
    simpa [BitVec.getLsbD_ushiftRight] using zero
  have unmasked : kTypeIDMask.getLsbD (kSizeShift + i) = false := by
    have zero := congrArg (·.getLsbD i) (shift_of_low (show kTypeIDMask.toNat < 256 by decide))
    simpa [BitVec.getLsbD_ushiftRight] using zero
  simp only [BitVec.getLsbD_ushiftRight, BitVec.getLsbD_or, BitVec.getLsbD_and, BitVec.getLsbD_not, clear,
    unmasked, Bool.or_false, Bool.not_false, Bool.and_true]
  by_cases within : kSizeShift + i < 64
  · simp [within]
  · simp [BitVec.getLsbD_of_ge _ _ (Nat.le_of_not_lt within)]

theorem ownership_markType :
    (value.markType typeId).valueInfo &&& kOwnershipMask = value.valueInfo &&& kOwnershipMask := by
  unfold markType
  dsimp only
  rw [BitVec.and_comm, BitVec.and_or_distrib_left, BitVec.and_comm _ typeId.code, code_and_ownership, BitVec.or_zero,
    BitVec.and_comm value.valueInfo, ← BitVec.and_assoc,
    show kOwnershipMask &&& ~~~kTypeIDMask = kOwnershipMask from rfl, BitVec.and_comm]

end Marked

section Referring

variable {code : BitVec 64} {address : Address} {amount : BitVec 64}

/-- A reference owns nothing. -/
theorem not_owns_ofData (unowned : code &&& kOwnershipMask = 0#64) :
    (ofData code address amount).ownsOutOfLineData = false := by
  apply not_owns
  unfold ofData
  rw [low_ofData (by decide), unowned]

theorem typeCode_ofData : (ofData code address amount).typeCode = code &&& kTypeIDMask := by
  unfold typeCode ofData
  exact low_ofData (by decide)

theorem isString_ofData {typeId : TypeID} (isString : typeId.isString = true) :
    (ofData typeId.code address amount).IsString := by
  exact isString_of_typeCode (typeCode_ofData.trans (code_and_mask typeId)) isString

end Referring

section Owning

/-! A literal made of the data of another value differs from it by the ownership bit only. -/

variable {address : Address}

/-- The value with the ownership bit set and its data elsewhere. -/
def withOwnership (value : ValueObject) (address : Address) : ValueObject :=
  ⟨.outOfLineData address, value.valueInfo ||| kOwnershipMask⟩

@[simp] theorem typeCode_withOwnership : (value.withOwnership address).typeCode = value.typeCode := by
  unfold typeCode withOwnership
  dsimp only
  rw [BitVec.and_comm, BitVec.and_or_distrib_left, BitVec.and_comm,
    show kTypeIDMask &&& kOwnershipMask = 0#64 from rfl, BitVec.or_zero]

@[simp] theorem size_withOwnership : (value.withOwnership address).size = value.size := by
  unfold size withOwnership
  rw [BitVec.ushiftRight_or_distrib, show kOwnershipMask >>> kSizeShift = 0#64 from rfl, BitVec.or_zero]

@[simp] theorem getDataSize_withOwnership : (value.withOwnership address).getDataSize = value.getDataSize := by
  have shifted : (value.withOwnership address).valueInfo >>> kSizeShift = value.valueInfo >>> kSizeShift :=
    size_withOwnership
  unfold getDataSize
  rw [typeCode_withOwnership, shifted]

theorem owns_withOwnership (sized : value.size ≠ 0#64) :
    (value.withOwnership address).ownsOutOfLineData = true := by
  rw [ownsOutOfLineData_iff, size_withOwnership]
  refine ⟨?_, sized⟩
  unfold withOwnership
  dsimp only
  rw [BitVec.and_comm, BitVec.and_or_distrib_left, BitVec.and_self]
  intro zero
  have bit := congrArg (·.getLsbD 7) zero
  simp [kOwnershipMask] at bit

theorem unowned_withOwnership :
    (value.withOwnership address).valueInfo &&& ~~~kOwnershipMask = value.valueInfo &&& ~~~kOwnershipMask := by
  unfold withOwnership
  dsimp only
  rw [BitVec.and_comm, BitVec.and_or_distrib_left, BitVec.and_comm,
    show ~~~kOwnershipMask &&& kOwnershipMask = 0#64 from rfl, BitVec.or_zero]

end Owning

end Bits

/-! ## What a value owns -/

/-- The block that the value has to free. -/
def owned? (value : ValueObject) : Option Pointer :=
  if value.ownsOutOfLineData then
    match value.valueUnion with
    | .outOfLineData address => some address.block
    | .hash64 _ => none
  else none

/-- A value with a size is a string and has a pointer. The data that it owns is a block of its own. -/
structure Sound (memory : Memory) (value : ValueObject) : Prop where
  pointer : value.size ≠ 0#64 → value.IsString ∧ ∃ address, value.valueUnion = .outOfLineData address
  data : value.ownsOutOfLineData = true → ∃ block bytes, value.valueUnion = .outOfLineData ⟨block, 0⟩ ∧
    memory.Live block bytes ∧ value.getDataSize.toNat ≤ bytes.length

/-- What a value is worth: a literal, or the bytes of its data. -/
inductive Payload where
  | literal (valueUnion : ValueUnion)
  | data (bytes : Option (List (BitVec 8)))

/-- The type, the NULL indicator and the size of a value, with its payload. -/
def contents (memory : Memory) (value : ValueObject) : BitVec 64 × Payload :=
  (value.valueInfo &&& ~~~kOwnershipMask,
    if value.size = 0#64 then .literal value.valueUnion
    else .data (value.readData memory value.getDataSize).toOption)

/-- What a value refers to is there. -/
def Readable (memory : Memory) (value : ValueObject) : Prop :=
  value.isReference = true → ∃ data, value.readData memory value.getDataSize = .ok data

section Owned

variable {value value' : ValueObject} {memory memory' : Memory} {block : Pointer} {bytes : List (BitVec 8)}

theorem owned?_of_not_owns (free : value.ownsOutOfLineData = false) : value.owned? = none := by
  unfold owned?
  rw [free]
  rfl

theorem owned?_eq_some_iff : value.owned? = some block ↔
    value.ownsOutOfLineData = true ∧ ∃ offset, value.valueUnion = .outOfLineData ⟨block, offset⟩ := by
  unfold owned?
  split
  · next owns =>
    split
    · next address here =>
      obtain ⟨block', offset⟩ := address
      simp [owns, here]
    · next here => simp [here]
  · next free => simp [free]

theorem owned?_withOwnership {address : Address} (sized : value.size ≠ 0#64) :
    (value.withOwnership address).owned? = some address.block :=
  owned?_eq_some_iff.mpr ⟨owns_withOwnership sized, address.offset, rfl⟩

theorem readData_of_live {offset : Nat} {amount : BitVec 64}
    (here : value.valueUnion = .outOfLineData ⟨block, offset⟩) (live : memory.Live block bytes)
    (inside : offset + amount.toNat ≤ bytes.length) :
    value.readData memory amount = .ok ((bytes.drop offset).take amount.toNat) := by
  unfold readData
  rw [here]
  simp only [Heap.load_of_live live, Exec.ok_bind, if_pos inside]
  rfl

/-- The data that a value owns can be read. -/
theorem Sound.readData (h : Sound memory value) (owns : value.ownsOutOfLineData = true) :
    ∃ data, value.readData memory value.getDataSize = .ok data := by
  obtain ⟨block, bytes, here, live, inside⟩ := h.data owns
  exact ⟨_, readData_of_live here live (by rwa [Nat.zero_add])⟩

/-- What is read is there. -/
theorem live_of_readData {offset : Nat} {amount : BitVec 64} {data : List (BitVec 8)}
    (here : value.valueUnion = .outOfLineData ⟨block, offset⟩) (read : value.readData memory amount = .ok data) :
    ∃ bytes, memory.Live block bytes ∧ offset + amount.toNat ≤ bytes.length := by
  unfold ValueObject.readData at read
  rw [here] at read
  obtain ⟨bytes, loaded, read⟩ := Exec.bind_ok read
  refine ⟨bytes, Heap.live_of_load loaded, ?_⟩
  by_contra outside
  rw [if_neg outside] at read
  cases read

theorem exists_of_isOk {β : Type} {exec : Exec β} (isOk : exec.isOk = true) : ∃ result, exec = .ok result := by
  cases exec with
  | ok result => exact ⟨result, rfl⟩
  | error fault => cases isOk

/-- What is read comes out as long as it should be. -/
theorem length_readData {data : List (BitVec 8)} {amount : BitVec 64}
    (read : value.readData memory amount = .ok data) : data.length = amount.toNat := by
  unfold ValueObject.readData at read
  split at read
  · obtain ⟨block, _, read⟩ := Exec.bind_ok read
    split at read
    · cases read
      rw [List.length_take, List.length_drop]
      omega
    · cases read
  · cases read

/-- A value without data of its own, which is not a reference either, has none. -/
theorem size_eq_zero (free : value.ownsOutOfLineData = false) (literal : value.isReference = false) :
    value.size = 0#64 := by
  by_contra sized
  by_cases bit : value.valueInfo &&& kOwnershipMask = 0#64
  · exact Bool.false_ne_true (literal.symm.trans (isReference_iff.mpr ⟨sized, bit⟩))
  · exact Bool.false_ne_true (free.symm.trans (ownsOutOfLineData_iff.mpr ⟨bit, sized⟩))

/-- Where the data of a value stays, the value stays sound. -/
theorem Sound.congr (h : Sound memory value)
    (kept : ∀ block bytes, value.owned? = some block → memory.Live block bytes → memory'.Live block bytes) :
    Sound memory' value := by
  refine ⟨h.pointer, fun owns => ?_⟩
  obtain ⟨block, bytes, here, live, inside⟩ := h.data owns
  exact ⟨block, bytes, here, kept block bytes (owned?_eq_some_iff.mpr ⟨owns, 0, here⟩) live, inside⟩

/-- Where the data of a value stays, it is worth the same. -/
theorem Sound.contents_congr (h : Sound memory value) (literal : value.isReference = false)
    (kept : ∀ block bytes, value.owned? = some block → memory.Live block bytes → memory'.Live block bytes) :
    contents memory' value = contents memory value := by
  unfold contents
  cases owns : value.ownsOutOfLineData with
  | true =>
    obtain ⟨block, bytes, here, live, inside⟩ := h.data owns
    have live' := kept block bytes (owned?_eq_some_iff.mpr ⟨owns, 0, here⟩) live
    have inside' : 0 + value.getDataSize.toNat ≤ bytes.length := by rwa [Nat.zero_add]
    rw [readData_of_live here live inside', readData_of_live here live' inside']
  | false =>
    have small := size_eq_zero owns literal
    rw [if_pos small, if_pos small]

/-- Where nothing is freed, a value that can be read stays what it is. -/
theorem Sound.contents_of_grows (h : Sound memory value) (readable : Readable memory value)
    (grows : ∀ block bytes, memory.Live block bytes → memory'.Live block bytes) :
    contents memory' value = contents memory value ∧ Readable memory' value := by
  cases reference : value.isReference with
  | false =>
    refine ⟨h.contents_congr reference fun block bytes _ => grows block bytes, ?_⟩
    exact fun reference' => absurd (reference.symm.trans reference') Bool.false_ne_true
  | true =>
    obtain ⟨data, read⟩ := readable reference
    obtain ⟨⟨block, offset⟩, here⟩ := (h.pointer (isReference_iff.mp reference).1).2
    obtain ⟨bytes, live, inside⟩ := live_of_readData here read
    have after := readData_of_live here (grows block bytes live) inside
    refine ⟨?_, fun _ => ⟨_, after⟩⟩
    unfold contents
    rw [after, readData_of_live here live inside]

end Owned

/-! ## Members -/

section Members

variable {value value' : ValueObject} {memory memory' : Memory} {ι : Type} [DecidableEq ι]
  {owns : ι → Option Pointer} {i : ι}

/-- A value that was made from another one, without any change to the memory of others. -/
structure MadeFrom (memory memory' : Memory) (value value' : ValueObject) : Prop where
  sound : Sound memory' value'
  same : contents memory' value' = contents memory value
  grows : ∀ block bytes, memory.Live block bytes → memory'.Live block bytes
  owned : ∀ (owns : Nat ⊕ Pointer → Option Pointer) i, Owned memory owns → owns i = none →
    Owned memory' (Function.update owns i value'.owned?)

/-- A literal is made. -/
theorem Sound.convertToLiteral (h : Sound memory value) (sized : value.size ≠ 0#64)
    {data : List (BitVec 8)} (read : value.readData memory value.getDataSize = .ok data) :
    ∃ value' memory', value.convertToLiteral memory = .ok (value', memory') ∧
      MadeFrom memory memory' value value' ∧ value'.ownsOutOfLineData = true := by
  have length := length_readData read
  have live := Heap.live_alloc_next memory data
  have reads : (value.withOwnership ⟨memory.next, 0⟩).readData (memory.alloc data) value.getDataSize =
      .ok data := by
    rw [readData_of_live rfl live (by omega), List.drop_zero, ← length, List.take_length]
  refine ⟨value.withOwnership ⟨memory.next, 0⟩, memory.alloc data, ?_, ⟨⟨?_, ?_⟩, ?_, ?_, ?_⟩,
    owns_withOwnership sized⟩
  · unfold ValueObject.convertToLiteral
    rw [read]
    rfl
  · intro _
    refine ⟨?_, _, rfl⟩
    unfold IsString
    rw [typeCode_withOwnership]
    exact (h.pointer sized).1
  · intro _
    exact ⟨memory.next, data, rfl, live, by rw [getDataSize_withOwnership, length]⟩
  · unfold contents
    rw [unowned_withOwnership, size_withOwnership, getDataSize_withOwnership, reads, read, if_neg sized,
      if_neg sized]
  · exact fun block bytes live => live.alloc data
  · intro owns i owned free
    rw [owned?_withOwnership sized]
    exact owned.alloc free data

/-- A value that owns nothing is copied as it is. -/
theorem Sound.madeFrom_self (h : Sound memory value) (free : value.ownsOutOfLineData = false) :
    MadeFrom memory memory value value := by
  refine ⟨h, rfl, fun _ _ live => live, fun owns i owned none => owned.congr fun j => ?_⟩
  rw [owned?_of_not_owns free, ← none, Function.update_eq_self]

/-- **Copies** are made without a fault, and only references are copied to references. -/
theorem Sound.copied (h : Sound memory value) :
    ∃ value' memory', value.copied memory = .ok (value', memory') ∧
      MadeFrom memory memory' value value' ∧ (value'.isReference = true → value' = value) := by
  unfold ValueObject.copied
  cases owns : value.ownsOutOfLineData with
  | true =>
    obtain ⟨data, read⟩ := h.readData owns
    obtain ⟨value', memory', made, madeFrom, owns'⟩ :=
      h.convertToLiteral (ownsOutOfLineData_iff.mp owns).2 read
    exact ⟨value', memory', made, madeFrom,
      fun reference => absurd ((not_isReference_of_owns owns').symm.trans reference) Bool.false_ne_true⟩
  | false => exact ⟨value, memory, rfl, h.madeFrom_self owns, fun _ => rfl⟩

/-- A value made sure not to be a reference, if what it refers to can be read. -/
theorem Sound.ensureNotReference (h : Sound memory value) (readable : Readable memory value) :
    ∃ value' memory', value.ensureNotReference memory = .ok (value', memory') ∧
      contents memory' value' = contents memory value ∧ value'.isReference = false ∧
      Sound memory' value' ∧ (∀ block bytes, memory.Live block bytes → memory'.Live block bytes) ∧
      (value.isReference = true ∧ MadeFrom memory memory' value value' ∨ value' = value ∧ memory' = memory) := by
  unfold ValueObject.ensureNotReference
  cases reference : value.isReference with
  | true =>
    obtain ⟨data, read⟩ := readable reference
    obtain ⟨value', memory', made, madeFrom, owns⟩ :=
      h.convertToLiteral (isReference_iff.mp reference).1 read
    exact ⟨value', memory', made, madeFrom.same, not_isReference_of_owns owns, madeFrom.sound,
      madeFrom.grows, .inl ⟨rfl, madeFrom⟩⟩
  | false => exact ⟨value, memory, rfl, rfl, reference, h, fun _ _ live => live, .inr ⟨rfl, rfl⟩⟩

/-- A value marked with another type is a string if it has data. -/
theorem Sound.markType {typeId : TypeID} (h : Sound memory value)
    (isString : value.size ≠ 0#64 → typeId.isString = true) :
    Sound memory (value.markType typeId) ∧ (value.markType typeId).owned? = value.owned? := by
  have owns : (value.markType typeId).ownsOutOfLineData = value.ownsOutOfLineData := by
    rw [Bool.eq_iff_iff, ownsOutOfLineData_iff, ownsOutOfLineData_iff, ownership_markType, size_markType]
  have isString' (sized : value.size ≠ 0#64) : (value.markType typeId).IsString :=
    isString_of_typeCode typeCode_markType (isString sized)
  refine ⟨⟨fun sized => ?_, fun owner => ?_⟩, ?_⟩
  · rw [size_markType] at sized
    exact ⟨isString' sized, (h.pointer sized).2⟩
  · rw [owns] at owner
    obtain ⟨block, bytes, here, live, inside⟩ := h.data owner
    have sized := (ownsOutOfLineData_iff.mp owner).2
    refine ⟨block, bytes, here, live, ?_⟩
    rwa [getDataSize_of_isString (isString' sized), size_markType,
      ← getDataSize_of_isString (h.pointer sized).1]
  · unfold owned?
    rw [owns]
    rfl

/-- A reference to the data of a value owns nothing; a value without data of its own is copied. -/
theorem Sound.makeReferenceToThis (h : Sound memory value) :
    (∃ value', value.makeReferenceToThis memory = .ok (value', memory) ∧
      (value'.size ≠ 0#64 → value'.IsString ∧ ∃ address, value'.valueUnion = .outOfLineData address) ∧
        value'.ownsOutOfLineData = false) ∨
      value.makeReferenceToThis memory = value.copied memory := by
  unfold ValueObject.makeReferenceToThis
  cases owns : value.ownsOutOfLineData with
  | true =>
    obtain ⟨block, bytes, here, -, -⟩ := h.data owns
    refine .inl ⟨ofData value.typeCode ⟨block, 0⟩ value.getDataSize, ?_, fun _ => ⟨?_, _, rfl⟩, ?_⟩
    · rw [if_pos rfl, here]
      rfl
    · unfold IsString
      rw [typeCode_ofData, typeCode, BitVec.and_assoc, BitVec.and_self]
      exact (h.pointer (ownsOutOfLineData_iff.mp owns).2).1
    · apply not_owns_ofData
      rw [typeCode, BitVec.and_assoc, show kTypeIDMask &&& kOwnershipMask = 0#64 from rfl, BitVec.and_zero]
  | false => exact .inr rfl

/-- **The data of a value is released** once, by the one who owns it. -/
theorem Sound.release (h : Sound memory value) (owned : Owned memory owns) (owner : owns i = value.owned?) :
    ∃ memory', value.release memory = .ok memory' ∧ Owned memory' (Function.update owns i none) ∧
      ∀ block bytes, memory'.Live block bytes ↔ value.owned? ≠ some block ∧ memory.Live block bytes := by
  unfold ValueObject.release
  cases isOwner : value.ownsOutOfLineData with
  | true =>
    obtain ⟨block, bytes, here, live, inside⟩ := h.data isOwner
    have owns' : value.owned? = some block := owned?_eq_some_iff.mpr ⟨isOwner, 0, here⟩
    obtain ⟨memory', freed, after, others⟩ := owned.free (owner.trans owns')
    refine ⟨memory', ?_, after, fun block' bytes' => ?_⟩
    · rw [if_pos rfl, freeData, here]
      exact (if_pos rfl).trans freed
    · rw [others, owns', ne_eq, ne_eq, Option.some_inj, eq_comm]
  | false =>
    have owns' := owned?_of_not_owns isOwner
    refine ⟨memory, rfl, owned.congr fun j => ?_, fun block bytes => by simp [owns']⟩
    rw [← owns', ← owner, Function.update_eq_self]

end Members

end ValueObject

end Quickstep.Types
