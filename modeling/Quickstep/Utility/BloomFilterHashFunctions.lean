import Quickstep.Lib.BoundedWords
import Quickstep.Utility.BloomFilter

/-!
# The hash functions of a bloom filter

`generate_unique_hash_fn` of `utility/BloomFilter.hpp`. It reserves room in the vector `hash_fn_`,
copies the predefined values to `begin()`, and mixes the seed into each element. A vector is its
storage and the number of places that are elements: reserving and copying change the storage only.
-/

namespace Quickstep.Utility
open Quickstep.Lib

/-! ## Vectors with room -/

/-- A `std::vector`: the first `size` places of its storage are its elements. -/
structure ReservedVector (α : Type) where
  storage : List α
  size : Nat
  size_le : size ≤ storage.length

namespace ReservedVector

variable {α : Type}

def empty : ReservedVector α := ⟨[], 0, Nat.le_refl 0⟩

def elements (v : ReservedVector α) : List α := v.storage.take v.size

/-- `reserve`: behind the elements, new storage has what the memory held before. -/
def reserve (memory : Nat → α) (v : ReservedVector α) (capacity : Nat) : ReservedVector α :=
  if capacity ≤ v.storage.length then v
  else
    { storage := v.elements ++ (List.range (capacity - v.size)).map memory
      size := v.size
      size_le := by
        have size_le := v.size_le
        simp only [elements, List.length_append, List.length_take]
        omega }

/-- `operator[]`, which does not look at the size. -/
def get (v : ReservedVector α) (i : Nat) : Exec α := readAt v.storage i

/-- Assignment through `operator[]`. -/
def set (v : ReservedVector α) (i : Nat) (x : α) : Exec (ReservedVector α) :=
  if i < v.storage.length then
    .ok { storage := v.storage.set i x
          size := v.size
          size_le := by rw [List.length_set]; exact v.size_le }
  else .error .undefinedBehaviour

/-- `std::copy` to `begin()`. -/
def copyToBegin (v : ReservedVector α) (source : List α) : Exec (ReservedVector α) :=
  if source.length ≤ v.storage.length then
    .ok { storage := source ++ v.storage.drop source.length
          size := v.size
          size_le := by
            have size_le := v.size_le
            simp only [List.length_append, List.length_drop]
            omega }
  else .error .undefinedBehaviour

end ReservedVector

/-! ## The hash functions -/

/-- `predef_hash_fn`. -/
def predefHashFn : List (BitVec 32) := [
  0xAAAAAAAA, 0x55555555, 0x33333333, 0xCCCCCCCC, 0x66666666, 0x99999999, 0xB5B5B5B5, 0x4B4B4B4B,
  0xAA55AA55, 0x55335533, 0x33CC33CC, 0xCC66CC66, 0x66996699, 0x99B599B5, 0xB54BB54B, 0x4BAA4BAA,
  0xAA33AA33, 0x55CC55CC, 0x33663366, 0xCC99CC99, 0x66B566B5, 0x994B994B, 0xB5AAB5AA, 0xAAAAAA33,
  0x555555CC, 0x33333366, 0xCCCCCC99, 0x666666B5, 0x9999994B, 0xB5B5B5AA, 0xFFFFFFFF, 0xFFFF0000,
  0xB823D5EB, 0xC1191CDF, 0xF623AEB3, 0xDB58499F, 0xC8D42E70, 0xB173F616, 0xA91A5967, 0xDA427D63,
  0xB1E8A2EA, 0xF6C0D155, 0x4909FEA3, 0xA68CC6A7, 0xC395E782, 0xA26057EB, 0x0CD5DA28, 0x467C5492,
  0xF15E6982, 0x61C6FAD3, 0x9615E352, 0x6E9E355A, 0x689B563E, 0x0C9831A8, 0x6753C18B, 0xA622689B,
  0x8CA63C47, 0x42CC2884, 0x8E89919B, 0x6EDBD7D3, 0x15B6796C, 0x1D6FDFE4, 0x63FF9092, 0xE7401432,
  0xEFFE9412, 0xAEAEDF79, 0x9F245A31, 0x83C136FC, 0xC3DA4A8C, 0xA5112C8C, 0x5271F491, 0x9A948DAB,
  0xCEE59A8D, 0xB5F525AB, 0x59D13217, 0x24E7C331, 0x697C2103, 0x84B0A460, 0x86156DA9, 0xAEF2AC68,
  0x23243DA5, 0x3F649643, 0x5FA495A8, 0x67710DF8, 0x9A6C499E, 0xDCFB0227, 0x46A43433, 0x1832B07A,
  0xC46AFF3C, 0xB9C8FFF0, 0xC9500467, 0x34431BDF, 0xB652432B, 0xE367F12B, 0x427F4C1B, 0x224C006E,
  0x2E7E5A89, 0x96F99AA5, 0x0BEB452A, 0x2FD87C39, 0x74B2E1FB, 0x222EFD24, 0xF357F60C, 0x440FCB1E,
  0x8BBE030F, 0x6704DC29, 0x1144D12F, 0x948B1355, 0x6D8FD7E9, 0x1C11A014, 0xADD1592F, 0xFB3C712E,
  0xFC77642F, 0xF9C4CE8C, 0x31312FB9, 0x08B0DD79, 0x318FA6E7, 0xC040D23D, 0xC0589AA7, 0x0CA5C075,
  0xF874B172, 0x0CF914D5, 0x784D3280, 0x4E8CFEBC, 0xC569F575, 0xCDB2A091, 0x2CC016B4, 0x5C5F4421]

/-- One round of the mixing loop. -/
def mixRound (randomSeed : BitVec 64) (hashFnCount i : Nat) (hashFn : ReservedVector (BitVec 32)) :
    Exec (ReservedVector (BitVec 32)) := do
  let own ← hashFn.get i
  let other ← hashFn.get ((i + 3) % hashFnCount)
  hashFn.set i (own * other + randomSeed.setWidth 32)

/-- The mixing loop, up to the size of the vector. -/
def mixHashFn (randomSeed : BitVec 64) (hashFnCount : Nat) (hashFn : ReservedVector (BitVec 32)) :
    Exec (ReservedVector (BitVec 32)) :=
  forUpToM hashFn.size (mixRound randomSeed hashFnCount) hashFn

/-- `generate_unique_hash_fn`. There is no result where it logs a fatal error. -/
def generateUniqueHashFn (memory : Nat → BitVec 32) (randomSeed : BitVec 64) (hashFnCount : Nat)
    (hashFn : ReservedVector (BitVec 32)) : Exec (Option (ReservedVector (BitVec 32))) := do
  let reserved := hashFn.reserve memory hashFnCount
  if hashFnCount ≤ 128 then
    let copied ← reserved.copyToBegin (predefHashFn.take hashFnCount)
    some <$> mixHashFn randomSeed hashFnCount copied
  else pure none

/-- The member `hash_fn_` of a filter that is constructed: the vector is empty before. -/
def constructHashFn (memory : Nat → BitVec 32) (randomSeed : BitVec 64) (hashFnCount : Nat) :
    Exec (Option (ReservedVector (BitVec 32))) :=
  generateUniqueHashFn memory randomSeed hashFnCount .empty

/-- The values of `hash_fn_[i]` that an operation reads; they are the `hashFn` of a filter's parameters. -/
def readHashFn (hashFn : ReservedVector (BitVec 32)) (hashFnCount : Nat) : Exec (List (BitVec 32)) :=
  (List.range hashFnCount).mapM hashFn.get

/-! ## The mixing loop -/

section Mixing

variable {hashFn : ReservedVector (BitVec 32)} {randomSeed randomSeed' : BitVec 64} {hashFnCount : Nat}

theorem length_predefHashFn : predefHashFn.length = 128 := by
  simp only [predefHashFn, List.length_cons, List.length_nil]

/-- A round over storage reads two places and writes one. -/
theorem mixRound_ok {i : Nat} (own : i < hashFn.storage.length)
    (other : (i + 3) % hashFnCount < hashFn.storage.length) :
    ∃ mixed, mixRound randomSeed hashFnCount i hashFn = .ok mixed ∧ mixed.size = hashFn.size ∧
      mixed.storage = hashFn.storage.set i (hashFn.storage[i] *
        hashFn.storage[(i + 3) % hashFnCount] + randomSeed.setWidth 32) := by
  unfold mixRound ReservedVector.get
  rw [readAt_of_lt own, Exec.ok_bind, readAt_of_lt other, Exec.ok_bind, ReservedVector.set,
    if_pos own]
  exact ⟨_, rfl, rfl, rfl⟩

/-- The rounds of the loop: the first one mixes two original values, and no later one changes what it
has written. -/
theorem forUpToM_mixRound (sized : hashFn.size = hashFnCount) (positive : 0 < hashFnCount) {n : Nat}
    (within : n ≤ hashFnCount) :
    ∃ mixed, forUpToM n (mixRound randomSeed hashFnCount) hashFn = .ok mixed ∧
      mixed.size = hashFnCount ∧ mixed.storage.length = hashFn.storage.length ∧
      (0 < n → mixed.storage[0]? = some (hashFn.storage.getD 0 0 *
        hashFn.storage.getD (3 % hashFnCount) 0 + randomSeed.setWidth 32)) := by
  have size_le := hashFn.size_le
  have inside (i : Nat) : i % hashFnCount < hashFn.storage.length :=
    Nat.lt_of_lt_of_le (Nat.mod_lt i positive) (by omega)
  induction n with
  | zero => exact ⟨hashFn, rfl, sized, rfl, nofun⟩
  | succ n ih =>
    obtain ⟨mixed, run, size, length, first⟩ := ih (by omega)
    have own : n < mixed.storage.length := by omega
    obtain ⟨next, round, nextSize, storage⟩ :=
      @mixRound_ok mixed randomSeed hashFnCount n own (by rw [length]; exact inside _)
    refine ⟨next, by rw [forUpToM, run, Exec.ok_bind, round], by rw [nextSize, size],
      by rw [storage, List.length_set, length], fun _ => ?_⟩
    cases n with
    | zero =>
      have original : mixed = hashFn := (Except.ok.inj run).symm
      subst original
      have at3 := inside 3
      simp [storage, own, at3]
    | succ n =>
      rw [storage, List.getElem?_set_ne (Nat.succ_ne_zero n), first (Nat.succ_pos n)]

/-- **On a vector that has its elements** the loop has a result, in which seeds that differ in their
low half differ. -/
theorem mixHashFn_seed (sized : hashFn.size = hashFnCount) (positive : 0 < hashFnCount) :
    ∃ mixed mixed', mixHashFn randomSeed hashFnCount hashFn = .ok mixed ∧
      mixHashFn randomSeed' hashFnCount hashFn = .ok mixed' ∧
      (mixed.elements = mixed'.elements → randomSeed.setWidth 32 = randomSeed'.setWidth 32) := by
  obtain ⟨mixed, run, size, -, first⟩ :=
    @forUpToM_mixRound hashFn randomSeed hashFnCount sized positive _ (Nat.le_refl _)
  obtain ⟨mixed', run', size', -, first'⟩ :=
    @forUpToM_mixRound hashFn randomSeed' hashFnCount sized positive _ (Nat.le_refl _)
  refine ⟨mixed, mixed', by rw [mixHashFn, sized, run], by rw [mixHashFn, sized, run'], fun same => ?_⟩
  have head := congrArg (fun elements => elements[0]?) same
  simp only [ReservedVector.elements, size, size', List.getElem?_take_of_lt positive, first positive,
    first' positive, Option.some.injEq] at head
  exact (BitVec.add_right_inj _).mp head

end Mixing

/-! ## The construction -/

section Construction

variable {hashFnCount : Nat}

/-- Room is reserved for the values that are copied. -/
theorem length_reserve_empty {α : Type} (memory : Nat → α) (capacity : Nat) :
    ((ReservedVector.empty.reserve memory capacity).storage.length = capacity) ∧
      (ReservedVector.empty.reserve memory capacity).size = 0 := by
  unfold ReservedVector.reserve
  split
  · rename_i fits
    exact ⟨(Nat.le_zero.mp fits).symm, rfl⟩
  · simp [ReservedVector.elements, ReservedVector.empty]

/-- **What a constructor leaves**: the predefined values in storage, and no element. -/
theorem constructHashFn_eq (within : hashFnCount ≤ 128) :
    ∃ hashFn, hashFn.size = 0 ∧ hashFn.storage = predefHashFn.take hashFnCount ∧
      ∀ memory randomSeed, constructHashFn memory randomSeed hashFnCount = .ok (some hashFn) := by
  have source : (predefHashFn.take hashFnCount).length = hashFnCount := by
    rw [List.length_take, length_predefHashFn]
    exact Nat.min_eq_left within
  refine ⟨⟨predefHashFn.take hashFnCount, 0, Nat.zero_le _⟩, rfl, rfl, fun memory randomSeed => ?_⟩
  obtain ⟨room, size⟩ := length_reserve_empty memory hashFnCount
  have behind : (ReservedVector.empty.reserve memory hashFnCount).storage.drop hashFnCount = [] :=
    List.drop_eq_nil_iff.mpr (Nat.le_of_eq room)
  unfold constructHashFn generateUniqueHashFn
  dsimp only
  rw [if_pos within, ReservedVector.copyToBegin, if_pos (by rw [source, room]), Exec.ok_bind, mixHashFn]
  simp only [source, behind, size, List.append_nil]
  rfl

/-- The operations read the predefined values behind the end of the vector, not mixed with any seed. -/
theorem readHashFn_eq {hashFn : ReservedVector (BitVec 32)}
    (storage : hashFn.storage = predefHashFn.take hashFnCount) (within : hashFnCount ≤ 128) :
    readHashFn hashFn hashFnCount = .ok (predefHashFn.take hashFnCount) := by
  have length : hashFn.storage.length = hashFnCount := by
    rw [storage, List.length_take, length_predefHashFn]
    exact Nat.min_eq_left within
  have reads : ∀ i ∈ List.range hashFnCount, hashFn.get i = .ok (hashFn.storage.getD i 0) := by
    intro i inRange
    have inside : i < hashFn.storage.length := by rw [length]; exact List.mem_range.mp inRange
    simp [ReservedVector.get, readAt_of_lt inside, inside]
  rw [readHashFn, Exec.mapM_eq_ok reads, ← storage]
  congr 1
  refine List.ext_getElem (by simp [length]) fun i inside _ => ?_
  rw [List.length_map, List.length_range, ← length] at inside
  simp [inside]

/-- **No filter has the hash functions it asked for**: whatever the seed and the count, the vector has
no element, none of the values that the operations read is one, and no seed changes anything. -/
theorem constructHashFn_never (memory : Nat → BitVec 32) (randomSeed : BitVec 64)
    (positive : 1 ≤ hashFnCount) (within : hashFnCount ≤ 128) :
    ∃ hashFn, constructHashFn memory randomSeed hashFnCount = .ok (some hashFn) ∧
      hashFn.size ≠ hashFnCount ∧ (∀ i, i < hashFnCount → ¬ i < hashFn.elements.length) ∧
      ∀ memory' randomSeed', constructHashFn memory' randomSeed' hashFnCount = .ok (some hashFn) := by
  obtain ⟨hashFn, size, -, run⟩ := constructHashFn_eq within
  refine ⟨hashFn, run memory randomSeed, by omega, fun i _ => ?_, run⟩
  simp [ReservedVector.elements, size]

/-- Two hash functions. -/
theorem constructHashFn_never_two :
    1 ≤ 2 ∧ 2 ≤ 128 ∧ ∃ hashFn, constructHashFn (fun _ => 0) 7 2 = .ok (some hashFn) ∧
      hashFn.size ≠ 2 ∧ (∀ i, i < 2 → ¬ i < hashFn.elements.length) ∧
      ∀ memory' randomSeed', constructHashFn memory' randomSeed' 2 = .ok (some hashFn) :=
  ⟨by decide, by decide, constructHashFn_never (fun _ => 0) 7 (by decide) (by decide)⟩

/-- The seeds 0 and 1, with one hash function. -/
theorem not_constructHashFn_sized :
    (¬ ∃ hashFn, constructHashFn (fun _ => 0) 0 1 = .ok (some hashFn) ∧ hashFn.size = 1) ∧
      (0#64).setWidth 32 ≠ (1#64).setWidth 32 ∧
      ¬ ∀ hashFn hashFn', constructHashFn (fun _ => 0) 0 1 = .ok (some hashFn) →
        constructHashFn (fun _ => 0) 1 1 = .ok (some hashFn') → hashFn.storage ≠ hashFn'.storage := by
  obtain ⟨hashFn, size, -, run⟩ := @constructHashFn_eq 1 (by decide)
  refine ⟨?_, by decide, fun differ => differ hashFn hashFn (run _ _) (run _ _) rfl⟩
  rintro ⟨hashFn', run', sized⟩
  rw [run] at run'
  cases run'
  omega

end Construction

end Quickstep.Utility
