import Quickstep.Lib.Interleaving
import Quickstep.Lib.WhileLoop

/-!
# Bloom filters

`BloomFilter` of `utility/BloomFilter.hpp`. The operations are given twice: run alone, and as steps of
threads over a family of filters. The locks of a filter, and the callers of `insertUnSafe`, make each
update of a byte one step.
-/

namespace Quickstep.Utility
open Quickstep.Lib

abbrev Key := List (BitVec 8)

/-- The bytes of a bit array. -/
abbrev BitArray := List (BitVec 8)

/-- The bytes of a word, the lowest one first. -/
def loadWord (b₀ b₁ b₂ b₃ : BitVec 8) : BitVec 32 :=
  b₃.setWidth 32 <<< 24 ||| b₂.setWidth 32 <<< 16 ||| b₁.setWidth 32 <<< 8 ||| b₀.setWidth 32

def loadHalfWord (b₀ b₁ : BitVec 8) : BitVec 32 := b₁.setWidth 32 <<< 8 ||| b₀.setWidth 32

/-- The last byte of a key. -/
def hashByte (hash loop : BitVec 32) : Key → BitVec 32
  | [] => hash
  | b :: _ => hash + ((b.setWidth 32 ^^^ (hash * 0xA5A5A5A5#32)) + loop)

/-- The last two or three bytes. -/
def hashHalfWord (hash loop : BitVec 32) : Key → BitVec 32
  | b₀ :: b₁ :: rest =>
    let i := loadHalfWord b₀ b₁
    let hash :=
      if loop &&& 1#32 ≠ 0#32 then hash ^^^ ((hash <<< 7) ^^^ i * (hash >>> 3))
      else hash ^^^ ~~~((hash <<< 11) + (i ^^^ (hash >>> 5)))
    hashByte hash (loop + 1) rest
  | rest => hashByte hash loop rest

/-- The bytes behind the last eight. -/
def hashTail (hash : BitVec 32) : Key → BitVec 32
  | b₀ :: b₁ :: b₂ :: b₃ :: rest =>
    -- `loop` is still even here
    let hash := hash ^^^ ~~~((hash <<< 11) + (loadWord b₀ b₁ b₂ b₃ ^^^ (hash >>> 5)))
    hashHalfWord hash 1#32 rest
  | rest => hashHalfWord hash 0#32 rest

/-- `hash_ap`. -/
def hashAp (hash : BitVec 32) : Key → BitVec 32
  | b₀ :: b₁ :: b₂ :: b₃ :: b₄ :: b₅ :: b₆ :: b₇ :: rest =>
    let i₁ := loadWord b₀ b₁ b₂ b₃
    let i₂ := loadWord b₄ b₅ b₆ b₇
    hashAp (hash ^^^ ((hash <<< 7) ^^^ i₁ * (hash >>> 3) ^^^
      ~~~((hash <<< 11) + (i₂ ^^^ (hash >>> 5))))) rest
  | rest => hashTail hash rest

/-- What filters of one seed, hash count and size share. No address space holds 2^61 bytes. -/
structure BloomFilterParameters where
  hashFn : List (BitVec 32)
  arraySizeInBytes : Nat
  positive : 0 < arraySizeInBytes
  addressable : arraySizeInBytes < 2 ^ 61

namespace BloomFilterParameters

variable (params : BloomFilterParameters)

/-- `array_size_`, in bits. -/
def arraySize : Nat := params.arraySizeInBytes * 8 % 2 ^ 64

/-- `compute_indices`: the bit index, and the bit in its byte. -/
def computeIndices (hash : BitVec 32) : Nat × Nat :=
  let bitIndex := hash.toNat % params.arraySize
  (bitIndex, bitIndex % 8)

/-- The bit positions of a key, one for each hash function. -/
def positions (key : Key) : List (Nat × Nat) :=
  params.hashFn.map fun hash => params.computeIndices (hashAp hash key)

end BloomFilterParameters

/-- Whether the bit at a position is set. -/
def testBit (bytes : BitArray) (position : Nat × Nat) : Exec Bool := do
  let byte ← readAt bytes (position.1 / 8)
  pure (decide (byte &&& 1#8 <<< position.2 = 1#8 <<< position.2))

def setBit (bytes : BitArray) (position : Nat × Nat) : Exec BitArray := do
  let byte ← readAt bytes (position.1 / 8)
  writeAt bytes (position.1 / 8) (byte ||| 1#8 <<< position.2)

namespace BloomFilter

variable (params : BloomFilterParameters)

/-! ## The operations alone -/

def insertUnSafe (bytes : BitArray) (key : Key) : Exec BitArray :=
  params.hashFn.foldlM (fun bytes hash => setBit bytes (params.computeIndices (hashAp hash key))) bytes

/-- `insert`: the positions, the check, and the update of the bits that were not set at the check. -/
def insert (bytes : BitArray) (key : Key) : Exec BitArray := do
  let modifiedBitPositions := params.positions key
  let isBitPositionCorrect ← modifiedBitPositions.mapM (testBit bytes)
  (modifiedBitPositions.zip isBitPositionCorrect).foldlM
    (fun bytes position => if position.2 then pure bytes else setBit bytes position.1) bytes

/-- The loop of `contains` returns at the first bit that is not set. -/
def containsAll (bytes : BitArray) (key : Key) : List (BitVec 32) → Exec Bool
  | [] => pure true
  | hash :: hashes => do
    if ← testBit bytes (params.computeIndices (hashAp hash key)) then containsAll bytes key hashes
    else pure false

def contains (bytes : BitArray) (key : Key) : Exec Bool := containsAll params bytes key params.hashFn

/-! ## The operations step by step -/

/-- What a thread may do with the filters. -/
inductive Request (φ : Type) where
  | insert (filter : φ) (key : Key)
  | insertUnSafe (filter : φ) (key : Key)
  | bitwiseOr (filter bloomFilter : φ)
  | contains (filter : φ) (key : Key)

/-- Where a thread stands. A thread in `bitwiseOr` knows the keys that were in the other filter when it
began, and one in `contains` whether its key was in; neither changes what it does. -/
inductive FilterPoint (φ : Type) where
  | ready
  /-- Under the shared lock: the bits found so far. -/
  | checking (filter : φ) (key : Key) (modifiedBitPositions : List (Nat × Nat))
      (isBitPositionCorrect : List Bool)
  /-- Under the exclusive lock: the next position. -/
  | updating (filter : φ) (key : Key) (modifiedBitPositions : List (Nat × Nat))
      (isBitPositionCorrect : List Bool) (next : Nat)
  | inserting (filter : φ) (key : Key) (next : Nat)
  | merging (filter bloomFilter : φ) (byteIndex : Nat) (known : List Key)
  | querying (filter : φ) (key : Key) (next : Nat) (known : Bool)
  | answered (filter : φ) (key : Key) (known result : Bool)
  | undefined

/-- The filters, and the keys whose insertion into each is complete. -/
structure Filters (φ : Type) where
  bitArrays : φ → BitArray
  inserted : φ → List Key

variable {φ : Type} [DecidableEq φ]

/-- A filter gets another bit array, unless an index was out of range. -/
def Filters.store (filters : Filters φ) (filter : φ) (point : FilterPoint φ) :
    Exec BitArray → FilterPoint φ × Filters φ
  | .ok bytes => (point, { filters with bitArrays := Function.update filters.bitArrays filter bytes })
  | .error _ => (.undefined, filters)

/-- The insertion of keys into a filter is complete. -/
def Filters.complete (filters : Filters φ) (filter : φ) (keys : List Key) : Filters φ :=
  { filters with
    inserted := Function.update filters.inserted filter (keys ++ filters.inserted filter) }

/-- The next step of a thread, which calls an operation when it is ready. -/
@[grind =]
def advance : Request φ → FilterPoint φ → Filters φ → FilterPoint φ × Filters φ
  | .insert filter key, .ready, filters => (.checking filter key (params.positions key) [], filters)
  | .insertUnSafe filter key, .ready, filters => (.inserting filter key 0, filters)
  | .bitwiseOr filter bloomFilter, .ready, filters =>
    (.merging filter bloomFilter 0 (filters.inserted bloomFilter), filters)
  | .contains filter key, .ready, filters =>
    (.querying filter key 0 (decide (key ∈ filters.inserted filter)), filters)
  | _, .checking filter key positions correct, filters =>
    match positions[correct.length]? with
    | some position => match testBit (filters.bitArrays filter) position with
      | .ok isSet => (.checking filter key positions (correct ++ [isSet]), filters)
      | .error _ => (.undefined, filters)
    | none => (.updating filter key positions correct 0, filters)
  | _, .updating filter key positions correct next, filters =>
    match positions[next]?, correct[next]? with
    | some position, some isSet =>
      filters.store filter (.updating filter key positions correct (next + 1))
        (if isSet then pure (filters.bitArrays filter) else setBit (filters.bitArrays filter) position)
    | some _, none => (.undefined, filters)
    | none, _ => (.ready, filters.complete filter [key])
  | _, .inserting filter key next, filters =>
    match params.hashFn[next]? with
    | some hash =>
      filters.store filter (.inserting filter key (next + 1))
        (setBit (filters.bitArrays filter) (params.computeIndices (hashAp hash key)))
    | none => (.ready, filters.complete filter [key])
  | _, .merging filter bloomFilter byteIndex known, filters =>
    if byteIndex < params.arraySizeInBytes then
      filters.store filter (.merging filter bloomFilter (byteIndex + 1) known) (do
        let other ← readAt (filters.bitArrays bloomFilter) byteIndex
        let byte ← readAt (filters.bitArrays filter) byteIndex
        writeAt (filters.bitArrays filter) byteIndex (byte ||| other))
    else (.ready, filters.complete filter known)
  | _, .querying filter key next known, filters =>
    match params.hashFn[next]? with
    | some hash =>
      match testBit (filters.bitArrays filter) (params.computeIndices (hashAp hash key)) with
      | .ok true => (.querying filter key (next + 1) known, filters)
      | .ok false => (.answered filter key known false, filters)
      | .error _ => (.undefined, filters)
    | none => (.answered filter key known true, filters)
  | _, .answered _ _ _ _, filters => (.ready, filters)
  | _, .undefined, filters => (.undefined, filters)

end BloomFilter

end Quickstep.Utility
