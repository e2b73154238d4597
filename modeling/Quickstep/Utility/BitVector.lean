import Quickstep.Utility.BitVectorWords

/-!
# BitVector

The class of `utility/BitVector.hpp`. With `enableShortVersion` a vector of fewer than 33 bits
lives in a single word of 8, 16 or 32 bits; every other vector is an array of 64-bit words. The
public member functions dispatch between the two representations.
-/

namespace Quickstep.Utility
open Quickstep.Lib

/-- The width of the word of a short vector. -/
def shortWidth (numBits : Nat) : Nat := if numBits < 9 then 8 else if numBits < 17 then 16 else 32

/-- `short_version_`. -/
def ShortVersion (enableShortVersion : Bool) (numBits : Nat) : Prop :=
  enableShortVersion = true ∧ numBits < 33

instance (enableShortVersion : Bool) (numBits : Nat) :
    Decidable (ShortVersion enableShortVersion numBits) :=
  inferInstanceAs (Decidable (_ ∧ _))

/-- A vector of `numBits` bits in the representation its length and template argument select. -/
inductive BitVector (enableShortVersion : Bool) (numBits : Nat) where
  | short (isShort : ShortVersion enableShortVersion numBits) (word : BitVec (shortWidth numBits))
  | regular (isRegular : ¬ ShortVersion enableShortVersion numBits) (dataArray : WordMemory 64)

/-- `BytesNeeded`. -/
def bytesNeeded (enableShortVersion : Bool) (numBits : Nat) : Nat :=
  if enableShortVersion ∧ numBits = 0 then 0
  else if enableShortVersion ∧ numBits < 9 then 1
  else if enableShortVersion ∧ numBits < 17 then 2
  else if enableShortVersion ∧ numBits < 33 then 4
  else if numBits % 64 ≠ 0 then (numBits / 64 + 1) * 8 else numBits / 64 * 8

namespace BitVector

variable {e : Bool} {n : Nat}

/-- Apply the matching version of a member function to the contents. -/
def update (b : BitVector e n) (onShort : BitVec (shortWidth n) → BitVec (shortWidth n))
    (onRegular : WordMemory 64 → WordMemory 64) : BitVector e n :=
  match b with
  | short h word => short h (onShort word)
  | regular h data => regular h (onRegular data)

/-- Apply the matching version of a member function that reads a vector of the same length. -/
def updateWith (b other : BitVector e n)
    (onShort : BitVec (shortWidth n) → BitVec (shortWidth n) → BitVec (shortWidth n))
    (onRegular : WordMemory 64 → WordMemory 64 → WordMemory 64) : BitVector e n :=
  match b, other with
  | short h word, short _ otherWord => short h (onShort word otherWord)
  | regular h data, regular _ otherData => regular h (onRegular data otherData)
  | short h _, regular h' _ => absurd h h'
  | regular h _, short h' _ => absurd h' h

/-- The array of a vector; only a regular vector has one. -/
def dataArray : BitVector e n → WordMemory 64
  | short _ _ => fun _ => 0#64
  | regular _ data => data

def getBit : BitVector e n → Nat → Bool
  | short _ word, bitNum => getBitShortVersion word bitNum
  | regular _ data, bitNum => getBitRegularVersion data bitNum

/-- `memset` over `bytesNeeded` bytes: a vector of no bits has none to clear. -/
def clear (b : BitVector e n) : BitVector e n :=
  b.update (fun word => if n = 0 then word else 0#_)
    (fun data => data.memset 0 0#64 (dataArraySize n))

def setBit (b : BitVector e n) (bitNum : Nat) (value : Bool) : BitVector e n :=
  b.update (fun word => setBitShortVersion word bitNum value)
    (fun data => setBitRegularVersion data bitNum value)

def setBitRange (b : BitVector e n) (startBitNum rangeNumBits : Nat) (value : Bool) :
    BitVector e n :=
  b.update (fun word => setBitRangeShortVersion word startBitNum rangeNumBits value)
    (fun data => setBitRangeRegularVersion data startBitNum rangeNumBits value)

/-- Not available in the short version. -/
def setBitWord (b : BitVector e n) (wordId : Nat) (value : BitVec 64) : BitVector e n :=
  b.update id (fun data => setBitWordRegularVersion n data wordId value)

def flipBits (b : BitVector e n) : BitVector e n :=
  if n = 0 then b
  else b.update (fun word => flipLimitedBits word n) (fun data => flipBitsRegularVersion n data)

/-- Only available when the short version is disabled; `other` may be longer. -/
def assignFromLonger {m : Nat} (b : BitVector e n) (other : BitVector e m) : BitVector e n :=
  b.update id (fun data => assignFromLongerRegularVersion n data other.dataArray)

def intersectWith (b other : BitVector e n) : BitVector e n :=
  b.updateWith other (fun word otherWord => if n = 0 then word else word &&& otherWord)
    (intersectWithRegularVersion n)

def unionWith (b other : BitVector e n) : BitVector e n :=
  b.updateWith other (fun word otherWord => if n = 0 then word else word ||| otherWord)
    (unionWithRegularVersion n)

/-- Only available when the short version is disabled; `other` may be shorter or longer. -/
def unsetFrom {m : Nat} (b : BitVector e n) (other : BitVector e m) : BitVector e n :=
  b.update id (fun data => unsetFromRegularVersion n m data other.dataArray)

def shiftTailForward (b : BitVector e n) (tailStart shiftDistance : Nat) : BitVector e n :=
  b.update (fun word => shiftTailForwardShortVersion word tailStart shiftDistance)
    (fun data => shiftTailForwardRegularVersion n data tailStart shiftDistance)

def shiftTailBackward (b : BitVector e n) (tailStart shiftDistance : Nat) : BitVector e n :=
  b.update (fun word => shiftTailBackwardShortVersion word tailStart shiftDistance)
    (fun data => shiftTailBackwardRegularVersion n data tailStart shiftDistance)

/-- A bit of the allocated storage, padding included. -/
def storedBit : BitVector e n → Nat → Bool
  | short _ word, i => word.getMsbD i
  | regular _ data, i => data.bit i

/-- **The representation invariant**: the allocated bits past `numBits` are zero. -/
def PaddingZero (b : BitVector e n) : Prop :=
  ∀ i, n ≤ i → i < 8 * bytesNeeded e n → b.storedBit i = false

/-- The bits of the vector, first bit first. -/
def toList (b : BitVector e n) : List Bool := (List.range n).map b.getBit

end BitVector

/-- A call of a mutating member function. -/
inductive Call (e : Bool) (n : Nat) where
  | clear
  | setBit (bitNum : Nat) (value : Bool)
  | setBitRange (startBitNum rangeNumBits : Nat) (value : Bool)
  | setBitWord (wordId : Nat) (value : BitVec 64)
  | flipBits
  | assignFromLonger (m : Nat) (other : BitVector e m)
  | intersectWith (other : BitVector e n)
  | unsetFrom (m : Nat) (other : BitVector e m)
  | unionWith (other : BitVector e n)
  | shiftTailForward (tailStart shiftDistance : Nat)
  | shiftTailBackward (tailStart shiftDistance : Nat)

namespace Call

variable {e : Bool} {n : Nat}

/-- The debug assertions of a member function, and that its representation offers it. -/
def Checked : Call e n → Prop
  | setBit bitNum _ => bitNum < n
  | setBitRange start range _ => (start < n ∨ start = 0 ∧ n = 0) ∧ start + range ≤ n
  | setBitWord wordId _ => wordId < dataArraySize n ∧ ¬ ShortVersion e n
  | assignFromLonger m _ => n ≤ m ∧ e = false
  | unsetFrom _ _ => e = false
  | shiftTailForward tailStart _ => tailStart < n
  | shiftTailBackward tailStart _ => tailStart < n
  | clear | flipBits | intersectWith _ | unionWith _ => True

instance : (c : Call e n) → Decidable c.Checked
  | setBit bitNum _ => inferInstanceAs (Decidable (bitNum < n))
  | setBitRange start range _ =>
    inferInstanceAs (Decidable ((start < n ∨ start = 0 ∧ n = 0) ∧ start + range ≤ n))
  | setBitWord wordId _ =>
    inferInstanceAs (Decidable (wordId < dataArraySize n ∧ ¬ ShortVersion e n))
  | assignFromLonger m _ => inferInstanceAs (Decidable (n ≤ m ∧ e = false))
  | unsetFrom _ _ => inferInstanceAs (Decidable (e = false))
  | shiftTailForward tailStart _ => inferInstanceAs (Decidable (tailStart < n))
  | shiftTailBackward tailStart _ => inferInstanceAs (Decidable (tailStart < n))
  | clear | flipBits | intersectWith _ | unionWith _ => inferInstanceAs (Decidable True)

/-- The other vector a call reads. -/
def operand : Call e n → Option (Σ m, BitVector e m)
  | assignFromLonger m other => some ⟨m, other⟩
  | intersectWith other => some ⟨n, other⟩
  | unsetFrom m other => some ⟨m, other⟩
  | unionWith other => some ⟨n, other⟩
  | clear | setBit _ _ | setBitRange _ _ _ | setBitWord _ _ | flipBits
  | shiftTailForward _ _ | shiftTailBackward _ _ => none

/-- The vector after the call. -/
def apply (b : BitVector e n) : Call e n → BitVector e n
  | clear => b.clear
  | setBit bitNum value => b.setBit bitNum value
  | setBitRange start range value => b.setBitRange start range value
  | setBitWord wordId value => b.setBitWord wordId value
  | flipBits => b.flipBits
  | assignFromLonger _ other => b.assignFromLonger other
  | intersectWith other => b.intersectWith other
  | unsetFrom _ other => b.unsetFrom other
  | unionWith other => b.unionWith other
  | shiftTailForward tailStart distance => b.shiftTailForward tailStart distance
  | shiftTailBackward tailStart distance => b.shiftTailBackward tailStart distance

end Call

/-- The vector after a sequence of calls. -/
def BitVector.run {e : Bool} {n : Nat} (b : BitVector e n) (calls : List (Call e n)) :
    BitVector e n :=
  calls.foldl Call.apply b

/-- **The vectors of a run**: cleared storage, and whatever checked calls that meet `ok` make of
it. A vector read by a call was itself made by such a run. -/
inductive Built {e : Bool} (ok : ∀ n, BitVector e n → Call e n → Prop) :
    ∀ {n}, BitVector e n → Prop
  | cleared {n : Nat} (raw : BitVector e n) : Built ok raw.clear
  | call {n : Nat} {b : BitVector e n} (c : Call e n) (before : Built ok b) (checked : c.Checked)
      (meets : ok n b c) (operand : ∀ m (other : BitVector e m), c.operand = some ⟨m, other⟩ →
        Built ok other) : Built ok (c.apply b)

end Quickstep.Utility
