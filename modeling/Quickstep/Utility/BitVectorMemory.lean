import Quickstep.Lib.BoundedWords
import Quickstep.Utility.BitVectorTests

/-!
# The memory of a BitVector

The member functions of `utility/BitVector.hpp` once more, with every access to the data array and
every shift guarded: an index that is not below `data_array_size_`, or a shift by the width of the
shifted type or more, ends the execution. Without such a fault they do what the functions of the same
names do, which take any index.
-/

namespace Quickstep.Utility.Bounded
open Quickstep.Lib

/-! ## Helpers -/

def flipLimitedBits {w : Nat} (limit : Nat) (item : BitVec w) (numBits : Nat) : Exec (BitVec w) := do
  let item := ~~~item
  if numBits ≠ 0 then return item &&& (← shiftLeft limit (BitVec.allOnes w) (w - numBits))
  else return item

def maskBitRange (limit w startBitNum rangeNumBits : Nat) : Exec (BitVec w) := do
  let rangeNumBits := if rangeNumBits > w then w else rangeNumBits
  if rangeNumBits ≠ 0 then
    shiftRight limit (← shiftLeft limit (BitVec.allOnes w) (w - rangeNumBits)) startBitNum
  else return 0#w

/-! ## The short version: one word -/

section Short

variable {w : Nat} (size limit : Nat) (word : BitVec w)

/-- The word of a short vector is the first one of its array. -/
def shortWord : Exec (BitVec w) := guarded (0 < size) word

def getBitShortVersion (bitNum : Nat) : Exec Bool := do
  return ((← shiftLeft limit (← shortWord size word) bitNum) &&& topBit w) != 0#w

def setBitShortVersion (bitNum : Nat) (value : Bool) : Exec (BitVec w) := do
  let word ← shortWord size word
  let mask ← shiftRight limit (topBit w) bitNum
  return if value then word ||| mask else word &&& ~~~mask

def setBitRangeShortVersion (startBitNum rangeNumBits : Nat) (value : Bool) : Exec (BitVec w) := do
  let word ← shortWord size word
  let mask ← maskBitRange limit w startBitNum rangeNumBits
  return if value then word ||| mask else word &&& ~~~mask

/-- The sum of the two arguments is a `size_t`. -/
def shiftTailForwardShortVersion (tailStart shiftDistance : Nat) : Exec (BitVec w) := do
  let word ← shortWord size word
  let head := word &&& (← maskBitRange limit w 0 tailStart)
  let tail := word &&& (← maskBitRange limit w ((tailStart + shiftDistance) % 2 ^ 64) w)
  return head ||| (← shiftLeft limit tail shiftDistance)

def shiftTailBackwardShortVersion (tailStart shiftDistance : Nat) : Exec (BitVec w) := do
  let word ← shortWord size word
  let head := word &&& (← maskBitRange limit w 0 tailStart)
  let tail := word &&& (← maskBitRange limit w tailStart w)
  return head ||| (← shiftRight limit tail shiftDistance)

def allShortVersion (numBits : Nat) : Exec Bool := do
  let word ← shortWord size word
  let _ ← shiftLeft limit (BitVec.allOnes w) (w - numBits)
  return Utility.allShortVersion word numBits

def firstOneShortVersion (numBits position : Nat) : Exec Nat := do
  let value := (← shortWord size word) &&& (← shiftRight limit (BitVec.allOnes w) position)
  return if value ≠ 0#w then leadingZeroCount value else numBits

def firstZeroShortVersion (numBits position : Nat) : Exec Nat := do
  let word ← shortWord size word
  let passed ← if position ≠ 0 then shiftLeft limit (BitVec.allOnes w) (w - position) else pure 0#w
  let value := ~~~(word ||| passed)
  return if value ≠ 0#w then leadingZeroCount value else numBits

def lastOneShortVersion (numBits position : Nat) : Exec Nat := do
  let value := (← shortWord size word) &&& (← shiftLeft limit (BitVec.allOnes w) (w - position))
  return if value ≠ 0#w then w - 1 - trailingZeroCount value else numBits

def lastZeroShortVersion (numBits position : Nat) : Exec Nat := do
  let word ← shortWord size word
  let value := ~~~(word ||| ~~~(← shiftLeft limit (BitVec.allOnes w) (w - position)))
  return if value ≠ 0#w then w - 1 - trailingZeroCount value else numBits

end Short

/-! ## The regular version: an array of 64-bit words -/

section Regular

variable (size : Nat) (data : WordMemory 64)

def getBitRegularVersion (bitNum : Nat) : Exec Bool := do
  return ((← shiftLeft 64 (← data.load size (bitNum / 64)) (bitNum % 64)) &&& topBit 64) != 0#64

def setMasked (element : Nat) (mask : BitVec 64) (value : Bool) : Exec (WordMemory 64) := do
  let word ← data.load size element
  data.store size element (if value then word ||| mask else word &&& ~~~mask)

def setBitRegularVersion (bitNum : Nat) (value : Bool) : Exec (WordMemory 64) := do
  setMasked size data (bitNum / 64) (← shiftRight 64 (topBit 64) (bitNum % 64)) value

def setWholeElements (startElement rangeNumBits : Nat) (value : Bool) : Exec (WordMemory 64) := do
  let rangeElements := rangeNumBits / 64
  let data ← data.memsetWithin size startElement (if value then BitVec.allOnes 64 else 0#64)
    rangeElements
  setMasked size data (startElement + rangeElements) (← maskBitRange 64 64 0 (rangeNumBits % 64)) value

def setBitRangeRegularVersion (startBitNum rangeNumBits : Nat) (value : Bool) :
    Exec (WordMemory 64) := do
  let startElement := startBitNum / 64
  let startLowerBits := startBitNum % 64
  if startLowerBits ≠ 0 then
    let data ← setMasked size data startElement (← maskBitRange 64 64 startLowerBits rangeNumBits) value
    let rangeNumBits := rangeNumBits + startLowerBits
    if rangeNumBits ≤ 64 then return data
    else setWholeElements size data (startElement + 1) (rangeNumBits - 64) value
  else setWholeElements size data startElement rangeNumBits value

def setBitWordRegularVersion (numBits wordId : Nat) (value : BitVec 64) : Exec (WordMemory 64) := do
  let data ← data.store size wordId value
  if wordId = size - 1 ∧ numBits % 64 ≠ 0 then
    let word ← data.load size wordId
    data.store size wordId (word &&& (← shiftLeft 64 (BitVec.allOnes 64) (64 - numBits % 64)))
  else return data

def flipBitsRegularVersion (numBits : Nat) : Exec (WordMemory 64) := do
  let last := size - 1
  let data ← forUpToM last (fun position data => do
    data.store size position (~~~(← data.load size position))) data
  data.store size last (← flipLimitedBits 64 (← data.load size last) (numBits % 64))

def maskLastWord (numBits : Nat) : Exec (WordMemory 64) := do
  let last := size - 1
  if numBits % 64 ≠ 0 then
    let word ← data.load size last
    data.store size last (word &&& (← maskBitRange 64 64 0 (numBits % 64)))
  else return data

/-- `memcpy` of the words of a vector out of an array of `otherSize` words. -/
def copyWords (otherSize : Nat) (other : WordMemory 64) : Exec (WordMemory 64) :=
  forUpToM size (fun position data => do
    data.store size position (← other.load otherSize position)) data

def assignFromLongerRegularVersion (numBits otherSize : Nat) (other : WordMemory 64) :
    Exec (WordMemory 64) := do
  maskLastWord size (← copyWords size data otherSize other) numBits

/-- Combine the first `limit` words of two arrays in place. -/
def combineWords (combine : BitVec 64 → BitVec 64 → BitVec 64) (limit otherSize : Nat)
    (other : WordMemory 64) : Exec (WordMemory 64) :=
  forUpToM limit (fun position data => do
    let word ← data.load size position
    data.store size position (combine word (← other.load otherSize position))) data

/-! ### Tail shifts -/

def fillFirstWord (destElement destLowerBits srcElement srcLowerBits : Nat) :
    Exec (WordMemory 64 ⊕ ShiftCursor) := do
  let head := (← data.load size destElement) &&& (← maskBitRange 64 64 0 destLowerBits)
  let tail ← shiftRight 64 (← shiftLeft 64 (← data.load size srcElement) srcLowerBits) destLowerBits
  let data ← data.store size destElement (head ||| tail)
  if destLowerBits < srcLowerBits then
    let destLowerBits := destLowerBits + (64 - srcLowerBits)
    let srcElement := srcElement + 1
    if srcElement = size then
      return .inl (← data.memsetWithin size (destElement + 1) 0#64 (wordsBetween (destElement + 1) size))
    else
      let word ← data.load size destElement
      let next ← shiftRight 64 (← data.load size srcElement) destLowerBits
      return .inr ⟨← data.store size destElement (word ||| next), destElement + 1, srcElement,
        64 - destLowerBits⟩
  else
    let srcLowerBits := srcLowerBits + (64 - destLowerBits)
    return .inr ⟨data, destElement + 1, srcElement + srcLowerBits / 64, srcLowerBits % 64⟩

/-- The loop ends one word before the end of the array. -/
def shiftWholeWords (c : ShiftCursor) : Exec (WordMemory 64) := do
  let words := size - c.srcElement
  let data ←
    if c.srcLowerBits ≠ 0 then do
      let data ← forUpToM (words - 1) (fun k data => do
        let high ← shiftLeft 64 (← data.load size (c.srcElement + k)) c.srcLowerBits
        let low ← shiftRight 64 (← data.load size (c.srcElement + k + 1)) (64 - c.srcLowerBits)
        data.store size (c.destElement + k) (high ||| low)) c.data
      data.store size (c.destElement + (words - 1))
        (← shiftLeft 64 (← data.load size (c.srcElement + (words - 1))) c.srcLowerBits)
    else c.data.memmoveWithin size c.destElement c.srcElement (wordsBetween c.srcElement size)
  let destElement := c.destElement + words
  data.memsetWithin size destElement 0#64 (wordsBetween destElement size)

def shiftTailForwardRegularVersion (tailStart shiftDistance : Nat) : Exec (WordMemory 64) := do
  if shiftDistance = 0 then return data
  let destElement := tailStart / 64
  let destLowerBits := tailStart % 64
  let source := (tailStart + shiftDistance) % 2 ^ 64
  let srcElement := source / 64
  let srcLowerBits := source % 64
  if srcElement ≥ size then
    if destLowerBits ≠ 0 then
      let word ← data.load size destElement
      let data ← data.store size destElement (word &&& (← maskBitRange 64 64 0 destLowerBits))
      data.memsetWithin size (destElement + 1) 0#64 (wordsBetween (destElement + 1) size)
    else data.memsetWithin size destElement 0#64 (wordsBetween destElement size)
  else if destLowerBits ≠ 0 then
    match ← fillFirstWord size data destElement destLowerBits srcElement srcLowerBits with
    | .inl data => return data
    | .inr cursor => shiftWholeWords size cursor
  else shiftWholeWords size ⟨data, destElement, srcElement, srcLowerBits⟩

/-- The end of the unaligned shift: the first word that the tail is moved to, and the words before it. -/
def shiftTailStart (tailBits : BitVec 64)
    (tailStartElement tailStartLowerBits shiftElements shiftLowerBits : Nat) :
    Exec (WordMemory 64) := do
  if shiftElements ≠ 0 then
    let data ← data.store size (tailStartElement + shiftElements)
      (← shiftRight 64 tailBits shiftLowerBits)
    if tailStartLowerBits ≠ 0 then
      let data ←
        setMasked size data tailStartElement (← maskBitRange 64 64 tailStartLowerBits 64) false
      data.memsetWithin size (tailStartElement + 1) 0#64 (shiftElements - 1)
    else data.memsetWithin size (tailStartElement + 1) 0#64 (shiftElements - 1)
  else if tailStartLowerBits ≠ 0 then
    let word ← data.load size tailStartElement
    let head := word &&& (← maskBitRange 64 64 0 tailStartLowerBits)
    let tail := word &&& (← maskBitRange 64 64 tailStartLowerBits 64)
    data.store size tailStartElement (head ||| (← shiftRight 64 tail shiftLowerBits))
  else
    data.store size tailStartElement
      (← shiftRight 64 (← data.load size tailStartElement) shiftLowerBits)

def shiftBackwardUnaligned (tailStartElement tailStartLowerBits shiftElements shiftLowerBits : Nat) :
    Exec (WordMemory 64) := do
  let tailBits ← shiftRight 64
    (← shiftLeft 64 (← data.load size tailStartElement) tailStartLowerBits) tailStartLowerBits
  let next := tailStartElement + shiftElements + 1
  let data ← forUpToM (size - 1 - next) (fun k data => do
    let element := size - 1 - k
    let low ← shiftRight 64 (← data.load size (element - shiftElements)) shiftLowerBits
    let high ← shiftLeft 64 (← data.load size (element - shiftElements - 1)) (64 - shiftLowerBits)
    data.store size element (low ||| high)) data
  if next < size then
    let low ← shiftRight 64 (← data.load size (tailStartElement + 1)) shiftLowerBits
    let data ← data.store size next (low ||| (← shiftLeft 64 tailBits (64 - shiftLowerBits)))
    shiftTailStart size data tailBits tailStartElement tailStartLowerBits shiftElements shiftLowerBits
  else
    shiftTailStart size data tailBits tailStartElement tailStartLowerBits shiftElements shiftLowerBits

def shiftBackwardAligned (tailStartElement tailStartLowerBits shiftElements : Nat) :
    Exec (WordMemory 64) := do
  let data ← data.memmoveWithin size (tailStartElement + shiftElements) tailStartElement
    (wordsBetween (tailStartElement + shiftElements) size)
  if tailStartLowerBits ≠ 0 then
    let word ← data.load size tailStartElement
    let data ← data.store size tailStartElement (word &&& (← maskBitRange 64 64 0 tailStartLowerBits))
    let word ← data.load size (tailStartElement + shiftElements)
    let data ← data.store size (tailStartElement + shiftElements)
      (word &&& (← maskBitRange 64 64 tailStartLowerBits 64))
    data.memsetWithin size (tailStartElement + 1) 0#64 (shiftElements - 1)
  else data.memsetWithin size tailStartElement 0#64 shiftElements

/-- `memset` of the tail, for a shift past the end. -/
def clearTail (tailStartElement tailStartLowerBits : Nat) : Exec (WordMemory 64) := do
  let skipped := if tailStartLowerBits ≠ 0 then 1 else 0
  let fullWords := size - tailStartElement - skipped
  let data ←
    if fullWords ≠ 0 then data.memsetWithin size (tailStartElement + skipped) 0#64 fullWords
    else pure data
  if tailStartLowerBits ≠ 0 then
    setMasked size data tailStartElement (← maskBitRange 64 64 tailStartLowerBits 64) false
  else return data

def shiftTailBackwardRegularVersion (numBits tailStart shiftDistance : Nat) :
    Exec (WordMemory 64) := do
  if shiftDistance = 0 then return data
  let tailStartElement := tailStart / 64
  let tailStartLowerBits := tailStart % 64
  if (tailStart + shiftDistance) % 2 ^ 64 > numBits then
    clearTail size data tailStartElement tailStartLowerBits
  else
    let shiftElements := shiftDistance / 64
    let shiftLowerBits := shiftDistance % 64
    if shiftLowerBits ≠ 0 then
      let data ← shiftBackwardUnaligned size data tailStartElement tailStartLowerBits shiftElements
        shiftLowerBits
      maskLastWord size data numBits
    else
      let data ← shiftBackwardAligned size data tailStartElement tailStartLowerBits shiftElements
      maskLastWord size data numBits

/-! ### Reading -/

def anyRegularVersion : Exec Bool := do
  let found ← forReturn (fun arrayIdx => do
    return if (← data.load size arrayIdx) ≠ 0#64 then some () else none) size 0
  return found.isSome

def allRegularVersion (numBits : Nat) : Exec Bool := do
  let tailElementBits := numBits % 64
  let missing ← forReturn (fun arrayIdx => do
    return if (← data.load size arrayIdx) ≠ BitVec.allOnes 64 then some () else none)
    (size - if tailElementBits ≠ 0 then 1 else 0) 0
  if missing.isSome then return false
  else if tailElementBits = 0 then return true
  else
    let word ← data.load size (size - 1)
    return word == (← shiftLeft 64 (BitVec.allOnes 64) (64 - tailElementBits))

def onesCountRegularVersion : Exec Nat :=
  forUpToM size (fun position count => do
    return count + populationCount (← data.load size position)) 0

def scanForward (numBits rounds arrayIdx : Nat) : Exec Nat := do
  let found ← forReturn (fun arrayIdx => do
    let word ← data.load size arrayIdx
    return if word ≠ 0#64 then some ((arrayIdx <<< 6) ||| leadingZeroCount word) else none)
    rounds arrayIdx
  return found.getD numBits

def scanBackward (numBits : Nat) : Nat → Exec Nat
  | 0 => do
    let word ← data.load size 0
    return if word ≠ 0#64 then (1 <<< 6) - trailingZeroCount word - 1 else numBits
  | arrayIdx + 1 => do
    let word ← data.load size (arrayIdx + 1)
    if word ≠ 0#64 then return ((arrayIdx + 1 + 1) <<< 6) - trailingZeroCount word - 1
    else scanBackward numBits arrayIdx

def firstOneRegularVersion (numBits position : Nat) : Exec Nat := do
  if position % 64 ≠ 0 then
    let word ← data.load size (position / 64)
    let value := word &&& (← shiftRight 64 (BitVec.allOnes 64) (position % 64))
    if value ≠ 0#64 then return 64 * (position / 64) ||| leadingZeroCount value
    else
      let position := 64 * (position / 64) + 64
      scanForward size data numBits (size - position / 64) (position / 64)
  else scanForward size data numBits (size - position / 64) (position / 64)

def firstZeroRegularVersion (numBits position : Nat) : Exec Nat := do
  let inverse : WordMemory 64 := fun arrayIdx => ~~~data arrayIdx
  if position % 64 ≠ 0 then
    let word ← data.load size (position / 64)
    let value := ~~~(word ||| (← shiftLeft 64 (BitVec.allOnes 64) (64 - position % 64)))
    if value ≠ 0#64 then return 64 * (position / 64) ||| leadingZeroCount value
    else
      let position := 64 * (position / 64) + 64
      scanForward size inverse numBits (size - position / 64) (position / 64)
  else scanForward size inverse numBits (size - position / 64) (position / 64)

def lastOneRegularVersion (numBits position : Nat) : Exec Nat := do
  let arrayIdx := (position - 1) / 64
  if position % 64 ≠ 0 then
    let word ← data.load size arrayIdx
    let value := word &&& (← shiftLeft 64 (BitVec.allOnes 64) (64 - position % 64))
    if value ≠ 0#64 then return ((arrayIdx + 1) <<< 6) - trailingZeroCount value - 1
    else if arrayIdx ≠ 0 then scanBackward size data numBits (arrayIdx - 1)
    else return numBits
  else scanBackward size data numBits arrayIdx

def lastZeroRegularVersion (numBits position : Nat) : Exec Nat := do
  let inverse : WordMemory 64 := fun arrayIdx => ~~~data arrayIdx
  let arrayIdx := (position - 1) / 64
  if position % 64 ≠ 0 then
    let word ← data.load size arrayIdx
    let value := ~~~(word ||| ~~~(← shiftLeft 64 (BitVec.allOnes 64) (64 - position % 64)))
    if value ≠ 0#64 then return ((arrayIdx + 1) <<< 6) - trailingZeroCount value - 1
    else if arrayIdx ≠ 0 then scanBackward size inverse numBits (arrayIdx - 1)
    else return numBits
  else scanBackward size inverse numBits arrayIdx

end Regular

end Quickstep.Utility.Bounded
