import Quickstep.Lib.WordMemory

/-!
# Word operations of BitVector

The private helpers and the word-level member functions of `utility/BitVector.hpp`: the short
version works on a single 8, 16 or 32 bit word, the regular version on an array of 64-bit words.
Bit 0 is the most significant bit of the first word.
-/

namespace Quickstep.Utility
open Quickstep.Lib

/-- `TopBit`: the word with only its most significant bit set. -/
def topBit (w : Nat) : BitVec w := 1#w <<< (w - 1)

/-- `FlipLimitedBits`: invert a word; a nonzero `numBits` keeps only that many leading bits. -/
def flipLimitedBits {w : Nat} (item : BitVec w) (numBits : Nat) : BitVec w :=
  let item := ~~~item
  if numBits ≠ 0 then item &&& (BitVec.allOnes w <<< (w - numBits)) else item

/-- `MaskBitRange`: ones from `startBitNum` for `rangeNumBits` positions. -/
def maskBitRange (w startBitNum rangeNumBits : Nat) : BitVec w :=
  let rangeNumBits := if rangeNumBits > w then w else rangeNumBits
  if rangeNumBits ≠ 0 then (BitVec.allOnes w <<< (w - rangeNumBits)) >>> startBitNum else 0#w

/-! ## The short version: one word -/

def getBitShortVersion {w : Nat} (word : BitVec w) (bitNum : Nat) : Bool :=
  ((word <<< bitNum) &&& topBit w) != 0#w

def setBitShortVersion {w : Nat} (word : BitVec w) (bitNum : Nat) (value : Bool) : BitVec w :=
  if value then word ||| (topBit w >>> bitNum) else word &&& ~~~(topBit w >>> bitNum)

def setBitRangeShortVersion {w : Nat} (word : BitVec w) (startBitNum rangeNumBits : Nat)
    (value : Bool) : BitVec w :=
  if value then word ||| maskBitRange w startBitNum rangeNumBits
  else word &&& ~~~(maskBitRange w startBitNum rangeNumBits)

def shiftTailForwardShortVersion {w : Nat} (word : BitVec w) (tailStart shiftDistance : Nat) :
    BitVec w :=
  let head := word &&& maskBitRange w 0 tailStart
  let tail := word &&& maskBitRange w (tailStart + shiftDistance) w
  head ||| (tail <<< shiftDistance)

def shiftTailBackwardShortVersion {w : Nat} (word : BitVec w) (tailStart shiftDistance : Nat) :
    BitVec w :=
  let head := word &&& maskBitRange w 0 tailStart
  let tail := word &&& maskBitRange w tailStart w
  head ||| (tail >>> shiftDistance)

/-! ## The regular version: an array of 64-bit words -/

/-- `data_array_size_`: the number of words of a regular vector. -/
def dataArraySize (numBits : Nat) : Nat := numBits / 64 + if numBits % 64 ≠ 0 then 1 else 0

def getBitRegularVersion (data : WordMemory 64) (bitNum : Nat) : Bool :=
  ((data (bitNum / 64) <<< (bitNum % 64)) &&& topBit 64) != 0#64

def setBitRegularVersion (data : WordMemory 64) (bitNum : Nat) (value : Bool) : WordMemory 64 :=
  if value then data.write (bitNum / 64) (data (bitNum / 64) ||| (topBit 64 >>> (bitNum % 64)))
  else data.write (bitNum / 64) (data (bitNum / 64) &&& ~~~(topBit 64 >>> (bitNum % 64)))

/-- `|= mask` or `&= ~mask`, the two ways the range setters store a value. -/
def setMasked (data : WordMemory 64) (element : Nat) (mask : BitVec 64) (value : Bool) :
    WordMemory 64 :=
  data.write element (if value then data element ||| mask else data element &&& ~~~mask)

/-- The whole words of a range by `memset`, then the leading bits of the word after them. That
word is accessed even when no bit of it belongs to the range. -/
def setWholeElements (data : WordMemory 64) (startElement rangeNumBits : Nat) (value : Bool) :
    WordMemory 64 :=
  let rangeElements := rangeNumBits / 64
  let data := data.memset startElement (if value then BitVec.allOnes 64 else 0#64) rangeElements
  setMasked data (startElement + rangeElements) (maskBitRange 64 0 (rangeNumBits % 64)) value

def setBitRangeRegularVersion (data : WordMemory 64) (startBitNum rangeNumBits : Nat)
    (value : Bool) : WordMemory 64 :=
  let startElement := startBitNum / 64
  let startLowerBits := startBitNum % 64
  if startLowerBits ≠ 0 then
    let data := setMasked data startElement (maskBitRange 64 startLowerBits rangeNumBits) value
    let rangeNumBits := rangeNumBits + startLowerBits
    if rangeNumBits ≤ 64 then data
    else setWholeElements data (startElement + 1) (rangeNumBits - 64) value
  else setWholeElements data startElement rangeNumBits value

def setBitWordRegularVersion (numBits : Nat) (data : WordMemory 64) (wordId : Nat)
    (value : BitVec 64) : WordMemory 64 :=
  let data := data.write wordId value
  if wordId = dataArraySize numBits - 1 ∧ numBits % 64 ≠ 0 then
    data.write wordId (data wordId &&& (BitVec.allOnes 64 <<< (64 - numBits % 64)))
  else data

def flipBitsRegularVersion (numBits : Nat) (data : WordMemory 64) : WordMemory 64 :=
  let last := dataArraySize numBits - 1
  let data := forUpTo last (fun position data => data.write position (~~~data position)) data
  data.write last (flipLimitedBits (data last) (numBits % 64))

/-- Mask the last word of a vector whose length is not a multiple of 64. -/
def maskLastWord (numBits : Nat) (data : WordMemory 64) : WordMemory 64 :=
  let last := dataArraySize numBits - 1
  if numBits % 64 ≠ 0 then data.write last (data last &&& maskBitRange 64 0 (numBits % 64)) else data

/-- `memcpy` the words of a vector of `numBits` bits out of `other`, then mask the last one. -/
def assignFromLongerRegularVersion (numBits : Nat) (data other : WordMemory 64) : WordMemory 64 :=
  maskLastWord numBits
    (forUpTo (dataArraySize numBits) (fun position data => data.write position (other position)) data)

/-- Combine the first `limit` words of two arrays in place. -/
def combineWords (combine : BitVec 64 → BitVec 64 → BitVec 64) (limit : Nat)
    (data other : WordMemory 64) : WordMemory 64 :=
  forUpTo limit (fun position data =>
    data.write position (combine (data position) (other position))) data

def intersectWithRegularVersion (numBits : Nat) (data other : WordMemory 64) : WordMemory 64 :=
  combineWords (· &&& ·) (dataArraySize numBits) data other

def unionWithRegularVersion (numBits : Nat) (data other : WordMemory 64) : WordMemory 64 :=
  combineWords (· ||| ·) (dataArraySize numBits) data other

/-- `unsetFrom`: and-not over the words both vectors have. -/
def unsetFromRegularVersion (numBits otherNumBits : Nat) (data other : WordMemory 64) :
    WordMemory 64 :=
  combineWords (fun word otherWord => word &&& ~~~otherWord)
    (min (dataArraySize numBits) (dataArraySize otherNumBits)) data other

/-! ### Tail shifts of the regular version -/

/-- The positions the forward shift works at after its partial first word. -/
structure ShiftCursor where
  data : WordMemory 64
  destElement : Nat
  srcElement : Nat
  srcLowerBits : Nat

/-- Fill the rest of the first word of a forward shift whose tail starts inside a word. `inl` is
the early return, when the source ends within this word. -/
def fillFirstWord (size : Nat) (data : WordMemory 64)
    (destElement destLowerBits srcElement srcLowerBits : Nat) : WordMemory 64 ⊕ ShiftCursor :=
  let data := data.write destElement
    ((data destElement &&& maskBitRange 64 0 destLowerBits)
      ||| ((data srcElement <<< srcLowerBits) >>> destLowerBits))
  if destLowerBits < srcLowerBits then
    let destLowerBits := destLowerBits + (64 - srcLowerBits)
    let srcElement := srcElement + 1
    if srcElement = size then
      .inl (data.memset (destElement + 1) 0#64 (size - (destElement + 1)))
    else
      .inr ⟨data.write destElement (data destElement ||| (data srcElement >>> destLowerBits)),
        destElement + 1, srcElement, 64 - destLowerBits⟩
  else
    let srcLowerBits := srcLowerBits + (64 - destLowerBits)
    .inr ⟨data, destElement + 1, srcElement + srcLowerBits / 64, srcLowerBits % 64⟩

/-- Move the whole words of a forward shift and zero the words behind them. -/
def shiftWholeWords (size : Nat) (c : ShiftCursor) : WordMemory 64 :=
  let words := size - c.srcElement
  let data :=
    if c.srcLowerBits ≠ 0 then
      let data := forUpTo (words - 1) (fun k data =>
        data.write (c.destElement + k) ((data (c.srcElement + k) <<< c.srcLowerBits)
          ||| (data (c.srcElement + k + 1) >>> (64 - c.srcLowerBits)))) c.data
      data.write (c.destElement + (words - 1)) (data (c.srcElement + (words - 1)) <<< c.srcLowerBits)
    else c.data.memmove c.destElement c.srcElement words
  let destElement := c.destElement + words
  data.memset destElement 0#64 (size - destElement)

def shiftTailForwardRegularVersion (numBits : Nat) (data : WordMemory 64)
    (tailStart shiftDistance : Nat) : WordMemory 64 :=
  if shiftDistance = 0 then data else
  let size := dataArraySize numBits
  let destElement := tailStart / 64
  let destLowerBits := tailStart % 64
  -- The sum of the two arguments is a `size_t`.
  let source := (tailStart + shiftDistance) % 2 ^ 64
  let srcElement := source / 64
  let srcLowerBits := source % 64
  if srcElement ≥ size then
    if destLowerBits ≠ 0 then
      (data.write destElement (data destElement &&& maskBitRange 64 0 destLowerBits)).memset
        (destElement + 1) 0#64 (size - (destElement + 1))
    else data.memset destElement 0#64 (size - destElement)
  else if destLowerBits ≠ 0 then
    match fillFirstWord size data destElement destLowerBits srcElement srcLowerBits with
    | .inl data => data
    | .inr cursor => shiftWholeWords size cursor
  else shiftWholeWords size ⟨data, destElement, srcElement, srcLowerBits⟩

/-- The backward shift by a distance that is not a multiple of the word size, back to front. -/
def shiftBackwardUnaligned (size : Nat) (data : WordMemory 64)
    (tailStartElement tailStartLowerBits shiftElements shiftLowerBits : Nat) : WordMemory 64 :=
  let tailBits := (data tailStartElement <<< tailStartLowerBits) >>> tailStartLowerBits
  let next := tailStartElement + shiftElements + 1
  let data := forUpTo (size - 1 - next) (fun k data =>
    let element := size - 1 - k
    data.write element ((data (element - shiftElements) >>> shiftLowerBits)
      ||| (data (element - shiftElements - 1) <<< (64 - shiftLowerBits)))) data
  let data :=
    if next < size then
      data.write next ((data (tailStartElement + 1) >>> shiftLowerBits)
        ||| (tailBits <<< (64 - shiftLowerBits)))
    else data
  if shiftElements ≠ 0 then
    let data := data.write (tailStartElement + shiftElements) (tailBits >>> shiftLowerBits)
    let data :=
      if tailStartLowerBits ≠ 0 then setMasked data tailStartElement
        (maskBitRange 64 tailStartLowerBits 64) false
      else data
    data.memset (tailStartElement + 1) 0#64 (shiftElements - 1)
  else if tailStartLowerBits ≠ 0 then
    data.write tailStartElement
      ((data tailStartElement &&& maskBitRange 64 0 tailStartLowerBits)
        ||| ((data tailStartElement &&& maskBitRange 64 tailStartLowerBits 64) >>> shiftLowerBits))
  else data.write tailStartElement (data tailStartElement >>> shiftLowerBits)

/-- The backward shift by whole words. -/
def shiftBackwardAligned (size : Nat) (data : WordMemory 64)
    (tailStartElement tailStartLowerBits shiftElements : Nat) : WordMemory 64 :=
  let data := data.memmove (tailStartElement + shiftElements) tailStartElement
    (size - tailStartElement - shiftElements)
  if tailStartLowerBits ≠ 0 then
    let data := data.write tailStartElement
      (data tailStartElement &&& maskBitRange 64 0 tailStartLowerBits)
    let data := data.write (tailStartElement + shiftElements)
      (data (tailStartElement + shiftElements) &&& maskBitRange 64 tailStartLowerBits 64)
    data.memset (tailStartElement + 1) 0#64 (shiftElements - 1)
  else data.memset tailStartElement 0#64 shiftElements

def shiftTailBackwardRegularVersion (numBits : Nat) (data : WordMemory 64)
    (tailStart shiftDistance : Nat) : WordMemory 64 :=
  if shiftDistance = 0 then data else
  let size := dataArraySize numBits
  let tailStartElement := tailStart / 64
  let tailStartLowerBits := tailStart % 64
  if (tailStart + shiftDistance) % 2 ^ 64 > numBits then
    let skipped := if tailStartLowerBits ≠ 0 then 1 else 0
    let fullWords := size - tailStartElement - skipped
    let data :=
      if fullWords ≠ 0 then data.memset (tailStartElement + skipped) 0#64 fullWords else data
    if tailStartLowerBits ≠ 0 then
      setMasked data tailStartElement (maskBitRange 64 tailStartLowerBits 64) false
    else data
  else
    let shiftElements := shiftDistance / 64
    let shiftLowerBits := shiftDistance % 64
    let data :=
      if shiftLowerBits ≠ 0 then
        shiftBackwardUnaligned size data tailStartElement tailStartLowerBits shiftElements
          shiftLowerBits
      else shiftBackwardAligned size data tailStartElement tailStartLowerBits shiftElements
    maskLastWord numBits data

end Quickstep.Utility
