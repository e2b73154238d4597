import Quickstep.Utility.BitVector

/-!
# The bits each operation changes

One lemma per word operation, in terms of most-significant-first bit positions, and from these
one lemma per member function about the stored bits of the vector, padding included.
-/

namespace Quickstep.Utility
open Quickstep.Lib

/-! ## Masks and the short version -/

section Words

variable {w : Nat}

theorem getMsbD_topBit_shift (k i : Nat) :
    (topBit w >>> k).getMsbD i = decide (i = k ∧ i < w) := by
  simp only [topBit, BitVec.getMsbD_ushiftRight, BitVec.getMsbD_shiftLeft, BitVec.getMsbD_one]
  grind

theorem getMsbD_maskBitRange (start range i : Nat) :
    (maskBitRange w start range).getMsbD i = decide (i < w ∧ start ≤ i ∧ i < start + range) := by
  simp only [maskBitRange, apply_ite (fun x : BitVec w => x.getMsbD i), BitVec.getMsbD_ushiftRight,
    BitVec.getMsbD_shiftLeft, BitVec.getMsbD_allOnes, BitVec.getMsbD_zero]
  grind

/-- The single-bit test reads that bit. -/
theorem and_topBit_ne_zero (x : BitVec w) : (x &&& topBit w != 0#w) = x.getMsbD 0 := by
  have only_top (i : Nat) : (x &&& topBit w).getMsbD i = (x.getMsbD i && decide (i = 0 ∧ i < w)) := by
    have := getMsbD_topBit_shift (w := w) 0 i
    rw [BitVec.ushiftRight_zero] at this
    rw [BitVec.getMsbD_and, this]
  cases h : x.getMsbD 0 with
  | false =>
    have : x &&& topBit w = 0#w := by
      apply BitVec.eq_of_getMsbD_eq
      intro i _
      rw [only_top, BitVec.getMsbD_zero]
      by_cases hi : i = 0
      · rw [hi, h, Bool.false_and]
      · simp [hi]
    rw [this, bne_self_eq_false]
  | true =>
    have pos : 0 < w := by
      by_contra hw
      rw [BitVec.getMsbD_of_ge x 0 (by omega)] at h
      exact absurd h (by decide)
    rw [bne_iff_ne]
    intro zero
    have top := only_top 0
    rw [zero, BitVec.getMsbD_zero, h] at top
    simp [pos] at top

theorem getBitShortVersion_eq (word : BitVec w) (i : Nat) :
    getBitShortVersion word i = word.getMsbD i := by
  rw [getBitShortVersion, and_topBit_ne_zero, BitVec.getMsbD_shiftLeft, Nat.zero_add]

theorem getMsbD_setBitShortVersion {word : BitVec w} {k i : Nat} {value : Bool} (hi : i < w) :
    (setBitShortVersion word k value).getMsbD i = if i = k then value else word.getMsbD i := by
  have mask := getMsbD_topBit_shift (w := w) k i
  cases value with
  | true =>
    rw [setBitShortVersion, if_pos rfl, BitVec.getMsbD_or, mask]
    grind
  | false =>
    rw [setBitShortVersion, if_neg (by decide), BitVec.getMsbD_and, BitVec.getMsbD_not, mask]
    grind

theorem getMsbD_setBitRangeShortVersion {word : BitVec w} {start range i : Nat} {value : Bool}
    (hi : i < w) :
    (setBitRangeShortVersion word start range value).getMsbD i =
      if start ≤ i ∧ i < start + range then value else word.getMsbD i := by
  cases value <;> by_cases h : start ≤ i ∧ i < start + range <;>
    simp [setBitRangeShortVersion, getMsbD_maskBitRange, h, hi]

theorem getMsbD_flipLimitedBits {item : BitVec w} {numBits i : Nat} (hi : i < w)
    (fits : numBits ≤ w) :
    (flipLimitedBits item numBits).getMsbD i =
      (!item.getMsbD i && decide (numBits = 0 ∨ i < numBits)) := by
  by_cases h : numBits = 0
  · simp [flipLimitedBits, h, hi]
  · have kept : (i + (w - numBits) < w) = (i < numBits) := by
      apply propext
      omega
    simp [flipLimitedBits, h, hi, kept]

end Words

/-! ## The regular version -/

section Arrays

variable (data other : WordMemory 64)

theorem getBitRegularVersion_eq (i : Nat) : getBitRegularVersion data i = data.bit i := by
  rw [getBitRegularVersion, and_topBit_ne_zero, BitVec.getMsbD_shiftLeft, Nat.zero_add]
  rfl

theorem bit_setBitRegularVersion (k i : Nat) (value : Bool) :
    (setBitRegularVersion data k value).bit i = if i = k then value else data.bit i := by
  have lower : i % 64 < 64 := Nat.mod_lt i (by omega)
  have same : i = k ↔ i / 64 = k / 64 ∧ i % 64 = k % 64 := by omega
  have mask := getMsbD_topBit_shift (w := 64) (k % 64) (i % 64)
  cases value with
  | true =>
    rw [setBitRegularVersion, if_pos rfl, WordMemory.bit_write, BitVec.getMsbD_or, mask,
      WordMemory.bit]
    grind
  | false =>
    rw [setBitRegularVersion, if_neg (by decide), WordMemory.bit_write, BitVec.getMsbD_and,
      BitVec.getMsbD_not, mask, WordMemory.bit]
    grind

theorem bit_setMasked (element i : Nat) (mask : BitVec 64) (value : Bool) :
    (setMasked data element mask value).bit i =
      if i / 64 = element ∧ mask.getMsbD (i % 64) = true then value else data.bit i := by
  have lower : i % 64 < 64 := Nat.mod_lt i (by omega)
  rw [setMasked, WordMemory.bit_write, WordMemory.bit]
  cases value with
  | true =>
    rw [if_pos rfl, BitVec.getMsbD_or]
    grind
  | false =>
    rw [if_neg Bool.false_ne_true, BitVec.getMsbD_and, BitVec.getMsbD_not]
    grind

theorem bit_memset_fill (start count i : Nat) (value : Bool) :
    (data.memset start (if value then BitVec.allOnes 64 else 0#64) count).bit i =
      if start ≤ i / 64 ∧ i / 64 < start + count then value else data.bit i := by
  have lower : i % 64 < 64 := Nat.mod_lt i (by omega)
  simp only [WordMemory.bit, WordMemory.memset]
  split
  · cases value with
    | true => rw [if_pos rfl, BitVec.getMsbD_allOnes, decide_eq_true lower]
    | false => rw [if_neg (by decide), BitVec.getMsbD_zero]
  · rfl

theorem bit_setWholeElements (startElement range i : Nat) (value : Bool) :
    (setWholeElements data startElement range value).bit i =
      if 64 * startElement ≤ i ∧ i < 64 * startElement + range then value else data.bit i := by
  simp only [setWholeElements, bit_setMasked, bit_memset_fill, getMsbD_maskBitRange,
    decide_eq_true_eq]
  split
  · rw [if_pos (by omega)]
  · by_cases inside : startElement ≤ i / 64 ∧ i / 64 < startElement + range / 64
    · rw [if_pos inside, if_pos (by omega)]
    · rw [if_neg inside, if_neg (by omega)]

/-- **The range setter** changes exactly the bits of its range, at every alignment. -/
theorem bit_setBitRangeRegularVersion (start range i : Nat) (value : Bool) :
    (setBitRangeRegularVersion data start range value).bit i =
      if start ≤ i ∧ i < start + range then value else data.bit i := by
  simp only [setBitRangeRegularVersion]
  split
  · have first : i / 64 = start / 64 ∧
        (maskBitRange 64 (start % 64) range).getMsbD (i % 64) = true ↔
        (start ≤ i ∧ i < start + range) ∧ i / 64 = start / 64 := by
      rw [getMsbD_maskBitRange, decide_eq_true_eq]
      omega
    split
    · rw [bit_setMasked]
      simp only [first]
      congr 1
      apply propext
      omega
    · rw [bit_setWholeElements, bit_setMasked]
      simp only [first]
      by_cases inside : start ≤ i ∧ i < start + range
      · by_cases word : i / 64 = start / 64
        · rw [if_neg (by omega), if_pos ⟨inside, word⟩, if_pos inside]
        · rw [if_pos (by omega), if_pos inside]
      · rw [if_neg (by omega), if_neg (by omega), if_neg inside]
  · rw [bit_setWholeElements]
    congr 1
    apply propext
    omega

theorem dataArraySize_bounds (n : Nat) :
    n ≤ 64 * dataArraySize n ∧ 64 * dataArraySize n < n + 64 := by
  simp only [dataArraySize]
  split <;> omega

/-- The masked last word keeps the bits of the vector and drops the padding. -/
theorem bit_maskLastWord (n i : Nat) :
    (maskLastWord n data).bit i =
      if i / 64 = dataArraySize n - 1 ∧ n % 64 ≠ 0 then data.bit i && decide (i < n)
      else data.bit i := by
  have size := dataArraySize_bounds n
  have lower : i % 64 < 64 := Nat.mod_lt i (by omega)
  have kept : i / 64 = dataArraySize n - 1 → n % 64 ≠ 0 → (i % 64 < n % 64 ↔ i < n) := by omega
  simp only [maskLastWord]
  split
  · rw [WordMemory.bit_write, BitVec.getMsbD_and, getMsbD_maskBitRange, WordMemory.bit]
    grind
  · grind

theorem bit_setBitWordRegularVersion {n wordId : Nat} (bound : wordId < dataArraySize n)
    (value : BitVec 64) (i : Nat) :
    (setBitWordRegularVersion n data wordId value).bit i =
      if i / 64 = wordId then value.getMsbD (i % 64) && decide (i < n) else data.bit i := by
  have size := dataArraySize_bounds n
  have lower : i % 64 < 64 := Nat.mod_lt i (by omega)
  have kept : n % 64 ≠ 0 → i / 64 = dataArraySize n - 1 →
      (i % 64 + (64 - n % 64) < 64 ↔ i < n) := by omega
  have inside : i / 64 = wordId → ¬ (wordId = dataArraySize n - 1 ∧ n % 64 ≠ 0) → i < n := by omega
  simp only [setBitWordRegularVersion]
  split
  · rw [WordMemory.bit_write, WordMemory.bit_write, WordMemory.write_same, BitVec.getMsbD_and,
      BitVec.getMsbD_shiftLeft, BitVec.getMsbD_allOnes]
    grind
  · rw [WordMemory.bit_write]
    grind

theorem bit_flipBitsRegularVersion {n i : Nat} (inside : i / 64 < dataArraySize n) :
    (flipBitsRegularVersion n data).bit i = (!data.bit i && decide (i < n)) := by
  have size := dataArraySize_bounds n
  have lower : i % 64 < 64 := Nat.mod_lt i (by omega)
  have flipped (p : Nat) := forUpTo_pointwise data (dataArraySize n - 1) (fun _ word => ~~~word) p
  simp only [flipBitsRegularVersion, WordMemory.bit_write]
  split
  · next last =>
    have kept : n % 64 = 0 ∨ i % 64 < n % 64 ↔ i < n := by omega
    rw [flipped, if_neg (Nat.lt_irrefl _), getMsbD_flipLimitedBits lower (by omega), ← last]
    simp only [kept, WordMemory.bit]
  · next other =>
    have before : i / 64 < dataArraySize n - 1 := by omega
    have below : i < n := by omega
    rw [WordMemory.bit, flipped, if_pos before]
    simp [lower, below, WordMemory.bit]

theorem combineWords_apply (combine : BitVec 64 → BitVec 64 → BitVec 64) (limit p : Nat) :
    combineWords combine limit data other p =
      if p < limit then combine (data p) (other p) else data p :=
  forUpTo_pointwise data limit (fun position word => combine word (other position)) p

theorem bit_assignFromLongerRegularVersion {n i : Nat} (inside : i / 64 < dataArraySize n) :
    (assignFromLongerRegularVersion n data other).bit i = (other.bit i && decide (i < n)) := by
  have size := dataArraySize_bounds n
  have copied := forUpTo_pointwise data (dataArraySize n) (fun position _ => other position) (i / 64)
  rw [if_pos inside] at copied
  rw [assignFromLongerRegularVersion, bit_maskLastWord]
  simp only [WordMemory.bit, copied]
  split
  · rfl
  · have below : i < n := by omega
    simp [below]

end Arrays

/-! ## The member functions -/

namespace BitVector

variable {e : Bool} {n : Nat}

theorem le_shortWidth (h : ShortVersion e n) : n ≤ shortWidth n := by
  have bound := h.2
  simp only [shortWidth]
  split
  · omega
  · split <;> omega

/-- The allocated bits of a short vector are those of its word. -/
theorem storage_short (h : ShortVersion e n) :
    8 * bytesNeeded e n = if n = 0 then 0 else shortWidth n := by
  have enabled := h.1
  have bound := h.2
  simp only [bytesNeeded, shortWidth, enabled, true_and]
  split
  · rfl
  · split
    · rfl
    · split <;> rfl

/-- The allocated bits of a regular vector are those of its words. -/
theorem storage_regular (h : ¬ ShortVersion e n) : 8 * bytesNeeded e n = 64 * dataArraySize n := by
  have long : e = true → ¬ n < 33 := fun he hn => h ⟨he, hn⟩
  simp only [bytesNeeded, dataArraySize]
  cases e with
  | false => grind
  | true =>
    have := long rfl
    grind

theorem lt_storage {i : Nat} (hi : i < n) : i < 8 * bytesNeeded e n := by
  by_cases h : ShortVersion e n
  · have := le_shortWidth h
    rw [storage_short h]
    split <;> omega
  · have := dataArraySize_bounds n
    rw [storage_regular h]
    omega

theorem nonempty_of_storage {i : Nat} (stored : i < 8 * bytesNeeded e n) : n ≠ 0 := by
  rintro rfl
  cases e <;> simp [bytesNeeded] at stored

/-- Reading a bit reads the storage. -/
theorem getBit_eq (b : BitVector e n) (i : Nat) : b.getBit i = b.storedBit i := by
  cases b with
  | short h word => exact getBitShortVersion_eq word i
  | regular h data => exact getBitRegularVersion_eq data i

section StoredBits

variable {b : BitVector e n} {i : Nat} (stored : i < 8 * bytesNeeded e n)
include stored

theorem storedBit_clear : b.clear.storedBit i = false := by
  cases b with
  | short h word =>
    have nonempty := nonempty_of_storage stored
    simp [clear, update, storedBit, nonempty]
  | regular h data =>
    rw [storage_regular h] at stored
    simp only [clear, update, storedBit, WordMemory.bit]
    rw [WordMemory.memset_inside (by omega) (by omega), BitVec.getMsbD_zero]

theorem storedBit_setBit (k : Nat) (value : Bool) :
    (b.setBit k value).storedBit i = if i = k then value else b.storedBit i := by
  cases b with
  | short h word =>
    rw [storage_short h] at stored
    exact getMsbD_setBitShortVersion (by split at stored <;> omega)
  | regular h data => exact bit_setBitRegularVersion data k i value

theorem storedBit_setBitRange (start range : Nat) (value : Bool) :
    (b.setBitRange start range value).storedBit i =
      if start ≤ i ∧ i < start + range then value else b.storedBit i := by
  cases b with
  | short h word =>
    rw [storage_short h] at stored
    exact getMsbD_setBitRangeShortVersion (by split at stored <;> omega)
  | regular h data => exact bit_setBitRangeRegularVersion data start range i value

theorem storedBit_flipBits : b.flipBits.storedBit i = (!b.storedBit i && decide (i < n)) := by
  have nonempty := nonempty_of_storage stored
  rw [flipBits, if_neg nonempty]
  cases b with
  | short h word =>
    rw [storage_short h, if_neg nonempty] at stored
    have flipped : (flipLimitedBits word n).getMsbD i = _ :=
      getMsbD_flipLimitedBits stored (le_shortWidth h)
    simpa only [update, storedBit, nonempty, false_or] using flipped
  | regular h data =>
    rw [storage_regular h] at stored
    exact bit_flipBitsRegularVersion data (by omega)

/-- Words combined bit by bit. -/
theorem storedBit_updateWith (other : BitVector e n) (onBits : Bool → Bool → Bool)
    {onShort : BitVec (shortWidth n) → BitVec (shortWidth n) → BitVec (shortWidth n)}
    {combine : BitVec 64 → BitVec 64 → BitVec 64}
    (short : ∀ word otherWord, (onShort word otherWord).getMsbD i =
      onBits (word.getMsbD i) (otherWord.getMsbD i))
    (regular : ∀ word otherWord k, (combine word otherWord).getMsbD k =
      onBits (word.getMsbD k) (otherWord.getMsbD k)) :
    (b.updateWith other onShort (combineWords combine (dataArraySize n))).storedBit i =
      onBits (b.storedBit i) (other.storedBit i) := by
  cases b with
  | short h word =>
    cases other with
    | short h' otherWord => exact short word otherWord
    | regular h' otherData => exact absurd h h'
  | regular h data =>
    cases other with
    | short h' otherWord => exact absurd h' h
    | regular h' otherData =>
      rw [storage_regular h] at stored
      simp only [updateWith, storedBit, WordMemory.bit]
      rw [combineWords_apply, if_pos (by omega), regular]

theorem storedBit_intersectWith (other : BitVector e n) :
    (b.intersectWith other).storedBit i = (b.storedBit i && other.storedBit i) := by
  have nonempty := nonempty_of_storage stored
  apply storedBit_updateWith stored other (· && ·)
  · simp [nonempty]
  · simp

theorem storedBit_unionWith (other : BitVector e n) :
    (b.unionWith other).storedBit i = (b.storedBit i || other.storedBit i) := by
  have nonempty := nonempty_of_storage stored
  apply storedBit_updateWith stored other (· || ·)
  · simp [nonempty]
  · simp

end StoredBits

theorem storedBit_setBitWord (b : BitVector e n) {wordId : Nat} (bound : wordId < dataArraySize n)
    (regular : ¬ ShortVersion e n) (value : BitVec 64) (i : Nat) :
    (b.setBitWord wordId value).storedBit i =
      if i / 64 = wordId then value.getMsbD (i % 64) && decide (i < n) else b.storedBit i := by
  cases b with
  | short h word => exact absurd h regular
  | regular h data => exact bit_setBitWordRegularVersion data bound value i

/-- Without short versions every vector is regular. -/
theorem not_shortVersion_false (n : Nat) : ¬ ShortVersion false n := fun h => Bool.false_ne_true h.1

theorem storedBit_assignFromLonger {m : Nat} (b : BitVector false n) (other : BitVector false m)
    {i : Nat} (stored : i < 8 * bytesNeeded false n) :
    (b.assignFromLonger other).storedBit i = (other.storedBit i && decide (i < n)) := by
  cases b with
  | short h word => exact absurd h (not_shortVersion_false n)
  | regular h data =>
    cases other with
    | short h' otherWord => exact absurd h' (not_shortVersion_false m)
    | regular h' otherData =>
      rw [storage_regular h] at stored
      exact bit_assignFromLongerRegularVersion data otherData (by omega)

/-- And-not over the words both vectors have. -/
theorem storedBit_unsetFrom {m : Nat} (b : BitVector false n) (other : BitVector false m) {i : Nat}
    (stored : i < 8 * bytesNeeded false n) :
    (b.unsetFrom other).storedBit i =
      (b.storedBit i && !(decide (i < 8 * bytesNeeded false m) && other.storedBit i)) := by
  cases b with
  | short h word => exact absurd h (not_shortVersion_false n)
  | regular h data =>
    cases other with
    | short h' otherWord => exact absurd h' (not_shortVersion_false m)
    | regular h' otherData =>
      rw [storage_regular h] at stored
      have lower : i % 64 < 64 := Nat.mod_lt i (by omega)
      have limit : i / 64 < min (dataArraySize n) (dataArraySize m) ↔ i < 64 * dataArraySize m := by
        omega
      simp only [unsetFrom, update, dataArray, storedBit, unsetFromRegularVersion, WordMemory.bit,
        storage_regular h']
      rw [combineWords_apply]
      simp only [limit]
      by_cases shared : i < 64 * dataArraySize m
      · rw [if_pos shared, BitVec.getMsbD_and, BitVec.getMsbD_not]
        simp [lower, shared]
      · rw [if_neg shared]
        simp [shared]

end BitVector

end Quickstep.Utility
