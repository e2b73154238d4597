import Quickstep.Utility.BitVectorPadding

/-!
# Tail shifts

Where every bit of a shifted vector comes from, word by word in the regular version. The forward
shift moves the tail as it should. The backward shift leaves a whole word behind when a tail that
starts on a word boundary moves by more than a word, but not by whole words.
-/

namespace Quickstep.Utility
open Quickstep.Lib

/-! ## Words and bits -/

section Words

/-- Two neighbouring words, shifted as one towards their front. -/
theorem getMsbD_shiftLeft_or {x y : BitVec 64} {s j : Nat} (pos : 0 < s) (bound : s < 64)
    (inside : j < 64) :
    ((x <<< s) ||| (y >>> (64 - s))).getMsbD j =
      if j + s < 64 then x.getMsbD (j + s) else y.getMsbD (j + s - 64) := by
  simp only [BitVec.getMsbD_or, BitVec.getMsbD_shiftLeft, BitVec.getMsbD_ushiftRight]
  split
  · have before : j < 64 - s := by omega
    simp [before, inside, Nat.add_comm]
  · have past : x.getMsbD (j + s) = false := BitVec.getMsbD_of_ge _ _ (by omega)
    have after : ¬ j < 64 - s := by omega
    have rest : j - (64 - s) = j + s - 64 := by omega
    simp [after, inside, rest, past]

/-- Two neighbouring words, shifted as one towards their end. -/
theorem getMsbD_ushiftRight_or {x y : BitVec 64} {s j : Nat} (pos : 0 < s) (bound : s < 64)
    (inside : j < 64) :
    ((x >>> s) ||| (y <<< (64 - s))).getMsbD j =
      if s ≤ j then x.getMsbD (j - s) else y.getMsbD (j + 64 - s) := by
  simp only [BitVec.getMsbD_or, BitVec.getMsbD_shiftLeft, BitVec.getMsbD_ushiftRight]
  split
  · rename_i behind
    have past : y.getMsbD (j + (64 - s)) = false := BitVec.getMsbD_of_ge _ _ (by omega)
    have notBefore : ¬ j < s := by omega
    simp [past, notBefore, inside]
  · rename_i before
    have place : j + (64 - s) = j + 64 - s := by omega
    have isBefore : j < s := by omega
    simp [place, isBefore]

/-- A word without its head. -/
theorem getMsbD_shiftLeft_ushiftRight {x : BitVec 64} {s j : Nat} (inside : j < 64) :
    ((x <<< s) >>> s).getMsbD j = (decide (s ≤ j) && x.getMsbD j) := by
  rw [BitVec.getMsbD_ushiftRight, BitVec.getMsbD_shiftLeft]
  by_cases head : s ≤ j
  · have notBefore : ¬ j < s := by omega
    simp [head, notBefore, inside]
  · have before : j < s := by omega
    simp [head, before]

end Words

/-! ## The forward shift of the regular version -/

section Forward

variable {size : Nat}

/-- The loop over the whole words of a forward shift reads only what it has not written yet. -/
theorem forwardLoop_apply (data : WordMemory 64) {dest src lower : Nat} (behind : dest ≤ src)
    (rounds p : Nat) :
    forUpTo rounds (fun k data => WordMemory.write data (dest + k)
        ((data (src + k) <<< lower) ||| (data (src + k + 1) >>> (64 - lower)))) data p =
      if dest ≤ p ∧ p < dest + rounds then
        (data (src + (p - dest)) <<< lower) ||| (data (src + (p - dest) + 1) >>> (64 - lower))
      else data p := by
  let Inv (k : Nat) (s : WordMemory 64) : Prop := ∀ p, s p =
    if dest ≤ p ∧ p < dest + k then
      (data (src + (p - dest)) <<< lower) ||| (data (src + (p - dest) + 1) >>> (64 - lower))
    else data p
  have run : Inv rounds (forUpTo rounds (fun k data => WordMemory.write data (dest + k)
      ((data (src + k) <<< lower) ||| (data (src + k + 1) >>> (64 - lower)))) data) := by
    refine forUpTo_invariant _ Inv (fun p => by rw [if_neg (by omega)]) ?_
    intro k s _ inv p
    by_cases here : p = dest + k
    · subst here
      rw [WordMemory.write_same, inv, inv, if_neg (by omega), if_neg (by omega),
        if_pos (by omega), Nat.add_sub_cancel_left]
    · rw [WordMemory.write_other here, inv]
      congr 1
      apply propext
      omega
  exact run p

/-- The words that a forward shift moves, and the zeros behind them. -/
theorem shiftWholeWords_apply {c : ShiftCursor} (behind : c.destElement ≤ c.srcElement)
    (inside : c.srcLowerBits ≠ 0 → c.srcElement < size) {p : Nat} (stored : p < size) :
    shiftWholeWords size c p =
      if p < c.destElement then c.data p
      else if p + (c.srcElement - c.destElement) < size then
        let q := p + (c.srcElement - c.destElement)
        if c.srcLowerBits = 0 then c.data q
        else if q + 1 < size then
          (c.data q <<< c.srcLowerBits) ||| (c.data (q + 1) >>> (64 - c.srcLowerBits))
        else c.data q <<< c.srcLowerBits
      else 0#64 := by
  simp only [shiftWholeWords]
  by_cases zeroed : c.destElement + (size - c.srcElement) ≤ p
  · rw [WordMemory.memset_inside zeroed (by omega), if_neg (by omega), if_neg (by omega)]
  · rw [WordMemory.memset, if_neg (by omega)]
    by_cases unaligned : c.srcLowerBits ≠ 0
    · have bound := inside unaligned
      rw [if_pos unaligned]
      by_cases last : p = c.destElement + (size - c.srcElement - 1)
      · have final : c.srcElement + (size - c.srcElement - 1) = size - 1 := by omega
        have place : p + (c.srcElement - c.destElement) = size - 1 := by omega
        rw [← last, WordMemory.write_same, forwardLoop_apply _ behind, if_neg (by omega), final,
          if_neg (by omega), place]
        simp only [if_neg unaligned]
        rw [if_pos (by omega), if_neg (by omega)]
      · rw [WordMemory.write_other last, forwardLoop_apply _ behind]
        by_cases before : p < c.destElement
        · rw [if_neg (by omega), if_pos before]
        · have place : c.srcElement + (p - c.destElement) = p + (c.srcElement - c.destElement) := by
            omega
          rw [if_pos (by omega), if_neg before, if_pos (by omega), place]
          simp only [if_neg unaligned]
          rw [if_pos (by omega)]
    · have aligned : c.srcLowerBits = 0 := by omega
      rw [if_neg unaligned]
      simp only [if_pos aligned]
      by_cases before : p < c.destElement
      · rw [if_pos before, WordMemory.memmove_outside (.inl before)]
      · have place : c.srcElement + (p - c.destElement) = p + (c.srcElement - c.destElement) := by
          omega
        rw [if_neg before, if_pos (by omega), WordMemory.memmove_inside (by omega) (by omega), place]

/-- In bits: what lies a distance behind moves in, and zeros from the end. -/
theorem bit_shiftWholeWords {c : ShiftCursor} {distance : Nat} (behind : c.destElement ≤ c.srcElement)
    (bound : c.srcLowerBits < 64) (inside : c.srcLowerBits ≠ 0 → c.srcElement < size)
    (aligned : 64 * c.srcElement + c.srcLowerBits = 64 * c.destElement + distance) {i : Nat}
    (stored : i < 64 * size) :
    (shiftWholeWords size c).bit i =
      if i < 64 * c.destElement then c.data.bit i
      else decide (i + distance < 64 * size) && c.data.bit (i + distance) := by
  have lower : i % 64 < 64 := Nat.mod_lt i (by omega)
  have inWords : i / 64 < size := by omega
  have word := shiftWholeWords_apply behind inside inWords
  rw [WordMemory.bit, word]
  by_cases before : i < 64 * c.destElement
  · rw [if_pos (by omega), if_pos before, WordMemory.bit]
  · rw [if_neg (by omega), if_neg before]
    generalize moved : i / 64 + (c.srcElement - c.destElement) = q
    by_cases empty : q < size
    · rw [if_pos empty]
      simp only
      by_cases whole : c.srcLowerBits = 0
      · have past : i + distance < 64 * size := by omega
        have source : c.data.bit (i + distance) = (c.data q).getMsbD (i % 64) :=
          WordMemory.bit_at (by omega) lower
        rw [if_pos whole, source, decide_eq_true past, Bool.true_and]
      · rw [if_neg whole]
        by_cases next : i % 64 + c.srcLowerBits < 64
        · have past : i + distance < 64 * size := by omega
          have source : c.data.bit (i + distance) = (c.data q).getMsbD (i % 64 + c.srcLowerBits) :=
            WordMemory.bit_at (by omega) next
          rw [source, decide_eq_true past, Bool.true_and]
          split
          · rw [getMsbD_shiftLeft_or (by omega) bound lower, if_pos next]
          · simp [Nat.add_comm]
        · split
          · have past : i + distance < 64 * size := by omega
            have source : c.data.bit (i + distance) =
                (c.data (q + 1)).getMsbD (i % 64 + c.srcLowerBits - 64) :=
              WordMemory.bit_at (by omega) (by omega)
            rw [getMsbD_shiftLeft_or (by omega) bound lower, if_neg next, source,
              decide_eq_true past, Bool.true_and]
          · have past : ¬ i + distance < 64 * size := by omega
            rw [BitVec.getMsbD_shiftLeft, BitVec.getMsbD_of_ge _ _ (by omega),
              decide_eq_false past, Bool.false_and]
    · have past : ¬ i + distance < 64 * size := by omega
      rw [if_neg empty, BitVec.getMsbD_zero, decide_eq_false past, Bool.false_and]

/-- Bit `i` of a memory of `size` words whose tail from `start` on has moved forward. -/
def movedForward (size : Nat) (data : WordMemory 64) (start distance i : Nat) : Bool :=
  if i < start then data.bit i
  else decide (i + distance < 64 * size) && data.bit (i + distance)

/-- The first word keeps its head and gets what it can of the source word. -/
theorem getMsbD_firstWord {head source : BitVec 64} {destLower srcLower j : Nat} (inside : j < 64) :
    ((head &&& maskBitRange 64 0 destLower) ||| ((source <<< srcLower) >>> destLower)).getMsbD j =
      if j < destLower then head.getMsbD j else source.getMsbD (j - destLower + srcLower) := by
  rw [BitVec.getMsbD_or, BitVec.getMsbD_and, getMsbD_maskBitRange, BitVec.getMsbD_ushiftRight,
    BitVec.getMsbD_shiftLeft]
  by_cases head : j < destLower
  · simp [head, inside]
  · simp [head, inside]

/-- Where the whole words begin, after a partial first word: everything before is in place and
nothing behind has changed. -/
structure FirstWordFilled (size : Nat) (data : WordMemory 64) (dest start distance : Nat)
    (c : ShiftCursor) : Prop where
  destElement : c.destElement = dest + 1
  behind : c.destElement ≤ c.srcElement
  bound : c.srcLowerBits < 64
  inside : c.srcLowerBits ≠ 0 → c.srcElement < size
  aligned : 64 * c.srcElement + c.srcLowerBits = 64 * c.destElement + distance
  filled : ∀ i, i < 64 * (dest + 1) → c.data.bit i = movedForward size data start distance i
  unchanged : ∀ i, 64 * (dest + 1) ≤ i → c.data.bit i = data.bit i

theorem bit_fillFirstWord {data : WordMemory 64} {dest destLower src srcLower distance : Nat}
    (someHead : 0 < destLower) (destBound : destLower < 64) (srcBound : srcLower < 64)
    (aligned : 64 * src + srcLower = 64 * dest + destLower + distance) (inside : src < size) :
    match fillFirstWord size data dest destLower src srcLower with
    | .inl shifted => ∀ i, i < 64 * size →
        shifted.bit i = movedForward size data (64 * dest + destLower) distance i
    | .inr c => FirstWordFilled size data dest (64 * dest + destLower) distance c := by
  generalize isFirst : data.write dest ((data dest &&& maskBitRange 64 0 destLower)
    ||| ((data src <<< srcLower) >>> destLower)) = first
  have behindFirst (p : Nat) (other : p ≠ dest) : first p = data p := by
    rw [← isFirst, WordMemory.write_other other]
  have before (i : Nat) (head : i < 64 * dest + destLower) : first.bit i = data.bit i := by
    by_cases word : i / 64 = dest
    · rw [← isFirst, WordMemory.bit_write, if_pos word, getMsbD_firstWord (by omega),
        if_pos (by omega), WordMemory.bit, word]
    · exact WordMemory.bit_congr (behindFirst _ word)
  have fromSource (i : Nat) (word : i / 64 = dest) (tail : 64 * dest + destLower ≤ i) :
      first.bit i = (data src).getMsbD (i % 64 - destLower + srcLower) := by
    rw [← isFirst, WordMemory.bit_write, if_pos word, getMsbD_firstWord (by omega),
      if_neg (by omega)]
  simp only [fillFirstWord, isFirst]
  by_cases crossing : destLower < srcLower
  · -- The rest of the first word comes from two source words.
    rw [if_pos crossing]
    by_cases ends : src + 1 = size
    · rw [if_pos ends]
      intro i stored
      unfold movedForward
      by_cases head : i < 64 * dest + destLower
      · have notZeroed : ¬ (dest + 1 ≤ i / 64 ∧ i / 64 < dest + 1 + (size - (dest + 1))) := by omega
        rw [if_pos head, ← before i head]
        exact WordMemory.bit_congr (if_neg notZeroed)
      · rw [if_neg head]
        by_cases word : i / 64 = dest
        · have notZeroed : ¬ (dest + 1 ≤ i / 64 ∧ i / 64 < dest + 1 + (size - (dest + 1))) := by
            omega
          refine (WordMemory.bit_congr (if_neg notZeroed)).trans ?_
          rw [fromSource i word (by omega)]
          by_cases past : i + distance < 64 * size
          · have source : data.bit (i + distance) =
                (data src).getMsbD (i % 64 - destLower + srcLower) :=
              WordMemory.bit_at (by omega) (by omega)
            rw [decide_eq_true past, Bool.true_and, source]
          · rw [decide_eq_false past, Bool.false_and]
            exact BitVec.getMsbD_of_ge _ _ (by omega)
        · have past : ¬ i + distance < 64 * size := by omega
          rw [WordMemory.bit, WordMemory.memset_inside (by omega) (by omega), BitVec.getMsbD_zero,
            decide_eq_false past, Bool.false_and]
    · rw [if_neg ends]
      have rest : destLower + (64 - srcLower) < 64 := by omega
      refine ⟨rfl, by simp only; omega, by simp only; omega, fun _ => by simp only; omega,
        by simp only; omega, ?_, ?_⟩
      · intro i upTo
        unfold movedForward
        simp only [WordMemory.bit_write]
        by_cases word : i / 64 = dest
        · have own : (first dest).getMsbD (i % 64) = first.bit i := by
            rw [WordMemory.bit, word]
          rw [if_pos word, BitVec.getMsbD_or, BitVec.getMsbD_ushiftRight, own,
            behindFirst _ (by omega)]
          by_cases head : i < 64 * dest + destLower
          · have notYet : i % 64 < destLower + (64 - srcLower) := by omega
            rw [if_pos head, before i head]
            simp [notYet]
          · have past : i + distance < 64 * size := by omega
            rw [if_neg head, fromSource i word (by omega), decide_eq_true past, Bool.true_and]
            by_cases own : i % 64 < destLower + (64 - srcLower)
            · have source : data.bit (i + distance) =
                  (data src).getMsbD (i % 64 - destLower + srcLower) :=
                WordMemory.bit_at (by omega) (by omega)
              rw [source]
              simp [own]
            · have source : data.bit (i + distance) =
                  (data (src + 1)).getMsbD (i % 64 - (destLower + (64 - srcLower))) :=
                WordMemory.bit_at (by omega) (by omega)
              have notOwn : (data src).getMsbD (i % 64 - destLower + srcLower) = false :=
                BitVec.getMsbD_of_ge _ _ (by omega)
              have inWord : i % 64 < 64 := by omega
              rw [source, notOwn]
              simp [own, inWord]
        · have head : i < 64 * dest + destLower := by omega
          rw [if_neg word, if_pos head, before i head]
      · intro i behind
        have other : i / 64 ≠ dest := by omega
        simp only [WordMemory.bit_write]
        rw [if_neg other]
        exact WordMemory.bit_congr (behindFirst _ other)
  · rw [if_neg crossing]
    refine ⟨rfl, by simp only; omega, by simp only; omega, fun _ => by simp only at *; omega,
      by simp only; omega, ?_, ?_⟩
    · intro i upTo
      unfold movedForward
      by_cases head : i < 64 * dest + destLower
      · rw [if_pos head]
        exact before i head
      · have past : i + distance < 64 * size := by omega
        have source : data.bit (i + distance) =
            (data src).getMsbD (i % 64 - destLower + srcLower) :=
          WordMemory.bit_at (by omega) (by omega)
        rw [if_neg head, decide_eq_true past, Bool.true_and, source]
        exact fromSource i (by omega) (by omega)
    · intro i behind
      exact WordMemory.bit_congr (behindFirst _ (by omega))

/-- **The forward shift** of the regular version, bit by bit. -/
theorem bit_shiftTailForwardRegularVersion {n tailStart shiftDistance : Nat} {data : WordMemory 64}
    (checked : tailStart < n) (sum : tailStart + shiftDistance < 2 ^ 64) {i : Nat}
    (stored : i < 64 * dataArraySize n) :
    (shiftTailForwardRegularVersion n data tailStart shiftDistance).bit i =
      movedForward (dataArraySize n) data tailStart shiftDistance i := by
  have size := dataArraySize_bounds n
  simp only [shiftTailForwardRegularVersion, Nat.mod_eq_of_lt sum]
  by_cases still : shiftDistance = 0
  · rw [if_pos still]
    subst still
    unfold movedForward
    rw [Nat.add_zero, decide_eq_true stored, Bool.true_and, ite_self]
  rw [if_neg still]
  by_cases past : (tailStart + shiftDistance) / 64 ≥ dataArraySize n
  · -- The whole tail moves out.
    have noSource : tailStart ≤ i → ¬ i + shiftDistance < 64 * dataArraySize n := by omega
    rw [if_pos past]
    unfold movedForward
    by_cases someHead : tailStart % 64 ≠ 0
    · rw [if_pos someHead]
      by_cases zeroed : tailStart / 64 + 1 ≤ i / 64
      · have tail : ¬ i < tailStart := by omega
        rw [WordMemory.bit, WordMemory.memset_inside zeroed (by omega), BitVec.getMsbD_zero,
          if_neg tail, decide_eq_false (noSource (by omega)), Bool.false_and]
      · refine (WordMemory.bit_congr (if_neg (by omega))).trans ?_
        rw [WordMemory.bit_write, BitVec.getMsbD_and, getMsbD_maskBitRange]
        by_cases head : i < tailStart
        · rw [if_pos head]
          split
          · rename_i word
            have kept : i % 64 < 64 ∧ 0 ≤ i % 64 ∧ i % 64 < 0 + tailStart % 64 := by omega
            rw [decide_eq_true kept, Bool.and_true, WordMemory.bit, word]
          · rfl
        · have cleared : ¬ (i % 64 < 64 ∧ 0 ≤ i % 64 ∧ i % 64 < 0 + tailStart % 64) := by omega
          rw [if_neg head, if_pos (by omega), decide_eq_false cleared,
            decide_eq_false (noSource (by omega)), Bool.and_false, Bool.false_and]
    · rw [if_neg someHead]
      by_cases zeroed : tailStart / 64 ≤ i / 64
      · have tail : ¬ i < tailStart := by omega
        rw [WordMemory.bit, WordMemory.memset_inside zeroed (by omega), BitVec.getMsbD_zero,
          if_neg tail, decide_eq_false (noSource (by omega)), Bool.false_and]
      · refine (WordMemory.bit_congr (if_neg (by omega))).trans ?_
        rw [if_pos (by omega)]
  · rw [if_neg past]
    by_cases someHead : tailStart % 64 ≠ 0
    · have start : 64 * (tailStart / 64) + tailStart % 64 = tailStart := Nat.div_add_mod _ _
      have first := @bit_fillFirstWord (dataArraySize n) data (tailStart / 64) (tailStart % 64)
        ((tailStart + shiftDistance) / 64) ((tailStart + shiftDistance) % 64) shiftDistance
        (Nat.pos_of_ne_zero someHead) (Nat.mod_lt _ (by omega)) (Nat.mod_lt _ (by omega))
        (by omega) (Nat.lt_of_not_ge past)
      rw [start] at first
      rw [if_pos someHead]
      split
      · rename_i shifted early
        rw [early] at first
        exact first i stored
      · rename_i c filled
        rw [filled] at first
        rw [bit_shiftWholeWords first.behind first.bound first.inside first.aligned stored,
          first.destElement]
        by_cases inFirst : i < 64 * (tailStart / 64 + 1)
        · rw [if_pos inFirst]
          exact first.filled i inFirst
        · have tail : ¬ i < tailStart := by omega
          rw [if_neg inFirst, first.unchanged _ (by omega)]
          exact (if_neg tail).symm
    · have start : 64 * (tailStart / 64) = tailStart := by omega
      have behind : tailStart / 64 ≤ (tailStart + shiftDistance) / 64 :=
        Nat.div_le_div_right (by omega)
      rw [if_neg someHead]
      have shifted := @bit_shiftWholeWords (dataArraySize n)
        ⟨data, tailStart / 64, (tailStart + shiftDistance) / 64,
          (tailStart + shiftDistance) % 64⟩ shiftDistance behind
        (Nat.mod_lt _ (by omega)) (fun _ => Nat.lt_of_not_ge past) (by simp only; omega) i stored
      rw [shifted]
      simp only [start]
      rfl

end Forward

/-! ## The backward shift of the regular version -/

section Backward

variable {size : Nat}

/-- Bit `i` of a memory whose tail from `start` on has moved backward. -/
def movedBackward (data : WordMemory 64) (start distance i : Nat) : Bool :=
  if i < start then data.bit i
  else decide (start + distance ≤ i) && data.bit (i - distance)

/-- The loop over the whole words of a backward shift goes from the last word to the front, and
reads only what it has not written yet. -/
theorem backwardLoop_apply (data : WordMemory 64) {shiftElements lower rounds : Nat}
    (fits : rounds + shiftElements < size) (p : Nat) :
    forUpTo rounds (fun k data => WordMemory.write data (size - 1 - k)
        ((data (size - 1 - k - shiftElements) >>> lower)
          ||| (data (size - 1 - k - shiftElements - 1) <<< (64 - lower)))) data p =
      if size - rounds ≤ p ∧ p < size then
        (data (p - shiftElements) >>> lower) ||| (data (p - shiftElements - 1) <<< (64 - lower))
      else data p := by
  let Inv (k : Nat) (s : WordMemory 64) : Prop := ∀ p, s p =
    if size - k ≤ p ∧ p < size then
      (data (p - shiftElements) >>> lower) ||| (data (p - shiftElements - 1) <<< (64 - lower))
    else data p
  have run : Inv rounds (forUpTo rounds (fun k data => WordMemory.write data (size - 1 - k)
      ((data (size - 1 - k - shiftElements) >>> lower)
        ||| (data (size - 1 - k - shiftElements - 1) <<< (64 - lower)))) data) := by
    refine forUpTo_invariant _ Inv (fun p => by rw [if_neg (by omega)]) ?_
    intro k s early inv p
    by_cases here : p = size - 1 - k
    · subst here
      rw [WordMemory.write_same, inv, inv, if_neg (by omega), if_neg (by omega), if_pos (by omega)]
    · rw [WordMemory.write_other here, inv]
      congr 1
      apply propext
      omega
  exact run p

/-- The words of a backward shift by a distance that is not a multiple of the word size. -/
theorem shiftBackwardUnaligned_apply (data : WordMemory 64) {start startLower elements lower : Nat}
    (fits : start + elements < size) {p : Nat} (stored : p < size) :
    shiftBackwardUnaligned size data start startLower elements lower p =
      if p < start then data p
      else if p = start then
        if elements ≠ 0 then
          if startLower ≠ 0 then data start &&& ~~~(maskBitRange 64 startLower 64) else data start
        else if startLower ≠ 0 then
          (data start &&& maskBitRange 64 0 startLower)
            ||| ((data start &&& maskBitRange 64 startLower 64) >>> lower)
        else data start >>> lower
      else if p < start + elements then 0#64
      else if p = start + elements then
        ((data start <<< startLower) >>> startLower) >>> lower
      else if p = start + elements + 1 then
        (data (start + 1) >>> lower)
          ||| (((data start <<< startLower) >>> startLower) <<< (64 - lower))
      else (data (p - elements) >>> lower) ||| (data (p - elements - 1) <<< (64 - lower)) := by
  simp only [shiftBackwardUnaligned]
  have looped := @backwardLoop_apply size data elements lower (size - 1 - (start + elements + 1))
    (by omega)
  generalize forUpTo _ _ data = afterLoop at looped ⊢
  have untouched (q : Nat) (before : q ≤ start + elements + 1) : afterLoop q = data q := by
    rw [looped, if_neg (by omega)]
  rw [untouched (start + 1) (by omega)]
  generalize isNext : (if start + elements + 1 < size then afterLoop.write (start + elements + 1)
    ((data (start + 1) >>> lower) |||
      (((data start <<< startLower) >>> startLower) <<< (64 - lower))) else afterLoop) = afterNext
  have front (q : Nat) (before : q ≤ start + elements) : afterNext q = data q := by
    rw [← isNext]
    split
    · rw [WordMemory.write_other (by omega), untouched q (by omega)]
    · exact untouched q (by omega)
  -- The words behind the first moved one are not written again.
  have tail (behind : start + elements < p) : afterNext p =
      if p = start + elements + 1 then
        (data (start + 1) >>> lower)
          ||| (((data start <<< startLower) >>> startLower) <<< (64 - lower))
      else (data (p - elements) >>> lower) ||| (data (p - elements - 1) <<< (64 - lower)) := by
    rw [← isNext, if_pos (by omega)]
    by_cases next : p = start + elements + 1
    · rw [if_pos next, next, WordMemory.write_same]
    · rw [if_neg next, WordMemory.write_other next, looped, if_pos (by omega)]
  by_cases far : elements ≠ 0
  · rw [if_pos far]
    simp only [if_pos far]
    generalize isMoved : afterNext.write (start + elements)
      (((data start <<< startLower) >>> startLower) >>> lower) = moved
    have movedFirst : moved start = data start := by
      rw [← isMoved, WordMemory.write_other (by omega), front _ (by omega)]
    generalize isCleared : (if startLower ≠ 0 then
      setMasked moved start (maskBitRange 64 startLower 64) false else moved) = cleared
    have clearedOther (q : Nat) (other : q ≠ start) : cleared q = moved q := by
      rw [← isCleared]
      split
      · exact WordMemory.write_other other
      · rfl
    by_cases zeroed : start + 1 ≤ p ∧ p < start + elements
    · rw [WordMemory.memset_inside zeroed.1 (by omega), if_neg (by omega), if_neg (by omega),
        if_pos zeroed.2]
    · rw [WordMemory.memset, if_neg (by omega)]
      by_cases first : p = start
      · subst first
        rw [if_neg (by omega), if_pos rfl, ← isCleared]
        split
        · rw [setMasked, WordMemory.write_same, movedFirst]
          rfl
        · exact movedFirst
      · rw [clearedOther p first, ← isMoved, if_neg first]
        by_cases target : p = start + elements
        · rw [target, WordMemory.write_same, if_neg (by omega), if_neg (by omega), if_pos rfl]
        · rw [WordMemory.write_other target]
          by_cases before : p < start
          · rw [if_pos before, front p (by omega)]
          · rw [if_neg before, if_neg (by omega), if_neg target, tail (by omega)]
  · have near : elements = 0 := by omega
    subst near
    simp only [if_neg far]
    rw [front start (by omega)]
    by_cases first : p = start
    · subst first
      rw [if_neg (Nat.lt_irrefl p), if_pos rfl]
      split
      · rw [WordMemory.write_same]
      · rw [WordMemory.write_same]
    · have other : (if startLower ≠ 0 then afterNext.write start
          ((data start &&& maskBitRange 64 0 startLower)
            ||| ((data start &&& maskBitRange 64 startLower 64) >>> lower))
          else afterNext.write start (data start >>> lower)) p = afterNext p := by
        split
        · exact WordMemory.write_other first
        · exact WordMemory.write_other first
      rw [other]
      by_cases before : p < start
      · rw [if_pos before, front p (by omega)]
      · have notEmpty : ¬ p < start + 0 := by omega
        have notTarget : p ≠ start + 0 := by omega
        rw [if_neg before, if_neg first, if_neg notEmpty, if_neg notTarget, tail (by omega)]

/-- **The unaligned backward shift**, bit by bit: over more than a word, from a word boundary, it
leaves the first word as it was. -/
theorem bit_shiftBackwardUnaligned {data : WordMemory 64} {start startLower elements lower : Nat}
    (startBound : startLower < 64) (pos : 0 < lower) (bound : lower < 64)
    (fits : start + elements < size) {i : Nat} (stored : i < 64 * size) :
    (shiftBackwardUnaligned size data start startLower elements lower).bit i =
      if elements ≠ 0 ∧ startLower = 0 ∧ i / 64 = start then data.bit i
      else movedBackward data (64 * start + startLower) (64 * elements + lower) i := by
  have inWord : i % 64 < 64 := Nat.mod_lt i (by omega)
  rw [WordMemory.bit, shiftBackwardUnaligned_apply data fits (by omega)]
  unfold movedBackward
  by_cases before : i / 64 < start
  · have head : i < 64 * start + startLower := by omega
    rw [if_pos before, if_neg (by omega), if_pos head, WordMemory.bit]
  rw [if_neg before]
  by_cases first : i / 64 = start
  · -- The first word keeps its head.
    rw [if_pos first]
    have own : data.bit i = (data start).getMsbD (i % 64) := by rw [WordMemory.bit, first]
    by_cases far : elements ≠ 0
    · rw [if_pos far]
      by_cases someHead : startLower ≠ 0
      · have regular : ¬ (elements ≠ 0 ∧ startLower = 0 ∧ i / 64 = start) := by omega
        rw [if_pos someHead, if_neg regular, BitVec.getMsbD_and, BitVec.getMsbD_not,
          getMsbD_maskBitRange, own]
        by_cases head : i < 64 * start + startLower
        · have kept : ¬ (i % 64 < 64 ∧ startLower ≤ i % 64 ∧ i % 64 < startLower + 64) := by omega
          rw [if_pos head, decide_eq_false kept]
          simp [inWord]
        · have cleared : i % 64 < 64 ∧ startLower ≤ i % 64 ∧ i % 64 < startLower + 64 := by omega
          have near : ¬ 64 * start + startLower + (64 * elements + lower) ≤ i := by omega
          rw [if_neg head, decide_eq_true cleared, decide_eq_false near]
          simp
      · rw [if_neg someHead, if_pos ⟨far, by omega, first⟩, own]
    · have regular : ¬ (elements ≠ 0 ∧ startLower = 0 ∧ i / 64 = start) := fun left => far left.1
      rw [if_neg far, if_neg regular]
      by_cases someHead : startLower ≠ 0
      · rw [if_pos someHead, BitVec.getMsbD_or, BitVec.getMsbD_and, getMsbD_maskBitRange,
          BitVec.getMsbD_ushiftRight, BitVec.getMsbD_and, getMsbD_maskBitRange]
        by_cases head : i < 64 * start + startLower
        · have isHead : i % 64 < startLower := by omega
          have noTail : ¬ startLower ≤ i % 64 - lower := by omega
          rw [if_pos head, own]
          simp [isHead, noTail, inWord]
        · have noHead : ¬ i % 64 < startLower := by omega
          rw [if_neg head]
          by_cases moved : 64 * start + startLower + (64 * elements + lower) ≤ i
          · have source : data.bit (i - (64 * elements + lower)) =
                (data start).getMsbD (i % 64 - lower) := WordMemory.bit_at (by omega) (by omega)
            have inTail : startLower ≤ i % 64 - lower := by omega
            have notBefore : ¬ i % 64 < lower := by omega
            have inRange : i % 64 - lower < 64 := by omega
            have inMask : i % 64 - lower < startLower + 64 := by omega
            rw [source, decide_eq_true moved]
            simp [noHead, inTail, notBefore, inRange, inMask, inWord]
          · have noTail : i % 64 < lower ∨ ¬ startLower ≤ i % 64 - lower := by omega
            rw [decide_eq_false moved]
            rcases noTail with early | early
            · simp [noHead, early]
            · simp [noHead, early]
      · have noHead : ¬ i < 64 * start + startLower := by omega
        rw [if_neg someHead, if_neg noHead, BitVec.getMsbD_ushiftRight]
        by_cases moved : 64 * start + startLower + (64 * elements + lower) ≤ i
        · have source : data.bit (i - (64 * elements + lower)) =
              (data start).getMsbD (i % 64 - lower) := WordMemory.bit_at (by omega) (by omega)
          have notBefore : ¬ i % 64 < lower := by omega
          rw [source, decide_eq_true moved]
          simp [notBefore, inWord]
        · have isBefore : i % 64 < lower := by omega
          rw [decide_eq_false moved]
          simp [isBefore]
  have noHead : ¬ i < 64 * start + startLower := by omega
  have regular : ¬ (elements ≠ 0 ∧ startLower = 0 ∧ i / 64 = start) := fun left => first left.2.2
  rw [if_neg first, if_neg regular, if_neg noHead]
  by_cases empty : i / 64 < start + elements
  · have near : ¬ 64 * start + startLower + (64 * elements + lower) ≤ i := by omega
    rw [if_pos empty, BitVec.getMsbD_zero, decide_eq_false near, Bool.false_and]
  rw [if_neg empty]
  by_cases target : i / 64 = start + elements
  · rw [if_pos target, BitVec.getMsbD_ushiftRight]
    by_cases early : i % 64 < lower
    · have near : ¬ 64 * start + startLower + (64 * elements + lower) ≤ i := by omega
      rw [decide_eq_false near]
      simp [early]
    · have source : data.bit (i - (64 * elements + lower)) =
          (data start).getMsbD (i % 64 - lower) := WordMemory.bit_at (by omega) (by omega)
      have same : decide (64 * start + startLower + (64 * elements + lower) ≤ i) =
          decide (startLower ≤ i % 64 - lower) := decide_eq_decide.mpr (by omega)
      rw [getMsbD_shiftLeft_ushiftRight (by omega), source, same]
      simp [early, inWord]
  rw [if_neg target]
  by_cases next : i / 64 = start + elements + 1
  · rw [if_pos next, getMsbD_ushiftRight_or pos bound inWord]
    split
    · have source : data.bit (i - (64 * elements + lower)) =
          (data (start + 1)).getMsbD (i % 64 - lower) := WordMemory.bit_at (by omega) (by omega)
      have moved : 64 * start + startLower + (64 * elements + lower) ≤ i := by omega
      rw [source, decide_eq_true moved, Bool.true_and]
    · have source : data.bit (i - (64 * elements + lower)) =
          (data start).getMsbD (i % 64 + 64 - lower) := WordMemory.bit_at (by omega) (by omega)
      have same : decide (64 * start + startLower + (64 * elements + lower) ≤ i) =
          decide (startLower ≤ i % 64 + 64 - lower) := decide_eq_decide.mpr (by omega)
      rw [getMsbD_shiftLeft_ushiftRight (by omega), source, same]
  · have moved : 64 * start + startLower + (64 * elements + lower) ≤ i := by omega
    rw [if_neg next, getMsbD_ushiftRight_or pos bound inWord, decide_eq_true moved, Bool.true_and]
    split
    · exact (WordMemory.bit_at (by omega) (by omega)).symm
    · exact (WordMemory.bit_at (by omega) (by omega)).symm

/-- **The aligned backward shift**, bit by bit. -/
theorem bit_shiftBackwardAligned {data : WordMemory 64} {start startLower elements : Nat}
    (startBound : startLower < 64) (pos : 0 < elements)
    (fits : 64 * (start + elements) + startLower ≤ 64 * size) {i : Nat} (stored : i < 64 * size) :
    (shiftBackwardAligned size data start startLower elements).bit i =
      movedBackward data (64 * start + startLower) (64 * elements) i := by
  have inWord : i % 64 < 64 := Nat.mod_lt i (by omega)
  simp only [shiftBackwardAligned]
  generalize isMoved : data.memmove (start + elements) start (size - start - elements) = moved
  have front (q : Nat) (before : q < start + elements) : moved q = data q := by
    rw [← isMoved, WordMemory.memmove_outside (.inl before)]
  have behind (q : Nat) (after : start + elements ≤ q) (inside : q < size) :
      moved q = data (q - elements) := by
    have source : start + (q - (start + elements)) = q - elements := by omega
    rw [← isMoved, WordMemory.memmove_inside after (by omega), source]
  have movedBit (after : start + elements ≤ i / 64) :
      moved.bit i = data.bit (i - 64 * elements) := by
    rw [WordMemory.bit, behind _ after (by omega)]
    exact (WordMemory.bit_at (by omega) inWord).symm
  unfold movedBackward
  by_cases someHead : startLower ≠ 0
  · rw [if_pos someHead]
    by_cases zeroed : start + 1 ≤ i / 64 ∧ i / 64 < start + elements
    · have noHead : ¬ i < 64 * start + startLower := by omega
      have near : ¬ 64 * start + startLower + 64 * elements ≤ i := by omega
      rw [WordMemory.bit, WordMemory.memset_inside zeroed.1 (by omega), BitVec.getMsbD_zero,
        if_neg noHead, decide_eq_false near, Bool.false_and]
    · refine (WordMemory.bit_congr (if_neg (by omega))).trans ?_
      have notStart : start + elements ≠ start := by omega
      rw [WordMemory.bit_write, WordMemory.write_other notStart]
      by_cases target : i / 64 = start + elements
      · have noHead : ¬ i < 64 * start + startLower := by omega
        have own : (moved (start + elements)).getMsbD (i % 64) = data.bit (i - 64 * elements) := by
          rw [← movedBit (by omega), WordMemory.bit, target]
        have same : decide (i % 64 < 64 ∧ startLower ≤ i % 64 ∧ i % 64 < startLower + 64) =
            decide (64 * start + startLower + 64 * elements ≤ i) := decide_eq_decide.mpr (by omega)
        rw [if_pos target, if_neg noHead, BitVec.getMsbD_and, own, getMsbD_maskBitRange, same,
          Bool.and_comm]
      · rw [if_neg target, WordMemory.bit_write]
        by_cases first : i / 64 = start
        · have near : ¬ 64 * start + startLower + 64 * elements ≤ i := by omega
          have own : (moved start).getMsbD (i % 64) = data.bit i := by
            rw [front start (by omega), WordMemory.bit, first]
          rw [if_pos first, BitVec.getMsbD_and, own, getMsbD_maskBitRange, decide_eq_false near]
          by_cases head : i < 64 * start + startLower
          · have kept : i % 64 < 64 ∧ 0 ≤ i % 64 ∧ i % 64 < 0 + startLower := by omega
            rw [if_pos head, decide_eq_true kept, Bool.and_true]
          · have cleared : ¬ (i % 64 < 64 ∧ 0 ≤ i % 64 ∧ i % 64 < 0 + startLower) := by omega
            rw [if_neg head, decide_eq_false cleared, Bool.and_false, Bool.false_and]
        · rw [if_neg first]
          by_cases before : i / 64 < start
          · have head : i < 64 * start + startLower := by omega
            rw [if_pos head]
            exact WordMemory.bit_congr (front _ (by omega))
          · have noHead : ¬ i < 64 * start + startLower := by omega
            have far : 64 * start + startLower + 64 * elements ≤ i := by omega
            rw [if_neg noHead, decide_eq_true far, Bool.true_and, movedBit (by omega)]
  · rw [if_neg someHead]
    by_cases zeroed : start ≤ i / 64 ∧ i / 64 < start + elements
    · have noHead : ¬ i < 64 * start + startLower := by omega
      have near : ¬ 64 * start + startLower + 64 * elements ≤ i := by omega
      rw [WordMemory.bit, WordMemory.memset_inside zeroed.1 zeroed.2, BitVec.getMsbD_zero,
        if_neg noHead, decide_eq_false near, Bool.false_and]
    · refine (WordMemory.bit_congr (if_neg zeroed)).trans ?_
      by_cases before : i / 64 < start
      · have head : i < 64 * start + startLower := by omega
        rw [if_pos head]
        exact WordMemory.bit_congr (front _ (by omega))
      · have noHead : ¬ i < 64 * start + startLower := by omega
        have far : 64 * start + startLower + 64 * elements ≤ i := by omega
        rw [if_neg noHead, decide_eq_true far, Bool.true_and, movedBit (by omega)]

/-- **The backward shift** of the regular version, bit by bit. -/
theorem bit_shiftTailBackwardRegularVersion {n tailStart shiftDistance : Nat} {data : WordMemory 64}
    (fits : n < 2 ^ 64) (pos : 1 ≤ shiftDistance) (sum : tailStart + shiftDistance ≤ n) {i : Nat}
    (inside : i < n) :
    (shiftTailBackwardRegularVersion n data tailStart shiftDistance).bit i =
      if 64 < shiftDistance ∧ shiftDistance % 64 ≠ 0 ∧ tailStart % 64 = 0 ∧ i / 64 = tailStart / 64
      then data.bit i else movedBackward data tailStart shiftDistance i := by
  have size := dataArraySize_bounds n
  have start : 64 * (tailStart / 64) + tailStart % 64 = tailStart := Nat.div_add_mod _ _
  have distance : 64 * (shiftDistance / 64) + shiftDistance % 64 = shiftDistance :=
    Nat.div_add_mod _ _
  have someShift : shiftDistance ≠ 0 := by omega
  have noOverflow : ¬ (tailStart + shiftDistance) % 2 ^ 64 > n := by
    rw [Nat.mod_eq_of_lt (by omega)]
    omega
  simp only [shiftTailBackwardRegularVersion]
  rw [if_neg someShift, if_neg noOverflow, bit_maskLastWord, decide_eq_true inside, Bool.and_true,
    ite_self]
  by_cases unaligned : shiftDistance % 64 ≠ 0
  · rw [if_pos unaligned, bit_shiftBackwardUnaligned (Nat.mod_lt _ (by omega))
      (Nat.pos_of_ne_zero unaligned) (Nat.mod_lt _ (by omega)) (by omega) (by omega), start, distance]
    congr 1
    apply propext
    omega
  · have aligned : 64 * (shiftDistance / 64) = shiftDistance := by omega
    rw [if_neg unaligned, if_neg (fun left => unaligned left.2.1),
      bit_shiftBackwardAligned (Nat.mod_lt _ (by omega)) (by omega) (by omega) (by omega), start,
      aligned]

end Backward

/-! ## The member functions -/

/-- The counts of the shifts in `MaskBitRange`. -/
def maskBitRangeShifts (w startBitNum rangeNumBits : Nat) : List Nat :=
  let rangeNumBits := if rangeNumBits > w then w else rangeNumBits
  if rangeNumBits ≠ 0 then [w - rangeNumBits, startBitNum] else []

def shiftTailForwardShifts (w tailStart shiftDistance : Nat) : List Nat :=
  maskBitRangeShifts w 0 tailStart ++ maskBitRangeShifts w (tailStart + shiftDistance) w ++
    [shiftDistance]

def shiftTailBackwardShifts (w tailStart shiftDistance : Nat) : List Nat :=
  maskBitRangeShifts w 0 tailStart ++ maskBitRangeShifts w tailStart w ++ [shiftDistance]

namespace BitVector

variable {e : Bool} {n : Nat}

/-- What the two tail shifts are for. A shift of the short version is undefined unless its count is
smaller than the width of the promoted word. -/
structure ShiftsTail (b : BitVector e n) (tailStart distance : Nat) : Prop where
  defined : ShortVersion e n →
    ∀ count ∈ shiftTailForwardShifts (shortWidth n) tailStart distance ++
      shiftTailBackwardShifts (shortWidth n) tailStart distance, count < 32
  forward : ∀ i, i < n → (b.shiftTailForward tailStart distance).getBit i =
    if i < tailStart then b.getBit i else decide (i + distance < n) && b.getBit (i + distance)
  backward : ∀ i, i < n → (b.shiftTailBackward tailStart distance).getBit i =
    if i < tailStart then b.getBit i
    else decide (tailStart + distance ≤ i) && b.getBit (i - distance)
  forwardPadding : (b.shiftTailForward tailStart distance).PaddingZero
  backwardPadding : (b.shiftTailBackward tailStart distance).PaddingZero

/-- When the shifts do this. In the short version no shift count may reach 32 and no set bit of the
tail may move back into the padding. In the regular version a tail that starts with a word may not
move back by more than a word, except by whole words or when that word is zero. -/
def ShiftsCleanly (b : BitVector e n) (tailStart distance : Nat) : Prop :=
  (ShortVersion e n → tailStart + distance < 32 ∧
    ∀ i, tailStart ≤ i → i < n → b.getBit i = true → i + distance < n ∨ shortWidth n ≤ i + distance) ∧
  (64 < distance → distance % 64 ≠ 0 → tailStart % 64 = 0 →
    ∀ i, tailStart ≤ i → i < tailStart + 64 → b.getBit i = false)

section Shifts

variable {b : BitVector e n} {tailStart distance : Nat}

theorem shiftCounts_lt_iff (short : ShortVersion e n) (checked : tailStart < n)
    (sum : tailStart + distance ≤ n) :
    (∀ count ∈ shiftTailForwardShifts (shortWidth n) tailStart distance ++
      shiftTailBackwardShifts (shortWidth n) tailStart distance, count < 32) ↔
      tailStart + distance < 32 := by
  have bound := short.2
  have width := le_shortWidth short
  have upTo : shortWidth n ≤ 32 := by
    unfold shortWidth
    split
    · omega
    · split <;> omega
  have whole : ¬ shortWidth n > shortWidth n := Nat.lt_irrefl _
  have nonzero : shortWidth n ≠ 0 := by omega
  have noCut : ¬ tailStart > shortWidth n := by omega
  unfold shiftTailForwardShifts shiftTailBackwardShifts maskBitRangeShifts
  simp only [if_neg whole, if_pos nonzero, if_neg noCut]
  constructor
  · intro defined
    exact defined (tailStart + distance) (by simp)
  · intro small count isCount
    by_cases noHead : tailStart = 0
    · simp [noHead] at isCount
      omega
    · simp [noHead] at isCount
      omega

/-- **The forward shift** moves every bit of the tail, in both versions. -/
theorem getBit_shiftTailForward (clean : b.PaddingZero) (checked : tailStart < n)
    (sum : tailStart + distance < 2 ^ 64) {i : Nat} (inside : i < n) :
    (b.shiftTailForward tailStart distance).getBit i =
      if i < tailStart then b.getBit i
      else decide (i + distance < n) && b.getBit (i + distance) := by
  cases b with
  | short h word =>
    have width := le_shortWidth h
    have shifted := getMsbD_shiftTailForwardShortVersion word tailStart distance i (by omega)
    rw [getBit_eq, getBit_eq, getBit_eq]
    refine shifted.trans ?_
    split
    · rfl
    · by_cases past : i + distance < n
      · rw [decide_eq_true past, Bool.true_and]
        rfl
      · rw [decide_eq_false past, Bool.false_and]
        by_cases inWord : i + distance < shortWidth n
        · refine clean (i + distance) (by omega) ?_
          rw [storage_short h, if_neg (by omega)]
          exact inWord
        · exact BitVec.getMsbD_of_ge _ _ (by omega)
  | regular h data =>
    have size := dataArraySize_bounds n
    have shifted := @bit_shiftTailForwardRegularVersion n tailStart distance data checked sum i
      (by omega)
    rw [getBit_eq, getBit_eq, getBit_eq]
    refine shifted.trans ?_
    unfold movedForward
    split
    · rfl
    · by_cases past : i + distance < n
      · have stored : i + distance < 64 * dataArraySize n := by omega
        rw [decide_eq_true past, decide_eq_true stored]
        rfl
      · rw [decide_eq_false past, Bool.false_and]
        by_cases stored : i + distance < 64 * dataArraySize n
        · have zero : data.bit (i + distance) = false := by
            refine clean (i + distance) (by omega) ?_
            rw [storage_regular h]
            exact stored
          rw [zero, Bool.and_false]
        · rw [decide_eq_false stored, Bool.false_and]

/-- **The backward shift** moves every bit of the tail, in both versions, except that a word may
stay behind. -/
theorem getBit_shiftTailBackward (fits : n < 2 ^ 64) (pos : 1 ≤ distance)
    (sum : tailStart + distance ≤ n) {i : Nat} (inside : i < n) :
    (b.shiftTailBackward tailStart distance).getBit i =
      if 64 < distance ∧ distance % 64 ≠ 0 ∧ tailStart % 64 = 0 ∧ i / 64 = tailStart / 64
      then b.getBit i
      else if i < tailStart then b.getBit i
      else decide (tailStart + distance ≤ i) && b.getBit (i - distance) := by
  rw [getBit_eq, getBit_eq, getBit_eq]
  cases b with
  | short h word =>
    have width := le_shortWidth h
    have bound := h.2
    have shifted := getMsbD_shiftTailBackwardShortVersion word tailStart distance i (by omega)
    refine shifted.trans ?_
    rw [if_neg (by omega)]
    by_cases head : i < tailStart
    · have near : ¬ tailStart + distance ≤ i := by omega
      rw [if_pos head, decide_eq_true head, decide_eq_false near, Bool.true_and, Bool.false_and,
        Bool.or_false]
      rfl
    · rw [if_neg head, decide_eq_false head, Bool.false_and, Bool.false_or]
      rfl
  | regular h data => exact bit_shiftTailBackwardRegularVersion fits pos sum inside

theorem paddingZero_shiftTailBackward_iff (clean : b.PaddingZero) (checked : tailStart < n) :
    (b.shiftTailBackward tailStart distance).PaddingZero ↔
      (ShortVersion e n → ∀ i, tailStart ≤ i → i < n → b.getBit i = true →
        i + distance < n ∨ shortWidth n ≤ i + distance) := by
  by_cases short : ShortVersion e n
  · rw [paddingZero_shiftTailBackward_short clean checked short]
    exact (imp_iff_right short).symm
  · refine iff_of_true ?_ fun isShort => absurd isShort short
    cases b with
    | short h word => exact absurd h short
    | regular h data =>
      refine paddingZero_regular.mpr (.inl (shiftTailBackward_padsLast ?_ (by omega)))
      exact (paddingZero_regular.mp clean).resolve_right (by omega)

/-- **The tail shifts** do what they are for exactly under the condition, and the short and the
regular version shift the same list of bits alike. -/
theorem shiftsTail_iff (clean : b.PaddingZero) (fits : n < 2 ^ 64) (checked : tailStart < n)
    (pos : 1 ≤ distance) (sum : tailStart + distance ≤ n) :
    (b.ShiftsTail tailStart distance ↔ b.ShiftsCleanly tailStart distance) ∧
    ∀ e' (other : BitVector e' n), other.PaddingZero → other.toList = b.toList →
      (other.shiftTailForward tailStart distance).toList =
        (b.shiftTailForward tailStart distance).toList ∧
      (other.shiftTailBackward tailStart distance).toList =
        (b.shiftTailBackward tailStart distance).toList := by
  have forward {i : Nat} (inside : i < n) := @getBit_shiftTailForward e n b tailStart distance clean
    checked (by omega) i inside
  have backward {i : Nat} (inside : i < n) := getBit_shiftTailBackward (b := b) fits pos sum inside
  constructor
  · constructor
    · rintro ⟨defined, _, moved, _, padding⟩
      refine ⟨fun short => ⟨(shiftCounts_lt_iff short checked sum).mp (defined short),
        (paddingZero_shiftTailBackward_iff clean checked).mp padding short⟩, ?_⟩
      intro far unaligned onWord i lower upper
      have inside : i < n := by omega
      have stays := backward inside
      rw [if_pos ⟨far, unaligned, onWord, by omega⟩, moved i inside, if_neg (by omega),
        decide_eq_false (by omega), Bool.false_and] at stays
      exact stays.symm
    · rintro ⟨shortVersion, empty⟩
      refine ⟨fun short => (shiftCounts_lt_iff short checked sum).mpr (shortVersion short).1,
        fun i inside => forward inside, ?_, paddingZero_shiftTailForward clean checked (by omega),
        (paddingZero_shiftTailBackward_iff clean checked).mpr fun short => (shortVersion short).2⟩
      intro i inside
      rw [backward inside]
      split
      · rename_i left
        rw [if_neg (by omega), decide_eq_false (by omega), Bool.false_and]
        exact empty left.1 left.2.1 left.2.2.1 i (by omega) (by omega)
      · rfl
  · intro e' other otherClean same
    have sameBit {i : Nat} (inside : i < n) : other.getBit i = b.getBit i :=
      List.map_inj_left.mp same i (List.mem_range.mpr inside)
    constructor
    · refine List.map_inj_left.mpr fun i isPosition => ?_
      have inside := List.mem_range.mp isPosition
      rw [forward inside, getBit_shiftTailForward otherClean checked (by omega) inside]
      split
      · exact sameBit inside
      · by_cases past : i + distance < n
        · rw [sameBit past]
        · rw [decide_eq_false past, Bool.false_and, Bool.false_and]
    · refine List.map_inj_left.mpr fun i isPosition => ?_
      have inside := List.mem_range.mp isPosition
      rw [backward inside, getBit_shiftTailBackward fits pos sum inside]
      split
      · exact sameBit inside
      · split
        · exact sameBit inside
        · rw [sameBit (by omega)]

end Shifts

/-- Four bits of which the second is set move back by one. -/
theorem shiftsTail_iff_fourBits : (fourBits.setBit 1 true).ShiftsTail 0 1 := by
  have bits : ∀ i, i < 8 → (fourBits.setBit 1 true).storedBit i = decide (i = 1) := by decide
  have exact := shiftsTail_iff (fourBits_setBit_paddingZero (by decide : 1 < 4)) (by decide)
    (by decide : 0 < 4) (by decide : 1 ≤ 1) (by decide)
  refine exact.1.mpr ⟨fun _ => ⟨by decide, ?_⟩, fun far => absurd far (by decide)⟩
  intro i _ inside set
  rw [getBit_eq, bits i (by omega), decide_eq_true_eq] at set
  exact .inl (by omega)

/-- Sixty-six bits of the regular version. -/
def sixtySixBits : BitVector false 66 := .regular (by decide) fun _ => 0

/-- The backward shift of the short version sets a bit of the padding. That of the regular version
leaves the first word as it was when sixty-six bits move by sixty-five. -/
theorem not_shiftsTail :
    (¬ ∀ (b : BitVector true 4) (tailStart distance : Nat), b.PaddingZero → tailStart < 4 →
      1 ≤ distance → tailStart + distance ≤ 4 → b.ShiftsTail tailStart distance) ∧
    ¬ ∀ (b : BitVector false 66) (tailStart distance : Nat), b.PaddingZero → tailStart < 66 →
      1 ≤ distance → tailStart + distance ≤ 66 → b.ShiftsTail tailStart distance := by
  constructor
  · intro always
    have shifted := always (fourBits.setBit 3 true) 0 1 (fourBits_setBit_paddingZero (by decide))
      (by decide) (by decide) (by decide)
    have set : ((fourBits.setBit 3 true).shiftTailBackward 0 1).storedBit 4 = true := by decide
    rw [shifted.backwardPadding 4 (by decide) (by decide)] at set
    cases set
  · intro always
    have clean : (sixtySixBits.setBit 0 true).PaddingZero := by
      intro i past stored
      rw [storedBit_setBit stored, if_neg (by omega)]
      exact BitVec.getMsbD_zero
    have shifted := always (sixtySixBits.setBit 0 true) 0 65 clean (by decide) (by decide) (by decide)
    have stays : ((sixtySixBits.setBit 0 true).shiftTailBackward 0 65).getBit 0 = true := by decide
    rw [shifted.backward 0 (by decide)] at stays
    revert stays
    decide

end BitVector

end Quickstep.Utility
