import Quickstep.Utility.BitManipulation
import Quickstep.Utility.BitVectorPadding

/-!
# Searching a BitVector

The searches scan word by word for a bit that is set, in the words or in their complements. The
padding of a complement is ones, so a search for a zero ends at the length when there is none.
-/

namespace Quickstep.Utility
open Quickstep.Lib

/-! ## The short version -/

section Short

variable {w : Nat}

def firstOneShortVersion (word : BitVec w) (numBits position : Nat) : Nat :=
  let value := word &&& (BitVec.allOnes w >>> position)
  if value ≠ 0#w then leadingZeroCount value else numBits

def firstZeroShortVersion (word : BitVec w) (numBits position : Nat) : Nat :=
  let value := word ||| (if position ≠ 0 then BitVec.allOnes w <<< (w - position) else 0#w)
  let value := ~~~value
  if value ≠ 0#w then leadingZeroCount value else numBits

def lastOneShortVersion (word : BitVec w) (numBits position : Nat) : Nat :=
  let value := word &&& (BitVec.allOnes w <<< (w - position))
  if value ≠ 0#w then w - 1 - trailingZeroCount value else numBits

def lastZeroShortVersion (word : BitVec w) (numBits position : Nat) : Nat :=
  let value := ~~~(word ||| ~~~(BitVec.allOnes w <<< (w - position)))
  if value ≠ 0#w then w - 1 - trailingZeroCount value else numBits

end Short

/-! ## The regular version -/

section Regular

variable (numBits : Nat) (data : WordMemory 64)

/-- The loop of the forward searches, over `rounds` words from `arrayIdx` on. -/
def scanForward : Nat → Nat → Nat
  | 0, _ => numBits
  | rounds + 1, arrayIdx =>
    if data arrayIdx ≠ 0#64 then (arrayIdx <<< 6) ||| leadingZeroCount (data arrayIdx)
    else scanForward rounds (arrayIdx + 1)

/-- The loop of the backward searches and the check of the first word after it. -/
def scanBackward : Nat → Nat
  | 0 => if data 0 ≠ 0#64 then (1 <<< 6) - trailingZeroCount (data 0) - 1 else numBits
  | arrayIdx + 1 =>
    if data (arrayIdx + 1) ≠ 0#64 then
      ((arrayIdx + 1 + 1) <<< 6) - trailingZeroCount (data (arrayIdx + 1)) - 1
    else scanBackward arrayIdx

def firstOneRegularVersion (position : Nat) : Nat :=
  let size := dataArraySize numBits
  if position % 64 ≠ 0 then
    let value := data (position / 64) &&& (BitVec.allOnes 64 >>> (position % 64))
    if value ≠ 0#64 then 64 * (position / 64) ||| leadingZeroCount value
    else
      let position := 64 * (position / 64) + 64
      scanForward numBits data (size - position / 64) (position / 64)
  else scanForward numBits data (size - position / 64) (position / 64)

def firstZeroRegularVersion (position : Nat) : Nat :=
  let size := dataArraySize numBits
  if position % 64 ≠ 0 then
    let value := ~~~(data (position / 64) ||| (BitVec.allOnes 64 <<< (64 - position % 64)))
    if value ≠ 0#64 then 64 * (position / 64) ||| leadingZeroCount value
    else
      let position := 64 * (position / 64) + 64
      scanForward numBits (fun arrayIdx => ~~~data arrayIdx) (size - position / 64) (position / 64)
  else scanForward numBits (fun arrayIdx => ~~~data arrayIdx) (size - position / 64) (position / 64)

def lastOneRegularVersion (position : Nat) : Nat :=
  let arrayIdx := (position - 1) / 64
  if position % 64 ≠ 0 then
    let value := data arrayIdx &&& (BitVec.allOnes 64 <<< (64 - position % 64))
    if value ≠ 0#64 then ((arrayIdx + 1) <<< 6) - trailingZeroCount value - 1
    else if arrayIdx ≠ 0 then scanBackward numBits data (arrayIdx - 1)
    else numBits
  else scanBackward numBits data arrayIdx

def lastZeroRegularVersion (position : Nat) : Nat :=
  let arrayIdx := (position - 1) / 64
  if position % 64 ≠ 0 then
    let value := ~~~(data arrayIdx ||| ~~~(BitVec.allOnes 64 <<< (64 - position % 64)))
    if value ≠ 0#64 then ((arrayIdx + 1) <<< 6) - trailingZeroCount value - 1
    else if arrayIdx ≠ 0 then scanBackward numBits (fun arrayIdx => ~~~data arrayIdx) (arrayIdx - 1)
    else numBits
  else scanBackward numBits (fun arrayIdx => ~~~data arrayIdx) arrayIdx

end Regular

/-! ## The member functions -/

namespace BitVector

variable {e : Bool} {n : Nat}

def onesCount : BitVector e n → Nat
  | short _ word => if n = 0 then 0 else populationCount word
  | regular _ data =>
    forUpTo (dataArraySize n) (fun position count => count + populationCount (data position)) 0

def firstOne (b : BitVector e n) (position : Nat) : Nat :=
  if n = 0 then 0
  else
    match b with
    | short _ word => firstOneShortVersion word n position
    | regular _ data => firstOneRegularVersion n data position

def firstZero (b : BitVector e n) (position : Nat) : Nat :=
  if n = 0 then 0
  else
    match b with
    | short _ word => firstZeroShortVersion word n position
    | regular _ data => firstZeroRegularVersion n data position

/-- `std::numeric_limits<std::size_t>::max()`, the position that stands for the length. -/
def maxPosition : Nat := 2 ^ 64 - 1

def lastOne (b : BitVector e n) (position : Nat) : Nat :=
  let position := if position = maxPosition then n else position
  if position = 0 then n
  else
    match b with
    | short _ word => lastOneShortVersion word n position
    | regular _ data => lastOneRegularVersion n data position

def lastZero (b : BitVector e n) (position : Nat) : Nat :=
  let position := if position = maxPosition then n else position
  if position = 0 then n
  else
    match b with
    | short _ word => lastZeroShortVersion word n position
    | regular _ data => lastZeroRegularVersion n data position

end BitVector

/-! ## Scanning words -/

section Scans

/-- A position in a word next to the index of the word. -/
theorem mul_or_of_lt {q j : Nat} (inside : j < 64) : 64 * q ||| j = 64 * q + j := by
  have split : 2 ^ 6 * q + j = 2 ^ 6 * q ||| j := Nat.two_pow_add_eq_or_of_lt inside q
  exact split.symm

theorem shiftLeft_or_of_lt {q j : Nat} (inside : j < 64) : (q <<< 6) ||| j = 64 * q + j := by
  rw [Nat.shiftLeft_eq, Nat.mul_comm]
  exact mul_or_of_lt inside

theorem shiftLeft_sub_of_lt {q k : Nat} (inside : k < 64) :
    ((q + 1) <<< 6) - k - 1 = 64 * q + (64 - 1 - k) := by
  rw [Nat.shiftLeft_eq]
  omega

variable {numBits : Nat} {data : WordMemory 64}

theorem bit_of_zero {i : Nat} (zero : ¬ data (i / 64) ≠ 0#64) : data.bit i = false := by
  rw [WordMemory.bit]
  exact getMsbD_eq_false_of_zero zero _

theorem scanForward_firstAt {rounds arrayIdx : Nat} :
    FirstAt data.bit (64 * arrayIdx) (64 * (arrayIdx + rounds)) numBits
      (scanForward numBits data rounds arrayIdx) := by
  induction rounds generalizing arrayIdx with
  | zero => exact .inr ⟨rfl, fun i lower upper => by omega⟩
  | succ rounds ih =>
    unfold scanForward
    split
    · rename_i nonzero
      obtain ⟨bound, _, _⟩ := leadingZeroCount_spec nonzero
      rw [shiftLeft_or_of_lt bound]
      refine firstAt_of_ne_zero (fun j inside => ?_) (by omega) (by omega) nonzero
      have here : 64 * arrayIdx ≤ 64 * arrayIdx + j := by omega
      rw [decide_eq_true here, Bool.true_and]
      exact (WordMemory.bit_at rfl inside).symm
    · rename_i zero
      have rest := @ih (arrayIdx + 1)
      rw [Nat.add_right_comm] at rest
      refine rest.extend (by omega) fun i lower upper => ?_
      have word : i / 64 = arrayIdx := by omega
      exact bit_of_zero (word ▸ zero)

theorem scanBackward_lastAt {arrayIdx : Nat} :
    LastAt data.bit (64 * (arrayIdx + 1)) numBits (scanBackward numBits data arrayIdx) := by
  have own (q : Nat) (nonzero : data q ≠ 0#64) : LastAt data.bit (64 * (q + 1)) numBits
      (((q + 1) <<< 6) - trailingZeroCount (data q) - 1) := by
    rw [shiftLeft_sub_of_lt (trailingZeroCount_spec nonzero).1]
    refine lastAt_of_ne_zero (fun j inside => ?_) (by omega) nonzero
    have here : 64 * q + j < 64 * (q + 1) := by omega
    rw [decide_eq_true here, Bool.true_and]
    exact (WordMemory.bit_at rfl inside).symm
  induction arrayIdx with
  | zero =>
    unfold scanBackward
    split
    · rename_i nonzero
      exact own 0 nonzero
    · rename_i zero
      refine .inr ⟨rfl, fun i upper => ?_⟩
      have word : i / 64 = 0 := by omega
      exact bit_of_zero (word ▸ zero)
  | succ arrayIdx ih =>
    unfold scanBackward
    split
    · rename_i nonzero
      exact own (arrayIdx + 1) nonzero
    · rename_i zero
      refine ih.extend (by omega) fun i lower upper => ?_
      have word : i / 64 = arrayIdx + 1 := by omega
      exact bit_of_zero (word ▸ zero)

/-- A forward search, whose first word is masked unless the search starts with it. -/
theorem searchForward_firstAt {size position : Nat} (inside : position < 64 * size)
    {value : BitVec 64} (masked : ∀ j, j < 64 →
      value.getMsbD j = (decide (position % 64 ≤ j) && (data (position / 64)).getMsbD j)) :
    FirstAt data.bit position (64 * size) numBits
      (if position % 64 ≠ 0 then
        if value ≠ 0#64 then 64 * (position / 64) ||| leadingZeroCount value
        else scanForward numBits data (size - (64 * (position / 64) + 64) / 64)
          ((64 * (position / 64) + 64) / 64)
      else scanForward numBits data (size - position / 64) (position / 64)) := by
  have same : ∀ j, j < 64 → value.getMsbD j =
      (decide (position ≤ 64 * (position / 64) + j) && data.bit (64 * (position / 64) + j)) := by
    intro j inWord
    have order : decide (position ≤ 64 * (position / 64) + j) = decide (position % 64 ≤ j) :=
      decide_eq_decide.mpr (by omega)
    rw [masked j inWord, order, WordMemory.bit_at rfl inWord]
  split
  · split
    · rename_i nonzero
      rw [mul_or_of_lt (leadingZeroCount_spec nonzero).1]
      exact firstAt_of_ne_zero same (by omega) (by omega) nonzero
    · rename_i zero
      have next : (64 * (position / 64) + 64) / 64 = position / 64 + 1 := by omega
      have words : position / 64 + 1 + (size - (position / 64 + 1)) = size := by omega
      have rest := @scanForward_firstAt numBits data (size - (position / 64 + 1)) (position / 64 + 1)
      rw [words] at rest
      rw [next]
      refine rest.extend (by omega) fun i lower upper => ?_
      exact eq_false_of_zero same zero (by omega) (by omega) lower
  · have start : 64 * (position / 64) = position := by omega
    have words : position / 64 + (size - position / 64) = size := by omega
    have scan := @scanForward_firstAt numBits data (size - position / 64) (position / 64)
    rw [start, words] at scan
    exact scan

/-- A backward search, whose last word is masked unless the search ends with it. -/
theorem searchBackward_lastAt {position : Nat} (pos : position ≠ 0) {value : BitVec 64}
    (masked : ∀ j, j < 64 → value.getMsbD j =
      (decide (j < position % 64) && (data ((position - 1) / 64)).getMsbD j)) :
    LastAt data.bit position numBits
      (if position % 64 ≠ 0 then
        if value ≠ 0#64 then (((position - 1) / 64 + 1) <<< 6) - trailingZeroCount value - 1
        else if (position - 1) / 64 ≠ 0 then scanBackward numBits data ((position - 1) / 64 - 1)
        else numBits
      else scanBackward numBits data ((position - 1) / 64)) := by
  split
  · rename_i someRest
    have same : ∀ j, j < 64 → value.getMsbD j =
        (decide (64 * ((position - 1) / 64) + j < position) &&
          data.bit (64 * ((position - 1) / 64) + j)) := by
      intro j inWord
      have order : decide (64 * ((position - 1) / 64) + j < position) = decide (j < position % 64) :=
        decide_eq_decide.mpr (by omega)
      rw [masked j inWord, order, WordMemory.bit_at rfl inWord]
    split
    · rename_i nonzero
      rw [shiftLeft_sub_of_lt (trailingZeroCount_spec nonzero).1]
      exact lastAt_of_ne_zero same (by omega) nonzero
    · rename_i zero
      have empty (i : Nat) (lower : 64 * ((position - 1) / 64) ≤ i) (upper : i < position) :
          data.bit i = false :=
        @eq_false_of_zero 64 value data.bit _ (fun k => k < position) _ same zero i lower (by omega)
          upper
      split
      · have scan := @scanBackward_lastAt numBits data ((position - 1) / 64 - 1)
        exact scan.extend (by omega) fun i lower upper => empty i (by omega) upper
      · exact .inr ⟨rfl, fun i upper => empty i (by omega) upper⟩
  · have stop : 64 * ((position - 1) / 64 + 1) = position := by omega
    have scan := @scanBackward_lastAt numBits data ((position - 1) / 64)
    rw [stop] at scan
    exact scan

end Scans

/-! ## The searches of a word -/

section Short

variable {w : Nat} {numBits position : Nat}

theorem shortForward_firstAt {value : BitVec w} {holds : Nat → Bool}
    (masked : ∀ j, j < w → value.getMsbD j = (decide (position ≤ j) && holds j)) :
    FirstAt holds position w numBits
      (if value ≠ 0#w then leadingZeroCount value else numBits) := by
  have same : ∀ j, j < w → value.getMsbD j = (decide (position ≤ 0 + j) && holds (0 + j)) := by
    intro j inside
    rw [Nat.zero_add]
    exact masked j inside
  split
  · rename_i nonzero
    rw [← Nat.zero_add (leadingZeroCount value)]
    exact firstAt_of_ne_zero same (Nat.zero_le _) (by omega) nonzero
  · rename_i zero
    exact .inr ⟨rfl, fun i lower upper => eq_false_of_zero same zero (Nat.zero_le _) (by omega) lower⟩

theorem shortBackward_lastAt {value : BitVec w} {holds : Nat → Bool} (inside : position ≤ w)
    (masked : ∀ j, j < w → value.getMsbD j = (decide (j < position) && holds j)) :
    LastAt holds position numBits
      (if value ≠ 0#w then w - 1 - trailingZeroCount value else numBits) := by
  have same : ∀ j, j < w → value.getMsbD j = (decide (0 + j < position) && holds (0 + j)) := by
    intro j inside
    rw [Nat.zero_add]
    exact masked j inside
  split
  · rename_i nonzero
    rw [← Nat.zero_add (w - 1 - trailingZeroCount value)]
    exact lastAt_of_ne_zero same (by omega) nonzero
  · rename_i zero
    exact .inr ⟨rfl, fun i upper =>
      @eq_false_of_zero w value holds 0 (fun k => k < position) _ same zero i (Nat.zero_le _)
        (by omega) upper⟩

/-- Ones behind a position, and ones before it. -/
theorem getMsbD_allOnes_ushiftRight {j : Nat} (inside : j < w) :
    (BitVec.allOnes w >>> position).getMsbD j = decide (position ≤ j) := by
  rw [BitVec.getMsbD_ushiftRight, BitVec.getMsbD_allOnes]
  grind

theorem getMsbD_allOnes_shiftLeft {j : Nat} (fits : position ≤ w) :
    (BitVec.allOnes w <<< (w - position)).getMsbD j = decide (j < position) := by
  rw [BitVec.getMsbD_shiftLeft, BitVec.getMsbD_allOnes]
  exact decide_eq_decide.mpr (by omega)

variable (word : BitVec w)

theorem firstOneShortVersion_firstAt :
    FirstAt word.getMsbD position w numBits (firstOneShortVersion word numBits position) := by
  refine shortForward_firstAt fun j inside => ?_
  rw [BitVec.getMsbD_and, getMsbD_allOnes_ushiftRight inside, Bool.and_comm]

theorem firstZeroShortVersion_firstAt (fits : position ≤ w) :
    FirstAt (fun i => !word.getMsbD i) position w numBits
      (firstZeroShortVersion word numBits position) := by
  refine shortForward_firstAt fun j inside => ?_
  have mask : (if position ≠ 0 then BitVec.allOnes w <<< (w - position) else 0#w).getMsbD j =
      decide (j < position) := by
    split
    · exact getMsbD_allOnes_shiftLeft fits
    · rename_i atStart
      rw [BitVec.getMsbD_zero, decide_eq_false (by omega)]
  rw [BitVec.getMsbD_not, BitVec.getMsbD_or, mask, decide_eq_true inside]
  grind

theorem lastOneShortVersion_lastAt (fits : position ≤ w) :
    LastAt word.getMsbD position numBits (lastOneShortVersion word numBits position) := by
  refine shortBackward_lastAt fits fun j inside => ?_
  rw [BitVec.getMsbD_and, getMsbD_allOnes_shiftLeft fits, Bool.and_comm]

theorem lastZeroShortVersion_lastAt (fits : position ≤ w) :
    LastAt (fun i => !word.getMsbD i) position numBits
      (lastZeroShortVersion word numBits position) := by
  refine shortBackward_lastAt fits fun j inside => ?_
  rw [BitVec.getMsbD_not, BitVec.getMsbD_or, BitVec.getMsbD_not, getMsbD_allOnes_shiftLeft fits,
    decide_eq_true inside]
  grind

end Short

/-! ## The searches of an array -/

section Regular

variable {numBits position : Nat} (data : WordMemory 64)

/-- The memory of the complements. -/
theorem bit_complement (i : Nat) : WordMemory.bit (fun q => ~~~data q) i = !data.bit i := by
  have inside : i % 64 < 64 := Nat.mod_lt i (by omega)
  simp [WordMemory.bit, inside]

theorem firstOneRegularVersion_firstAt (inside : position < 64 * dataArraySize numBits) :
    FirstAt data.bit position (64 * dataArraySize numBits) numBits
      (firstOneRegularVersion numBits data position) := by
  refine searchForward_firstAt inside fun j inWord => ?_
  rw [BitVec.getMsbD_and, getMsbD_allOnes_ushiftRight inWord, Bool.and_comm]

theorem firstZeroRegularVersion_firstAt (inside : position < 64 * dataArraySize numBits) :
    FirstAt (fun i => !data.bit i) position (64 * dataArraySize numBits) numBits
      (firstZeroRegularVersion numBits data position) := by
  have search : FirstAt (WordMemory.bit fun q => ~~~data q) position (64 * dataArraySize numBits)
      numBits (firstZeroRegularVersion numBits data position) := by
    refine searchForward_firstAt inside fun j inWord => ?_
    rw [BitVec.getMsbD_not, BitVec.getMsbD_or, getMsbD_allOnes_shiftLeft (by omega),
      BitVec.getMsbD_not]
    grind
  exact search.congr fun i _ => bit_complement data i

theorem lastOneRegularVersion_lastAt (pos : position ≠ 0) :
    LastAt data.bit position numBits (lastOneRegularVersion numBits data position) := by
  refine searchBackward_lastAt pos fun j inWord => ?_
  rw [BitVec.getMsbD_and, getMsbD_allOnes_shiftLeft (by omega), Bool.and_comm]

theorem lastZeroRegularVersion_lastAt (pos : position ≠ 0) :
    LastAt (fun i => !data.bit i) position numBits
      (lastZeroRegularVersion numBits data position) := by
  have search : LastAt (WordMemory.bit fun q => ~~~data q) position numBits
      (lastZeroRegularVersion numBits data position) := by
    refine searchBackward_lastAt pos fun j inWord => ?_
    rw [BitVec.getMsbD_not, BitVec.getMsbD_or, BitVec.getMsbD_not,
      getMsbD_allOnes_shiftLeft (by omega), BitVec.getMsbD_not]
    grind
  exact search.congr fun i _ => bit_complement data i

end Regular

/-! ## The searches of a vector -/

namespace BitVector

variable {e : Bool} {n : Nat} {b : BitVector e n}

/-- The padding restricts a search of the storage to the length. -/
theorem firstOne_firstAt (clean : b.PaddingZero) {start : Nat} (checked : start < n) :
    FirstAt b.getBit start n n (b.firstOne start) := by
  have nonempty : n ≠ 0 := by omega
  have order := Nat.le_of_lt checked
  refine FirstAt.congr ?_ fun i _ => (b.getBit_eq i).symm
  unfold firstOne
  rw [if_neg nonempty]
  cases b with
  | short h word =>
    refine (firstOneShortVersion_firstAt word).restrict order (le_shortWidth h) false
      fun i past stored => ?_
    exact clean i past (by rw [storage_short h, if_neg nonempty]; exact stored)
  | regular h data =>
    have size := dataArraySize_bounds n
    refine (firstOneRegularVersion_firstAt data (by omega)).restrict order size.1 false
      fun i past stored => ?_
    exact clean i past (by rw [storage_regular h]; exact stored)

theorem firstZero_firstAt (clean : b.PaddingZero) {start : Nat} (checked : start < n) :
    FirstAt (fun i => !b.getBit i) start n n (b.firstZero start) := by
  have nonempty : n ≠ 0 := by omega
  have order := Nat.le_of_lt checked
  refine FirstAt.congr ?_ fun i _ => congrArg not (b.getBit_eq i).symm
  unfold firstZero
  rw [if_neg nonempty]
  cases b with
  | short h word =>
    have width := le_shortWidth h
    refine (firstZeroShortVersion_firstAt word (by omega)).restrict order width true
      fun i past stored => congrArg not (clean i past ?_)
    rw [storage_short h, if_neg nonempty]
    exact stored
  | regular h data =>
    have size := dataArraySize_bounds n
    refine (firstZeroRegularVersion_firstAt data (by omega)).restrict order size.1 true
      fun i past stored => congrArg not (clean i past ?_)
    rw [storage_regular h]
    exact stored

theorem lastOne_lastAt {position : Nat} (checked : position ≤ n ∨ position = maxPosition) :
    LastAt b.getBit (if position = maxPosition then n else position) n (b.lastOne position) := by
  generalize isStop : (if position = maxPosition then n else position) = stop
  have inside : stop ≤ n := by
    rw [← isStop]
    split
    · exact Nat.le_refl n
    · omega
  refine LastAt.congr ?_ fun i _ => (b.getBit_eq i).symm
  unfold lastOne
  simp only [isStop]
  split
  · exact .inr ⟨rfl, fun i upper => by omega⟩
  · rename_i pos
    cases b with
    | short h word =>
      have width := le_shortWidth h
      exact lastOneShortVersion_lastAt word (by omega)
    | regular h data => exact lastOneRegularVersion_lastAt data pos

theorem lastZero_lastAt {position : Nat} (checked : position ≤ n ∨ position = maxPosition) :
    LastAt (fun i => !b.getBit i) (if position = maxPosition then n else position) n
      (b.lastZero position) := by
  generalize isStop : (if position = maxPosition then n else position) = stop
  have inside : stop ≤ n := by
    rw [← isStop]
    split
    · exact Nat.le_refl n
    · omega
  refine LastAt.congr ?_ fun i _ => congrArg not (b.getBit_eq i).symm
  unfold lastZero
  simp only [isStop]
  split
  · exact .inr ⟨rfl, fun i upper => by omega⟩
  · rename_i pos
    cases b with
    | short h word =>
      have width := le_shortWidth h
      exact lastZeroShortVersion_lastAt word (by omega)
    | regular h data => exact lastZeroRegularVersion_lastAt data pos

/-- The words of an array have the set bits of all of them. -/
theorem onesCount_regular (data : WordMemory 64) (size : Nat) :
    forUpTo size (fun position count => count + populationCount (data position)) 0 =
      (List.range (64 * size)).countP data.bit := by
  induction size with
  | zero => rfl
  | succ size ih =>
    show forUpTo size _ 0 + populationCount (data size) = _
    rw [ih, Nat.mul_succ, List.range_add, List.countP_append, List.countP_map, populationCount_spec]
    congr 1
    apply List.countP_congr
    intro j isPosition
    rw [Function.comp_apply, WordMemory.bit_at rfl (List.mem_range.mp isPosition)]

/-- Padding adds nothing to a count. -/
theorem countP_storage {holds : Nat → Bool} {storage : Nat} (fits : n ≤ storage)
    (padding : ∀ i, n ≤ i → i < storage → holds i = false) :
    (List.range storage).countP holds = (List.range n).countP holds := by
  obtain ⟨rest, rfl⟩ := Nat.exists_eq_add_of_le fits
  have none : ∀ i ∈ List.range rest, ¬ (holds ∘ fun i => n + i) i = true := by
    intro i isPosition
    have inside := List.mem_range.mp isPosition
    rw [Function.comp_apply, padding (n + i) (by omega) (by omega)]
    decide
  rw [List.range_add, List.countP_append, List.countP_map, List.countP_eq_zero.mpr none, Nat.add_zero]

theorem onesCount_eq (clean : b.PaddingZero) : b.onesCount = b.toList.count true := by
  have stored : b.toList.count true = (List.range n).countP b.storedBit := by
    rw [toList, List.count, List.countP_map]
    apply List.countP_congr
    intro i _
    rw [Function.comp_apply, beq_true, getBit_eq]
  rw [stored]
  cases b with
  | short h word =>
    show (if n = 0 then 0 else populationCount word) = _
    split
    · rename_i empty
      subst empty
      rfl
    · rename_i nonempty
      rw [populationCount_spec]
      refine countP_storage (le_shortWidth h) fun i past inside => clean i past ?_
      rw [storage_short h, if_neg nonempty]
      exact inside
  | regular h data =>
    refine (onesCount_regular data (dataArraySize n)).trans ?_
    refine countP_storage (dataArraySize_bounds n).1 fun i past inside => clean i past ?_
    rw [storage_regular h]
    exact inside

/-- **The searches are exact** for every length and contents with zero padding, in both versions,
and `onesCount` counts the set bits. -/
theorem searches_exact (clean : b.PaddingZero) :
    (∀ start, start < n ∨ start = 0 ∧ n = 0 →
      FirstAt b.getBit start n n (b.firstOne start) ∧
      FirstAt (fun i => !b.getBit i) start n n (b.firstZero start)) ∧
    (∀ position, position ≤ n ∨ position = maxPosition →
      LastAt b.getBit (if position = maxPosition then n else position) n (b.lastOne position) ∧
      LastAt (fun i => !b.getBit i) (if position = maxPosition then n else position) n
        (b.lastZero position)) ∧
    b.onesCount = b.toList.count true := by
  refine ⟨?_, fun position checked => ⟨lastOne_lastAt checked, lastZero_lastAt checked⟩,
    onesCount_eq clean⟩
  rintro start (checked | ⟨rfl, rfl⟩)
  · exact ⟨firstOne_firstAt clean checked, firstZero_firstAt clean checked⟩
  · exact ⟨.inr ⟨if_pos rfl, fun i _ upper => by omega⟩,
      .inr ⟨if_pos rfl, fun i _ upper => by omega⟩⟩

/-- The second of four bits is set. -/
theorem searches_exact_fourBits :
    (fourBits.setBit 1 true).firstOne 2 = 4 ∧
      FirstAt (fourBits.setBit 1 true).getBit 2 4 4 ((fourBits.setBit 1 true).firstOne 2) ∧
      (fourBits.setBit 1 true).onesCount = (fourBits.setBit 1 true).toList.count true := by
  have exact := searches_exact (fourBits_setBit_paddingZero (by decide : 1 < 4))
  exact ⟨by decide, (exact.1 2 (.inl (by decide))).1, exact.2.2⟩

end BitVector

end Quickstep.Utility
