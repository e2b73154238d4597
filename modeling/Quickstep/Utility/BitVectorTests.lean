import Mathlib.Order.Fin.Basic
import Quickstep.Utility.BitVectorSearch

/-!
# Testing a BitVector

`any` looks for a nonzero word. `all` compares the words with ones from the left; the short
version computes the word to compare with in a type that may be wider than the word.
-/

namespace Quickstep.Utility
open Quickstep.Lib

/-- `word == max() << (w - numBits)`: the maximum of a word narrower than `int` is promoted, so
the shift keeps the bits it moves past the word. -/
def allShortVersion {w : Nat} (word : BitVec w) (numBits : Nat) : Bool :=
  if w < 32 then word.toNat == (2 ^ w - 1) <<< (w - numBits)
  else word == BitVec.allOnes w <<< (w - numBits)

def allRegularVersion (numBits : Nat) (data : WordMemory 64) : Bool :=
  let tailElementBits := numBits % 64
  let fullElements := dataArraySize numBits - if tailElementBits ≠ 0 then 1 else 0
  ((List.range fullElements).all fun arrayIdx => data arrayIdx == BitVec.allOnes 64) &&
    (tailElementBits == 0 ||
      data (dataArraySize numBits - 1) == BitVec.allOnes 64 <<< (64 - tailElementBits))

namespace BitVector

variable {e : Bool} {n : Nat}

/-- `any`: some word of the storage is nonzero. -/
def any : BitVector e n → Bool
  | short _ word => decide (n ≠ 0) && word != 0#_
  | regular _ data => (List.range (dataArraySize n)).any fun arrayIdx => data arrayIdx != 0#64

def all : BitVector e n → Bool
  | short _ word => decide (n = 0) || allShortVersion word n
  | regular _ data => allRegularVersion n data

end BitVector

/-! ## Comparing words -/

section Words

variable {w : Nat} {word : BitVec w} {numBits : Nat}

/-- A word is nonzero when one of its bits is set. -/
theorem BitVector.ne_zero_iff_getMsbD {w : Nat} (word : BitVec w) :
    (word != 0#w) = true ↔ ∃ i < w, word.getMsbD i = true := by
  rw [bne_iff_ne, ne_eq, ← not_forall_not, not_iff_not]
  constructor
  · rintro rfl i ⟨_, set⟩
    rw [BitVec.getMsbD_zero] at set
    cases set
  · intro unset
    refine BitVec.eq_of_getMsbD_eq fun i below => ?_
    rw [BitVec.getMsbD_zero, Bool.eq_false_iff]
    exact fun set => unset i ⟨below, set⟩

/-- The leading ones, of a word whose other bits are zero. -/
theorem eq_leadingOnes_iff (fits : numBits ≤ w)
    (clean : ∀ i, numBits ≤ i → i < w → word.getMsbD i = false) :
    word = BitVec.allOnes w <<< (w - numBits) ↔ ∀ i < numBits, word.getMsbD i = true := by
  constructor
  · rintro rfl i below
    rw [getMsbD_allOnes_shiftLeft fits, decide_eq_true below]
  · intro set
    refine BitVec.eq_of_getMsbD_eq fun i inside => ?_
    rw [getMsbD_allOnes_shiftLeft fits]
    by_cases below : i < numBits
    · rw [set i below, decide_eq_true below]
    · rw [clean i (by omega) inside, decide_eq_false below]

theorem eq_allOnes_iff : word = BitVec.allOnes w ↔ ∀ i < w, word.getMsbD i = true := by
  have whole := @eq_leadingOnes_iff w word w (Nat.le_refl w) fun i past inside => by omega
  rwa [Nat.sub_self, BitVec.shiftLeft_zero] at whole

/-- **The comparison of a word** holds for the leading ones, except that a promoted constant with
bits past the word equals no word. -/
theorem allShortVersion_iff (nonempty : 0 < numBits) (fits : numBits ≤ w)
    (clean : ∀ i, numBits ≤ i → i < w → word.getMsbD i = false) :
    allShortVersion word numBits = true ↔
      (∀ i < numBits, word.getMsbD i = true) ∧ (numBits = w ∨ 32 ≤ w) := by
  rw [allShortVersion]
  split
  · rename_i narrow
    rw [beq_iff_eq, Nat.shiftLeft_eq]
    by_cases full : numBits = w
    · subst full
      rw [Nat.sub_self, Nat.pow_zero, Nat.mul_one, ← BitVec.toNat_allOnes, ← BitVec.toNat_eq,
        eq_allOnes_iff]
      exact ⟨fun set => ⟨set, .inl rfl⟩, fun both => both.1⟩
    · -- At least one of the ones is shifted past the word.
      have ones : 2 ≤ 2 ^ w := Nat.le_self_pow (by omega) 2
      have shifted : 2 ≤ 2 ^ (w - numBits) := Nat.le_self_pow (by omega) 2
      have large : (2 ^ w - 1) * 2 ≤ (2 ^ w - 1) * 2 ^ (w - numBits) := Nat.mul_le_mul_left _ shifted
      have bound := word.isLt
      constructor
      · intro same
        omega
      · rintro ⟨_, exact | wide⟩ <;> omega
  · rename_i wide
    rw [beq_iff_eq, eq_leadingOnes_iff fits clean]
    exact ⟨fun set => ⟨set, .inr (by omega)⟩, fun both => both.1⟩

end Words

namespace BitVector

variable {e : Bool} {n : Nat} {b : BitVector e n}

/-! ## The tests, bit by bit -/

theorem any_regular {h : ¬ ShortVersion e n} {data : WordMemory 64}
    (clean : (regular h data).PaddingZero) :
    (regular h data).any = true ↔ ∃ i < n, data.bit i = true := by
  rw [any, List.any_eq_true]
  constructor
  · rintro ⟨arrayIdx, inside, nonzero⟩
    rw [List.mem_range] at inside
    obtain ⟨k, below, set⟩ := (ne_zero_iff_getMsbD _).mp nonzero
    have stored : 64 * arrayIdx + k < 8 * bytesNeeded e n := by
      rw [storage_regular h]
      omega
    have word : (64 * arrayIdx + k) / 64 = arrayIdx := by omega
    have offset : (64 * arrayIdx + k) % 64 = k := by omega
    refine ⟨64 * arrayIdx + k, ?_, by rwa [WordMemory.bit, word, offset]⟩
    refine Nat.lt_of_not_le fun pad => ?_
    have zero := clean (64 * arrayIdx + k) pad stored
    rw [storedBit, WordMemory.bit, word, offset, set] at zero
    cases zero
  · rintro ⟨i, below, set⟩
    have stored := lt_storage (e := e) below
    rw [storage_regular h] at stored
    exact ⟨i / 64, by rw [List.mem_range]; omega, (ne_zero_iff_getMsbD _).mpr ⟨i % 64, by omega, set⟩⟩

/-- The padding of a short vector, as bits of its word. -/
theorem short_padding {h : ShortVersion e n} {word : BitVec (shortWidth n)}
    (clean : (short h word).PaddingZero) (nonempty : n ≠ 0) :
    ∀ i, n ≤ i → i < shortWidth n → word.getMsbD i = false := by
  intro i past inside
  refine clean i past ?_
  rwa [storage_short h, if_neg nonempty]

theorem any_iff (clean : b.PaddingZero) : b.any = true ↔ ∃ i < n, b.getBit i = true := by
  simp only [getBit_eq]
  cases b with
  | short h word =>
    by_cases empty : n = 0
    · subst empty
      simp [any]
    · rw [any, decide_eq_true empty, Bool.true_and, ne_zero_iff_getMsbD]
      constructor
      · rintro ⟨i, inside, set⟩
        refine ⟨i, Nat.lt_of_not_le fun past => ?_, set⟩
        rw [short_padding clean empty i past inside] at set
        cases set
      · rintro ⟨i, below, set⟩
        exact ⟨i, Nat.lt_of_lt_of_le below (le_shortWidth h), set⟩
  | regular h data => exact any_regular clean

theorem allRegularVersion_iff {data : WordMemory 64} (clean : PadsLast n data ∨ n = 0) :
    allRegularVersion n data = true ↔ ∀ i < n, data.bit i = true := by
  have size := dataArraySize_bounds n
  have tail : n % 64 ≠ 0 → (data (dataArraySize n - 1) = BitVec.allOnes 64 <<< (64 - n % 64) ↔
      ∀ j < n % 64, (data (dataArraySize n - 1)).getMsbD j = true) := by
    intro partly
    refine eq_leadingOnes_iff (by omega) fun j past inside => ?_
    rw [← WordMemory.bit_at (i := 64 * (dataArraySize n - 1) + j) rfl inside]
    exact clean.resolve_right (by omega) _ (by omega) (by omega)
  simp only [allRegularVersion, Bool.and_eq_true, List.all_eq_true, List.mem_range, beq_iff_eq,
    Bool.or_eq_true, eq_allOnes_iff]
  constructor
  · rintro ⟨full, last⟩ i below
    by_cases inTail : n % 64 ≠ 0 ∧ i / 64 = dataArraySize n - 1
    · have set := (tail inTail.1).mp (last.resolve_left inTail.1) (i % 64) (by omega)
      rwa [← inTail.2] at set
    · refine full (i / 64) ?_ (i % 64) (by omega)
      split <;> omega
  · intro set
    constructor
    · intro arrayIdx inside j inWord
      rw [← WordMemory.bit_at (i := 64 * arrayIdx + j) rfl inWord]
      refine set _ ?_
      split at inside <;> omega
    · by_cases partly : n % 64 = 0
      · exact .inl partly
      · refine .inr ((tail partly).mpr fun j inTail => ?_)
        rw [← WordMemory.bit_at (i := 64 * (dataArraySize n - 1) + j) rfl (by omega)]
        exact set _ (by omega)

/-- The lengths whose word is narrower than `int` and not fully used. -/
def PartlyUsedNarrowWord (e : Bool) (n : Nat) : Prop :=
  ShortVersion e n ∧ n ≠ 0 ∧ n ≠ shortWidth n ∧ shortWidth n < 32

instance (e : Bool) (n : Nat) : Decidable (PartlyUsedNarrowWord e n) :=
  inferInstanceAs (Decidable (_ ∧ _))

theorem all_iff (clean : b.PaddingZero) :
    b.all = true ↔ (∀ i < n, b.getBit i = true) ∧ ¬ PartlyUsedNarrowWord e n := by
  simp only [getBit_eq]
  cases b with
  | short h word =>
    by_cases empty : n = 0
    · subst empty
      simp [all, PartlyUsedNarrowWord]
    · rw [all, decide_eq_false empty, Bool.false_or, allShortVersion_iff (by omega) (le_shortWidth h)
        (short_padding clean empty)]
      refine and_congr_right fun _ => ?_
      simp only [PartlyUsedNarrowWord, h, true_and]
      omega
  | regular h data =>
    rw [all, allRegularVersion_iff (paddingZero_regular.mp clean)]
    exact ⟨fun set => ⟨set, fun narrow => h narrow.1⟩, fun both => both.1⟩

/-! ## Agreement with the count and the searches -/

theorem onesCount_eq_length_iff (clean : b.PaddingZero) :
    b.onesCount = n ↔ ∀ i < n, b.getBit i = true := by
  have length : b.toList.length = n := by rw [toList, List.length_map, List.length_range]
  rw [onesCount_eq clean]
  constructor
  · intro count i below
    have every := List.count_eq_length.mp (count.trans length.symm)
    exact (every _ (List.mem_map_of_mem (List.mem_range.mpr below))).symm
  · intro set
    refine (List.count_eq_length.mpr fun bit inList => ?_).trans length
    obtain ⟨i, below, rfl⟩ := List.mem_map.mp inList
    exact (set i (List.mem_range.mp below)).symm

theorem onesCount_pos_iff (clean : b.PaddingZero) :
    0 < b.onesCount ↔ ∃ i < n, b.getBit i = true := by
  rw [onesCount_eq clean, List.count_pos_iff, toList, List.mem_map]
  simp only [List.mem_range]

theorem firstOne_zero_firstAt (clean : b.PaddingZero) : FirstAt b.getBit 0 n n (b.firstOne 0) := by
  by_cases empty : n = 0
  · refine .inr ⟨?_, fun i _ upper => by omega⟩
    unfold firstOne
    rw [if_pos empty, empty]
  · exact firstOne_firstAt clean (by omega)

theorem firstZero_zero_firstAt (clean : b.PaddingZero) :
    FirstAt (fun i => !b.getBit i) 0 n n (b.firstZero 0) := by
  by_cases empty : n = 0
  · refine .inr ⟨?_, fun i _ upper => by omega⟩
    unfold firstZero
    rw [if_pos empty, empty]
  · exact firstZero_firstAt clean (by omega)

theorem firstZero_eq_length_iff (clean : b.PaddingZero) :
    b.firstZero 0 = n ↔ ∀ i < n, b.getBit i = true := by
  rw [(firstZero_zero_firstAt clean).eq_stop_iff]
  simp only [Nat.zero_le, true_implies, Bool.not_eq_false']

theorem firstOne_lt_length_iff (clean : b.PaddingZero) :
    b.firstOne 0 < n ↔ ∃ i < n, b.getBit i = true := by
  have first := firstOne_zero_firstAt clean
  have reached : b.firstOne 0 < n ↔ ¬ b.firstOne 0 = n := by
    have := first.le_stop
    omega
  rw [reached, first.eq_stop_iff]
  simp only [Nat.zero_le, true_implies, not_forall, Bool.not_eq_false, exists_prop]

/-- The tests say what the count and the searches say. -/
def TestsAgree (b : BitVector e n) : Prop :=
  (b.all = true ↔ b.onesCount = n) ∧ (b.all = true ↔ b.firstZero 0 = n) ∧
    (b.any = true ↔ 0 < b.onesCount) ∧ (b.any = true ↔ b.firstOne 0 < n)

/-- **The tests agree with the count and the searches** unless every bit of a partly used 8 or 16
bit word is set. -/
theorem testsAgree_iff (clean : b.PaddingZero) :
    b.TestsAgree ↔ ¬ (PartlyUsedNarrowWord e n ∧ ∀ i < n, b.getBit i = true) := by
  have allTrue := all_iff clean
  rw [TestsAgree, onesCount_eq_length_iff clean, firstZero_eq_length_iff clean,
    onesCount_pos_iff clean, firstOne_lt_length_iff clean, any_iff clean, allTrue]
  tauto

/-- Four bits of an eight bit word, one of them set. -/
theorem testsAgree_iff_fourBits : (fourBits.setBit 1 true).TestsAgree :=
  (testsAgree_iff (fourBits_setBit_paddingZero (by decide))).mpr (by decide)

/-- Five bits, all of them set. -/
def fiveOnes : BitVector true 5 := .short (by decide) 0xf8#8

/-- Five ones are not all ones: 0xf8 is compared with 0x7f8. -/
theorem not_testsAgree_fiveOnes :
    fiveOnes.PaddingZero ∧ fiveOnes.all = false ∧ fiveOnes.onesCount = 5 ∧
      fiveOnes.firstZero 0 = 5 ∧ ¬ fiveOnes.TestsAgree := by
  have clean : fiveOnes.PaddingZero := by
    have padding : ∀ i < 8, 5 ≤ i → fiveOnes.storedBit i = false := by decide
    exact fun i past stored => padding i stored past
  have allFalse : fiveOnes.all = false := by decide
  have count : fiveOnes.onesCount = 5 := by decide
  refine ⟨clean, allFalse, count, by decide, fun agree => ?_⟩
  rw [agree.1.mpr count] at allFalse
  cases allFalse

end BitVector

end Quickstep.Utility
