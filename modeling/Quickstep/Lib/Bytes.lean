import Quickstep.Lib.WordMemory

/-!
# Bytes in memory

Words as little-endian bytes, and byte strings copied into a flat memory and read back from it.
-/

namespace Quickstep.Lib.Bytes

/-! ## Words -/

/-- The first `n` bytes of a word. -/
def littleEndian {w : Nat} (n : Nat) (word : BitVec w) : List (BitVec 8) :=
  (List.range n).map fun i => word.extractLsb' (8 * i) 8

/-- The word that begins with the bytes; what it takes beyond them is zero. -/
def ofLittleEndian (w : Nat) : List (BitVec 8) → BitVec w
  | [] => 0#w
  | byte :: bytes => byte.setWidth w ||| (ofLittleEndian w bytes <<< 8)

@[simp] theorem length_littleEndian {w : Nat} (n : Nat) (word : BitVec w) :
    (littleEndian n word).length = n := by
  unfold littleEndian
  rw [List.length_map, List.length_range]

theorem getLsbD_ofLittleEndian {w i : Nat} (bytes : List (BitVec 8)) (inside : i < w) :
    (ofLittleEndian w bytes).getLsbD i = (bytes[i / 8]?.getD 0#8).getLsbD (i % 8) := by
  induction bytes generalizing i with
  | nil =>
    rw [ofLittleEndian, List.getElem?_nil, Option.getD_none, BitVec.getLsbD_zero, BitVec.getLsbD_zero]
  | cons byte bytes ih =>
    rw [ofLittleEndian, BitVec.getLsbD_or, BitVec.getLsbD_setWidth, BitVec.getLsbD_shiftLeft]
    simp only [inside, decide_true, Bool.true_and]
    by_cases first : i < 8
    · rw [Nat.div_eq_of_lt first, Nat.mod_eq_of_lt first]
      simp [first]
    · obtain ⟨j, rfl⟩ : ∃ j, i = j + 8 := ⟨i - 8, by omega⟩
      rw [BitVec.getLsbD_of_ge byte _ (by omega), Nat.add_sub_cancel, ih (by omega),
        Nat.add_div_right j (by decide), Nat.add_mod_right, List.getElem?_cons_succ]
      simp

/-- **Round trip.** A word is read back from enough of its bytes. -/
theorem ofLittleEndian_littleEndian {v w n : Nat} (word : BitVec v) (enough : w ≤ 8 * n) :
    ofLittleEndian w (littleEndian n word) = word.setWidth w := by
  apply BitVec.eq_of_getLsbD_eq
  intro i inside
  have place : i / 8 < n := by omega
  have whole : 8 * (i / 8) + i % 8 = i := by omega
  have offset : i % 8 < 8 := by omega
  rw [getLsbD_ofLittleEndian _ inside, BitVec.getLsbD_setWidth, littleEndian, List.getElem?_map,
    List.getElem?_range place, Option.map_some, Option.getD_some, BitVec.getLsbD_extractLsb', whole,
    decide_eq_true inside, decide_eq_true offset]

/-- A shorter word is read from the same bytes. -/
theorem setWidth_ofLittleEndian {v w : Nat} (bytes : List (BitVec 8)) (narrower : w ≤ v) :
    (ofLittleEndian v bytes).setWidth w = ofLittleEndian w bytes := by
  apply BitVec.eq_of_getLsbD_eq
  intro i inside
  rw [BitVec.getLsbD_setWidth, decide_eq_true inside, Bool.true_and, getLsbD_ofLittleEndian _ inside,
    getLsbD_ofLittleEndian _ (by omega)]

/-! ## Ranges of a memory -/

/-- Copy bytes to an address. -/
def memcpy (memory : WordMemory 8) (dest : Nat) (bytes : List (BitVec 8)) : WordMemory 8 :=
  fun address =>
    if dest ≤ address then bytes[address - dest]?.getD (memory address) else memory address

/-- The bytes at an address. -/
def read (memory : WordMemory 8) (start count : Nat) : List (BitVec 8) :=
  (List.range count).map fun i => memory (start + i)

variable {memory : WordMemory 8} {dest start count : Nat} {bytes : List (BitVec 8)}

@[simp] theorem length_read : (read memory start count).length = count := by
  unfold read
  rw [List.length_map, List.length_range]

theorem getElem_read {i : Nat} (inside : i < (read memory start count).length) :
    (read memory start count)[i] = memory (start + i) := by
  simp [read]

theorem memcpy_apply {i : Nat} (inside : i < bytes.length) :
    memcpy memory dest bytes (dest + i) = bytes[i] := by
  unfold memcpy
  rw [if_pos (Nat.le_add_right dest i), Nat.add_sub_cancel_left, List.getElem?_eq_getElem inside,
    Option.getD_some]

theorem memcpy_apply_of_not_mem {address : Nat} (outside : address < dest ∨ dest + bytes.length ≤ address) :
    memcpy memory dest bytes address = memory address := by
  unfold memcpy
  rcases outside with below | above
  · rw [if_neg (Nat.not_le_of_lt below)]
  · rw [if_pos (by omega), List.getElem?_eq_none (by omega), Option.getD_none]

/-- What was copied is read back, followed by what lay behind it. -/
theorem read_memcpy (fits : bytes.length ≤ count) :
    read (memcpy memory dest bytes) dest count = bytes ++ (read memory dest count).drop bytes.length := by
  apply List.ext_getElem
  · rw [List.length_append, List.length_drop, length_read, length_read]
    omega
  · intro i inside _
    have within : i < count := by
      rwa [length_read] at inside
    rw [getElem_read]
    by_cases copied : i < bytes.length
    · rw [memcpy_apply copied, List.getElem_append_left copied]
    · rw [List.getElem_append_right (Nat.not_lt.mp copied), List.getElem_drop, getElem_read,
        memcpy_apply_of_not_mem (by omega), Nat.add_sub_cancel' (Nat.not_lt.mp copied)]

theorem read_memcpy_of_length (fits : bytes.length = count) :
    read (memcpy memory dest bytes) dest count = bytes := by
  rw [read_memcpy fits.le, List.drop_eq_nil_of_le (by rw [length_read, fits]), List.append_nil]

/-- A range beside the copied one is not changed. -/
theorem read_memcpy_of_disjoint (apart : start + count ≤ dest ∨ dest + bytes.length ≤ start) :
    read (memcpy memory dest bytes) start count = read memory start count := by
  unfold read
  apply List.map_congr_left
  intro i mem
  have inside := List.mem_range.mp mem
  exact memcpy_apply_of_not_mem (by omega)

end Quickstep.Lib.Bytes
