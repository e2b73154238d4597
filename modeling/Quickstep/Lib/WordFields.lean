/-!
# Fields of a word

A field of a union or of a structure takes some of the bits of a word. Storing it leaves the other
bits as they were.
-/

namespace Quickstep.Lib.WordFields

variable {w f : Nat}

/-- The word with the field stored at an offset. -/
def store (word : BitVec w) (offset : Nat) (field : BitVec f) : BitVec w :=
  (word &&& ~~~((BitVec.allOnes f).setWidth w <<< offset)) ||| (field.setWidth w <<< offset)

theorem getLsbD_store (word : BitVec w) (offset : Nat) (field : BitVec f) {i : Nat} (inside : i < w) :
    (store word offset field).getLsbD i =
      if offset ≤ i ∧ i < offset + f then field.getLsbD (i - offset) else word.getLsbD i := by
  unfold store
  simp only [BitVec.getLsbD_or, BitVec.getLsbD_and, BitVec.getLsbD_not, BitVec.getLsbD_shiftLeft,
    BitVec.getLsbD_setWidth, BitVec.getLsbD_allOnes]
  by_cases behind : offset ≤ i
  · by_cases within : i < offset + f
    · have short : i - offset < f := by omega
      have inWord : i - offset < w := by omega
      rw [if_pos ⟨behind, within⟩]
      simp [inside, short, inWord, Nat.not_lt.mpr behind]
    · have long : ¬i - offset < f := by omega
      rw [if_neg fun both => within both.2]
      simp [inside, long, BitVec.getLsbD_of_ge field _ (Nat.not_lt.mp long)]
  · rw [if_neg fun both => behind both.1]
    simp [inside, Nat.not_le.mp behind]

/-- A field that was stored is read back. -/
theorem extractLsb'_store (word : BitVec w) {offset : Nat} (field : BitVec f) (fits : offset + f ≤ w) :
    (store word offset field).extractLsb' offset f = field := by
  apply BitVec.eq_of_getLsbD_eq
  intro i inside
  rw [BitVec.getLsbD_extractLsb', getLsbD_store word offset field (by omega), if_pos (by omega),
    Nat.add_sub_cancel_left, decide_eq_true inside, Bool.true_and]

/-- What lies beside the field is not changed. -/
theorem extractLsb'_store_of_disjoint (word : BitVec w) {offset start length : Nat} (field : BitVec f)
    (fits : start + length ≤ w) (apart : start + length ≤ offset ∨ offset + f ≤ start) :
    (store word offset field).extractLsb' start length = word.extractLsb' start length := by
  apply BitVec.eq_of_getLsbD_eq
  intro i inside
  rw [BitVec.getLsbD_extractLsb', BitVec.getLsbD_extractLsb',
    getLsbD_store word offset field (by omega), if_neg (by omega)]

/-- A field as wide as the word replaces it. -/
theorem store_full (word field : BitVec w) : store word 0 field = field := by
  apply BitVec.eq_of_getLsbD_eq
  intro i inside
  rw [getLsbD_store word 0 field inside, if_pos (by omega), Nat.sub_zero]

/-- A field stored over a word of zeros is extended by zeros. -/
theorem store_zero (field : BitVec f) : store (0#w) 0 field = field.setWidth w := by
  apply BitVec.eq_of_getLsbD_eq
  intro i inside
  rw [getLsbD_store _ 0 field inside, BitVec.getLsbD_setWidth, decide_eq_true inside, Bool.true_and]
  by_cases within : i < f
  · rw [if_pos (by omega), Nat.sub_zero]
  · rw [if_neg (by omega), BitVec.getLsbD_zero, BitVec.getLsbD_of_ge field i (Nat.not_lt.mp within)]

/-- Words that agree below and above a position agree on both parts together. -/
theorem extractLsb'_eq_of_parts {left right : BitVec w} {position length : Nat}
    (low : left.extractLsb' 0 position = right.extractLsb' 0 position)
    (high : left.extractLsb' position length = right.extractLsb' position length) :
    left.extractLsb' 0 (position + length) = right.extractLsb' 0 (position + length) := by
  apply BitVec.eq_of_getLsbD_eq
  intro i bound
  by_cases below : i < position
  · have bit := congrArg (·.getLsbD i) low
    simpa [below, bound] using bit
  · have bit := congrArg (·.getLsbD (i - position)) high
    have above : i - position < length := by omega
    have back : position + (i - position) = i := by omega
    simpa [above, back, bound] using bit

end Quickstep.Lib.WordFields
