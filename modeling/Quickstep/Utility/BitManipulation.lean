import Mathlib.Data.Nat.Find
import Quickstep.Utility.BitVectorBits

/-!
# Counting bits of a word

The loops of `utility/BitManipulation.hpp`, and what the first and the last position of a property
are.
-/

namespace Quickstep.Utility
open Quickstep.Lib

variable {w : Nat}

/-- The loop of `population_count`. A word of `w` bits is zero after `w` rounds. -/
def populationCountLoop : Nat → BitVec w → Nat → Nat
  | 0, _, count => count
  | rounds + 1, word, count =>
    if word ≠ 0#w then
      populationCountLoop rounds (word >>> 1) (if word &&& 1#w ≠ 0#w then count + 1 else count)
    else count

def populationCount (word : BitVec w) : Nat := populationCountLoop w word 0

/-- The loop of `leading_zero_count`. -/
def leadingZeroCountLoop : Nat → BitVec w → Nat → Nat
  | 0, _, count => count
  | rounds + 1, word, count =>
    if word &&& topBit w ≠ 0#w then count else leadingZeroCountLoop rounds (word <<< 1) (count + 1)

def leadingZeroCount (word : BitVec w) : Nat :=
  if word ≠ 0#w then leadingZeroCountLoop w word 0 else w

/-- The loop of `trailing_zero_count`. -/
def trailingZeroCountLoop : Nat → BitVec w → Nat → Nat
  | 0, _, count => count
  | rounds + 1, word, count =>
    if word &&& 1#w ≠ 0#w then count else trailingZeroCountLoop rounds (word >>> 1) (count + 1)

def trailingZeroCount (word : BitVec w) : Nat :=
  if word ≠ 0#w then trailingZeroCountLoop w word 0 else w

/-! ## First and last positions -/

/-- `r` is the first position from `start` on that `holds`, or `missing` if none below `stop` does. -/
def FirstAt (holds : Nat → Bool) (start stop missing r : Nat) : Prop :=
  (start ≤ r ∧ r < stop ∧ holds r = true ∧ ∀ i, start ≤ i → i < r → holds i = false) ∨
    (r = missing ∧ ∀ i, start ≤ i → i < stop → holds i = false)

/-- `r` is the last position before `stop` that `holds`, or `missing` if none does. -/
def LastAt (holds : Nat → Bool) (stop missing r : Nat) : Prop :=
  (r < stop ∧ holds r = true ∧ ∀ i, r < i → i < stop → holds i = false) ∨
    (r = missing ∧ ∀ i, i < stop → holds i = false)

section Positions

variable {holds : Nat → Bool} {start middle stop missing r : Nat}

/-- Positions in front where nothing holds may be searched too. -/
theorem FirstAt.extend (first : FirstAt holds middle stop missing r) (order : start ≤ middle)
    (empty : ∀ i, start ≤ i → i < middle → holds i = false) : FirstAt holds start stop missing r := by
  rcases first with ⟨lower, upper, found, before⟩ | ⟨isMissing, none⟩
  · refine .inl ⟨by omega, upper, found, fun i after inside => ?_⟩
    by_cases inFront : i < middle
    · exact empty i after inFront
    · exact before i (by omega) inside
  · refine .inr ⟨isMissing, fun i after inside => ?_⟩
    by_cases inFront : i < middle
    · exact empty i after inFront
    · exact none i (by omega) inside

/-- Positions behind where nothing holds may be searched too. -/
theorem LastAt.extend (last : LastAt holds middle missing r) (order : middle ≤ stop)
    (empty : ∀ i, middle ≤ i → i < stop → holds i = false) : LastAt holds stop missing r := by
  rcases last with ⟨upper, found, behind⟩ | ⟨isMissing, none⟩
  · refine .inl ⟨by omega, found, fun i after inside => ?_⟩
    by_cases atEnd : middle ≤ i
    · exact empty i atEnd inside
    · exact behind i after (by omega)
  · refine .inr ⟨isMissing, fun i inside => ?_⟩
    by_cases atEnd : middle ≤ i
    · exact empty i atEnd inside
    · exact none i (by omega)

/-- Behind the length everything holds or nothing does. Either way a search of the whole storage is
a search up to the length, which stands for a missing position. -/
theorem FirstAt.restrict {length : Nat} (first : FirstAt holds start stop length r)
    (order : start ≤ length) (fits : length ≤ stop) (padding : Bool)
    (behind : ∀ i, length ≤ i → i < stop → holds i = padding) :
    FirstAt holds start length length r := by
  rcases first with ⟨lower, upper, found, before⟩ | ⟨isMissing, none⟩
  · by_cases inside : r < length
    · exact .inl ⟨lower, inside, found, before⟩
    · refine .inr ⟨?_, fun i after inFront => before i after (by omega)⟩
      by_contra other
      -- The first position of the padding would have been found before.
      have same := before length order (by omega)
      rw [behind length (by omega) (by omega), ← behind r (by omega) upper, found] at same
      cases same
  · exact .inr ⟨isMissing, fun i after inside => none i after (by omega)⟩

/-- A search ends at its stop when nothing holds before it. -/
theorem FirstAt.eq_stop_iff (first : FirstAt holds start stop stop r) :
    r = stop ↔ ∀ i, start ≤ i → i < stop → holds i = false := by
  rcases first with ⟨lower, upper, found, _⟩ | ⟨rfl, none⟩
  · refine ⟨fun same => absurd same (by omega), fun none => ?_⟩
    rw [none r lower upper] at found
    cases found
  · exact ⟨fun _ => none, fun _ => rfl⟩

theorem FirstAt.le_stop (first : FirstAt holds start stop stop r) : r ≤ stop := by
  rcases first with ⟨_, upper, _⟩ | ⟨rfl, _⟩ <;> omega

theorem FirstAt.congr {holds' : Nat → Bool} (first : FirstAt holds start stop missing r)
    (same : ∀ i, i < stop → holds i = holds' i) : FirstAt holds' start stop missing r := by
  rcases first with ⟨lower, upper, found, before⟩ | ⟨isMissing, none⟩
  · exact .inl ⟨lower, upper, (same r upper) ▸ found,
      fun i after inside => (same i (by omega)) ▸ before i after inside⟩
  · exact .inr ⟨isMissing, fun i after inside => (same i inside) ▸ none i after inside⟩

theorem LastAt.lt_stop (last : LastAt holds stop missing r) (found : r ≠ missing) : r < stop := by
  rcases last with ⟨upper, _⟩ | ⟨isMissing, _⟩
  · exact upper
  · exact absurd isMissing found

theorem LastAt.congr {holds' : Nat → Bool} (last : LastAt holds stop missing r)
    (same : ∀ i, i < stop → holds i = holds' i) : LastAt holds' stop missing r := by
  rcases last with ⟨upper, found, behind⟩ | ⟨isMissing, none⟩
  · exact .inl ⟨upper, (same r upper) ▸ found,
      fun i after inside => (same i inside) ▸ behind i after inside⟩
  · exact .inr ⟨isMissing, fun i inside => (same i inside) ▸ none i inside⟩

end Positions

section Words

variable {word : BitVec w}

theorem exists_getMsbD_of_ne_zero (nonzero : word ≠ 0#w) : ∃ i, i < w ∧ word.getMsbD i = true := by
  by_contra noneSet
  apply nonzero
  apply BitVec.eq_of_getMsbD_eq
  intro i inside
  rw [BitVec.getMsbD_zero, ← Bool.not_eq_true]
  exact fun set => noneSet ⟨i, inside, set⟩

theorem getMsbD_eq_false_of_zero (zero : ¬ word ≠ 0#w) (i : Nat) : word.getMsbD i = false := by
  rw [not_not.mp zero, BitVec.getMsbD_zero]

theorem and_topBit_iff : word &&& topBit w ≠ 0#w ↔ word.getMsbD 0 = true := by
  rw [← and_topBit_ne_zero, bne_iff_ne]

theorem and_one_iff : word &&& 1#w ≠ 0#w ↔ word.getLsbD 0 = true := by
  constructor
  · intro nonzero
    by_contra unset
    apply nonzero
    apply BitVec.eq_of_getLsbD_eq
    intro i inside
    rw [BitVec.getLsbD_and, BitVec.getLsbD_one, BitVec.getLsbD_zero]
    by_cases lowest : i = 0
    · rw [lowest, Bool.not_eq_true _ |>.mp unset, Bool.false_and]
    · simp [lowest]
  · intro set zero
    have pos : 0 < w := by
      by_contra empty
      rw [BitVec.getLsbD_of_ge _ _ (by omega)] at set
      cases set
    have lowest : (word &&& 1#w).getLsbD 0 = true := by
      rw [BitVec.getLsbD_and, BitVec.getLsbD_one, set, decide_eq_true pos]
      rfl
    rw [zero, BitVec.getLsbD_zero] at lowest
    cases lowest

/-- The loop counts on to the first set bit. -/
theorem leadingZeroCountLoop_spec {rounds count i : Nat} (first : word.getMsbD i = true)
    (before : ∀ j, j < i → word.getMsbD j = false) (enough : i < rounds) :
    leadingZeroCountLoop rounds word count = count + i := by
  induction rounds generalizing word count i with
  | zero => omega
  | succ rounds ih =>
    unfold leadingZeroCountLoop
    cases i with
    | zero => rw [if_pos (and_topBit_iff.mpr first), Nat.add_zero]
    | succ i =>
      have notFirst : ¬ word &&& topBit w ≠ 0#w := by
        rw [and_topBit_iff, before 0 (by omega)]
        decide
      have shifted (j : Nat) : (word <<< 1).getMsbD j = word.getMsbD (j + 1) := by
        rw [BitVec.getMsbD_shiftLeft, Nat.add_comm]
      rw [if_neg notFirst, ih ((shifted i).trans first)
        (fun j earlier => (shifted j).trans (before (j + 1) (by omega))) (by omega)]
      omega

/-- **Leading zeros** stand before the first set bit. -/
theorem leadingZeroCount_spec (nonzero : word ≠ 0#w) :
    leadingZeroCount word < w ∧ word.getMsbD (leadingZeroCount word) = true ∧
      ∀ j, j < leadingZeroCount word → word.getMsbD j = false := by
  have found := exists_getMsbD_of_ne_zero nonzero
  have before : ∀ j, j < Nat.find found → word.getMsbD j = false := by
    intro j earlier
    obtain ⟨inside, _⟩ := Nat.find_spec found
    have unset := Nat.find_min found earlier
    rw [← Bool.not_eq_true]
    exact fun set => unset ⟨by omega, set⟩
  obtain ⟨inside, first⟩ := Nat.find_spec found
  have count : leadingZeroCount word = Nat.find found := by
    unfold leadingZeroCount
    rw [if_pos nonzero, leadingZeroCountLoop_spec first before inside, Nat.zero_add]
  rw [count]
  exact ⟨inside, first, before⟩

theorem trailingZeroCountLoop_spec {rounds count i : Nat} (first : word.getLsbD i = true)
    (before : ∀ j, j < i → word.getLsbD j = false) (enough : i < rounds) :
    trailingZeroCountLoop rounds word count = count + i := by
  induction rounds generalizing word count i with
  | zero => omega
  | succ rounds ih =>
    unfold trailingZeroCountLoop
    cases i with
    | zero => rw [if_pos (and_one_iff.mpr first), Nat.add_zero]
    | succ i =>
      have notFirst : ¬ word &&& 1#w ≠ 0#w := by
        rw [and_one_iff, before 0 (by omega)]
        decide
      have shifted (j : Nat) : (word >>> 1).getLsbD j = word.getLsbD (j + 1) := by
        rw [BitVec.getLsbD_ushiftRight, Nat.add_comm]
      rw [if_neg notFirst, ih ((shifted i).trans first)
        (fun j earlier => (shifted j).trans (before (j + 1) (by omega))) (by omega)]
      omega

/-- **Trailing zeros** stand behind the last set bit. -/
theorem trailingZeroCount_spec (nonzero : word ≠ 0#w) :
    trailingZeroCount word < w ∧ word.getMsbD (w - 1 - trailingZeroCount word) = true ∧
      ∀ j, w - 1 - trailingZeroCount word < j → word.getMsbD j = false := by
  have found : ∃ i, i < w ∧ word.getLsbD i = true := by
    obtain ⟨i, inside, set⟩ := exists_getMsbD_of_ne_zero nonzero
    rw [BitVec.getMsbD_eq_getLsbD, Bool.and_eq_true] at set
    exact ⟨w - 1 - i, by omega, set.2⟩
  have before : ∀ j, j < Nat.find found → word.getLsbD j = false := by
    intro j earlier
    obtain ⟨inside, _⟩ := Nat.find_spec found
    have unset := Nat.find_min found earlier
    rw [← Bool.not_eq_true]
    exact fun set => unset ⟨by omega, set⟩
  obtain ⟨inside, first⟩ := Nat.find_spec found
  have count : trailingZeroCount word = Nat.find found := by
    unfold trailingZeroCount
    rw [if_pos nonzero, trailingZeroCountLoop_spec first before inside, Nat.zero_add]
  rw [count]
  refine ⟨inside, ?_, ?_⟩
  · have place : w - 1 - (w - 1 - Nat.find found) = Nat.find found := by omega
    rw [BitVec.getMsbD_eq_getLsbD, place, first, Bool.and_true, decide_eq_true (by omega)]
  · intro j behind
    rw [BitVec.getMsbD_eq_getLsbD]
    by_cases inWord : j < w
    · rw [before _ (by omega), Bool.and_false]
    · rw [decide_eq_false inWord, Bool.false_and]

section Searches

variable {value : BitVec w} {holds : Nat → Bool} {base : Nat}

/-- A forward search in a word from `base` on, whose bits before `start` are masked. -/
theorem firstAt_of_ne_zero {start stop missing : Nat}
    (same : ∀ j, j < w → value.getMsbD j = (decide (start ≤ base + j) && holds (base + j)))
    (here : base ≤ start) (inside : base + w ≤ stop) (nonzero : value ≠ 0#w) :
    FirstAt holds start stop missing (base + leadingZeroCount value) := by
  obtain ⟨bound, first, before⟩ := leadingZeroCount_spec nonzero
  rw [same _ bound, Bool.and_eq_true, decide_eq_true_eq] at first
  refine .inl ⟨first.1, by omega, first.2, ?_⟩
  intro i lower upper
  have earlier := before (i - base) (by omega)
  have place : base + (i - base) = i := by omega
  rw [same _ (by omega), place, decide_eq_true lower, Bool.true_and] at earlier
  exact earlier

/-- A backward search in a word from `base` on, whose bits from `stop` on are masked. -/
theorem lastAt_of_ne_zero {stop missing : Nat}
    (same : ∀ j, j < w → value.getMsbD j = (decide (base + j < stop) && holds (base + j)))
    (inside : stop ≤ base + w) (nonzero : value ≠ 0#w) :
    LastAt holds stop missing (base + (w - 1 - trailingZeroCount value)) := by
  obtain ⟨bound, last, behind⟩ := trailingZeroCount_spec nonzero
  rw [same _ (by omega), Bool.and_eq_true, decide_eq_true_eq] at last
  refine .inl ⟨last.1, last.2, ?_⟩
  intro i lower upper
  have later := behind (i - base) (by omega)
  have place : base + (i - base) = i := by omega
  rw [same _ (by omega), place, decide_eq_true upper, Bool.true_and] at later
  exact later

/-- A masked word that is zero holds nothing where it is not masked. -/
theorem eq_false_of_zero {kept : Nat → Prop} [DecidablePred kept]
    (same : ∀ j, j < w → value.getMsbD j = (decide (kept (base + j)) && holds (base + j)))
    (zero : ¬ value ≠ 0#w) {i : Nat} (lower : base ≤ i) (upper : i < base + w) (isKept : kept i) :
    holds i = false := by
  have bit := same (i - base) (by omega)
  have place : base + (i - base) = i := by omega
  rw [getMsbD_eq_false_of_zero zero, place, decide_eq_true isKept, Bool.true_and] at bit
  exact bit.symm

end Searches

theorem populationCountLoop_spec {rounds count : Nat} :
    populationCountLoop rounds word count = count + (List.range rounds).countP word.getLsbD := by
  induction rounds generalizing word count with
  | zero => rfl
  | succ rounds ih =>
    have shifted : word.getLsbD ∘ Nat.succ = (word >>> 1).getLsbD := by
      funext j
      rw [Function.comp_apply, BitVec.getLsbD_ushiftRight, Nat.add_comm]
    unfold populationCountLoop
    split
    · rw [ih, List.range_succ_eq_map, List.countP_cons, List.countP_map, shifted]
      by_cases lowest : word.getLsbD 0 = true
      · rw [if_pos (and_one_iff.mpr lowest), if_pos lowest]
        omega
      · rw [if_neg (and_one_iff.not.mpr lowest), if_neg lowest]
        omega
    · rename_i zero
      have noneSet : ∀ i ∈ List.range (rounds + 1), ¬ word.getLsbD i = true := by
        intro i _
        rw [not_not.mp zero, BitVec.getLsbD_zero]
        decide
      rw [List.countP_eq_zero.mpr noneSet, Nat.add_zero]

/-- **The population count** is the number of set bits. -/
theorem populationCount_spec : populationCount word = (List.range w).countP word.getMsbD := by
  have reversed : (List.range w).reverse = (List.range w).map fun i => w - 1 - i := by
    rw [List.range_eq_range', List.reverse_range', Nat.zero_add, ← List.range_eq_range']
  have mirrored : (List.range w).countP word.getMsbD =
      (List.range w).countP (word.getLsbD ∘ fun i => w - 1 - i) := by
    apply List.countP_congr
    intro i isPosition
    have inside := List.mem_range.mp isPosition
    rw [BitVec.getMsbD_eq_getLsbD, decide_eq_true inside, Bool.true_and]
    rfl
  unfold populationCount
  rw [populationCountLoop_spec, Nat.zero_add, mirrored, ← List.countP_map, ← reversed,
    List.countP_reverse]

end Words

end Quickstep.Utility
