import Quickstep.Lib.Interleaving

/-!
# The shared spin mutex

`SpinSharedMutex` of `threading/SpinSharedMutex.hpp`: threads lock in exclusive or in shared mode by
single atomic operations on one word, whose top bit is the write bit and whose other bits count readers.
A reader that meets the write bit has raised the count already and takes its increment back.
-/

namespace Quickstep.Threading
open Quickstep.Lib

/-- The top bit of the state. -/
def kWriteBit : BitVec 32 := 0x80000000#32

/-- Where a thread stands between two atomic operations. A yield is no operation on the state, so the
points where a thread may yield are the same with and without it. -/
inductive ThreadPoint where
  /-- Not in the mutex. -/
  | outside
  /-- In `lock()`, before `fetch_or`. -/
  | lock
  /-- In `lock()`, after a `fetch_or` that found the write bit set. -/
  | contended
  /-- In `lock()`, with the write bit, having observed this state. -/
  | drain (observedState : BitVec 32)
  /-- Past `lock()`. -/
  | exclusive
  /-- In `lockShared()`, before `fetch_add`. -/
  | lockShared
  /-- In `lockShared()`, between a failed `fetch_add` and its `fetch_sub`. -/
  | retreat
  /-- In `lockShared()`, spinning, having observed this state. -/
  | spin (observedState : BitVec 32)
  /-- Past `lockShared()`. -/
  | shared
  deriving DecidableEq

namespace ThreadPoint

/-- The next step of a thread. Outside it may ask for either mode; past a lock it unlocks. -/
def advance (wantsExclusive : Bool) : ThreadPoint → BitVec 32 → ThreadPoint × BitVec 32
  | outside, state => (if wantsExclusive then lock else lockShared, state)
  | lock, state =>
    (if state &&& kWriteBit ≠ 0#32 then contended else drain (state ||| kWriteBit), state ||| kWriteBit)
  | contended, state => (lock, state)
  | drain observedState, state =>
    (if observedState ≠ kWriteBit then drain state else exclusive, state)
  | exclusive, state => (outside, state &&& ~~~kWriteBit)
  | lockShared, state => (if state &&& kWriteBit ≠ 0#32 then retreat else shared, state + 1)
  | retreat, state => (spin state, state - 1)
  | spin observedState, state =>
    (if observedState &&& kWriteBit ≠ 0#32 then spin state else lockShared, state)
  | shared, state => (outside, state - 1)

/-- The thread holds exclusive access or drains the readers for it. -/
def holdsWriteBit : ThreadPoint → Bool
  | drain _ | exclusive => true
  | outside | lock | contended | lockShared | retreat | spin _ | shared => false

/-- The thread holds shared access or takes a failed increment back. -/
def counted : ThreadPoint → Bool
  | retreat | shared => true
  | outside | lock | contended | drain _ | exclusive | lockShared | spin _ => false

/-- The thread has seen that no reader is left. -/
def drained : ThreadPoint → Bool
  | drain observedState => observedState = kWriteBit
  | exclusive => true
  | outside | lock | contended | lockShared | retreat | spin _ | shared => false

def isShared : ThreadPoint → Bool
  | shared => true
  | outside | lock | contended | drain _ | exclusive | lockShared | retreat | spin _ => false

end ThreadPoint

/-- The mutex with `n` threads. -/
abbrev SpinSharedMutex (n : Nat) := Threads (Fin n) (BitVec 32) ThreadPoint

/-- The constructor: no thread is in the mutex. -/
def SpinSharedMutex.create (n : Nat) : SpinSharedMutex n := ⟨0#32, fun _ => .outside⟩

/-! ## The write bit -/

theorem kWriteBit_eq : kWriteBit = BitVec.twoPow 32 31 := rfl

theorem getLsbD_31 {state : BitVec 32} : state.getLsbD 31 = decide (2 ^ 31 ≤ state.toNat) := by
  have top : state.msb = state.getLsbD 31 := BitVec.msb_eq_getLsbD_last state
  rw [← top, BitVec.msb_eq_decide]

theorem writeBit_clear_iff {state : BitVec 32} : state &&& kWriteBit = 0#32 ↔ state.toNat < 2 ^ 31 := by
  rw [kWriteBit_eq, BitVec.and_twoPow, getLsbD_31]
  by_cases set : 2 ^ 31 ≤ state.toNat
  · rw [decide_eq_true set, if_pos rfl]
    apply iff_of_false
    · decide
    · exact Nat.not_lt_of_le set
  · rw [decide_eq_false set, if_neg Bool.false_ne_true]
    exact iff_of_true rfl (Nat.lt_of_not_le set)

theorem and_writeBit_of_set {state : BitVec 32} (set : 2 ^ 31 ≤ state.toNat) :
    state &&& kWriteBit = kWriteBit := by
  rw [kWriteBit_eq, BitVec.and_twoPow, getLsbD_31, decide_eq_true set, if_pos rfl]

/-- Setting the clear write bit adds it. -/
theorem toNat_or_writeBit {state : BitVec 32} (clear : state.toNat < 2 ^ 31) :
    (state ||| kWriteBit).toNat = 2 ^ 31 + state.toNat := by
  rw [← BitVec.add_eq_or_of_and_eq_zero _ _ (writeBit_clear_iff.mpr clear), BitVec.toNat_add,
    show kWriteBit.toNat = 2 ^ 31 from rfl, Nat.mod_eq_of_lt (by omega), Nat.add_comm]

theorem or_writeBit_of_set {state : BitVec 32} (set : 2 ^ 31 ≤ state.toNat) :
    state ||| kWriteBit = state := by
  apply BitVec.eq_of_getLsbD_eq
  intro i _
  rw [BitVec.getLsbD_or, kWriteBit_eq, BitVec.getLsbD_twoPow]
  by_cases top : 31 = i
  · subst top
    rw [getLsbD_31, decide_eq_true set, Bool.true_or]
  · simp [top]

theorem toNat_clear_writeBit {state : BitVec 32} (set : 2 ^ 31 ≤ state.toNat) :
    (state &&& ~~~kWriteBit).toNat = state.toNat - 2 ^ 31 := by
  have clear : (state &&& ~~~kWriteBit) &&& kWriteBit = 0#32 := by
    rw [BitVec.and_assoc, BitVec.and_comm (~~~kWriteBit), BitVec.and_not_self]
    exact BitVec.and_zero
  have whole : (state &&& ~~~kWriteBit) ||| kWriteBit = state := by
    rw [← or_writeBit_of_set set]
    apply BitVec.eq_of_getLsbD_eq
    intro i _
    simp only [BitVec.getLsbD_or, BitVec.getLsbD_and, BitVec.getLsbD_not]
    cases kWriteBit.getLsbD i <;> simp
    omega
  have sum := toNat_or_writeBit (writeBit_clear_iff.mp clear)
  rw [whole] at sum
  omega

theorem and_not_writeBit_of_clear {state : BitVec 32} (clear : state.toNat < 2 ^ 31) :
    state &&& ~~~kWriteBit = state := by
  apply BitVec.eq_of_getLsbD_eq
  intro i inside
  rw [BitVec.getLsbD_and, BitVec.getLsbD_not, kWriteBit_eq, BitVec.getLsbD_twoPow]
  by_cases top : 31 = i
  · subst top
    rw [getLsbD_31, decide_eq_false (Nat.not_le_of_lt clear), Bool.false_and]
  · simp [top, inside]

theorem toNat_sub_one {state : BitVec 32} (positive : 0 < state.toNat) :
    (state - 1).toNat = state.toNat - 1 := by
  have := state.isLt
  rw [BitVec.toNat_sub, show (1 : BitVec 32).toNat = 1 from rfl]
  omega

/-! ## The invariant -/

open ThreadPoint Threads

variable {n : Nat}

/-- The state counts the threads at their points, and no reader is left where a writer has seen that. -/
structure Counted (s : SpinSharedMutex n) : Prop where
  state : s.shared.toNat = 2 ^ 31 * count holdsWriteBit s.points + count counted s.points
  noReader : 0 < count drained s.points → count isShared s.points = 0

theorem counted_create (n : Nat) : Counted (SpinSharedMutex.create n) := by
  have none (selected : ThreadPoint → Bool) (out : selected outside = false) :
      count selected (SpinSharedMutex.create n).points = 0 := by
    apply Nat.eq_zero_of_not_pos
    rw [count_pos_iff]
    rintro ⟨i, isSelected⟩
    exact Bool.false_ne_true (out.symm.trans isSelected)
  refine ⟨?_, fun _ => none isShared rfl⟩
  rw [none holdsWriteBit rfl, none counted rfl]
  rfl

theorem drained_le (points : Fin n → ThreadPoint) : count drained points ≤ count holdsWriteBit points := by
  apply count_le_count
  intro point isDrained
  cases point <;> first | rfl | cases isDrained

theorem shared_le (points : Fin n → ThreadPoint) : count isShared points ≤ count counted points := by
  apply count_le_count
  intro point isReader
  cases point <;> first | rfl | cases isReader

/-- One thread moves on. The state changes by what its points count; it comes to see that no reader is
left only if none is, and becomes a reader only without the write bit. -/
theorem Counted.update {s : SpinSharedMutex n} (h : Counted s) {i : Fin n} {point : ThreadPoint}
    {state : BitVec 32}
    (change : state.toNat + 2 ^ 31 * (holdsWriteBit (s.points i)).toNat +
      (ThreadPoint.counted (s.points i)).toNat =
      s.shared.toNat + 2 ^ 31 * (holdsWriteBit point).toNat + (ThreadPoint.counted point).toNat)
    (drains : drained point = true →
      drained (s.points i) = true ∨ count ThreadPoint.counted s.points = 0)
    (reads : isShared point = true → count holdsWriteBit s.points = 0) :
    Counted ⟨state, Function.update s.points i point⟩ := by
  have holders := count_update holdsWriteBit s.points i point
  have counts := count_update ThreadPoint.counted s.points i point
  have drainers := count_update drained s.points i point
  have readers := count_update isShared s.points i point
  have before := h.state
  refine ⟨?_, fun someDrained => ?_⟩
  · show state.toNat = 2 ^ 31 * count holdsWriteBit (Function.update s.points i point) +
      count ThreadPoint.counted (Function.update s.points i point)
    omega
  show count isShared (Function.update s.points i point) = 0
  replace someDrained : 0 < count drained (Function.update s.points i point) := someDrained
  have noHolder := drained_le s.points
  have noReader := h.noReader
  have readerCounted := shared_le s.points
  have oldDrained : drained (s.points i) = true → 0 < count drained s.points := fun isDrained =>
    count_pos_iff.mpr ⟨i, isDrained⟩
  cases newDrained : drained point with
  | true =>
    have notReader : isShared point = false := by
      cases point <;> first | rfl | cases newDrained
    rw [notReader, Bool.toNat_false] at readers
    have noneLeft : count isShared s.points = 0 := by
      rcases drains newDrained with before | none
      · exact noReader (oldDrained before)
      · omega
    omega
  | false =>
    rw [newDrained, Bool.toNat_false] at drainers
    have noneLeft := noReader (by omega)
    cases newReader : isShared point with
    | true =>
      have := reads newReader
      omega
    | false =>
      rw [newReader, Bool.toNat_false] at readers
      omega

/-- One thread moves to where it has neither seen that no reader is left nor become a reader. -/
theorem Counted.update_waiting {s : SpinSharedMutex n} (h : Counted s) {i : Fin n}
    {point : ThreadPoint} {state : BitVec 32} (notDrained : drained point = false)
    (notReader : isShared point = false)
    (change : state.toNat + 2 ^ 31 * (holdsWriteBit (s.points i)).toNat +
      (ThreadPoint.counted (s.points i)).toNat =
      s.shared.toNat + 2 ^ 31 * (holdsWriteBit point).toNat + (ThreadPoint.counted point).toNat) :
    Counted ⟨state, Function.update s.points i point⟩ := by
  apply h.update change
  · intro drains
    exact absurd (notDrained.symm.trans drains) Bool.false_ne_true
  · intro reads
    exact absurd (notReader.symm.trans reads) Bool.false_ne_true

/-- **One step** of a thread keeps the count. -/
theorem Counted.turn (few : n < 2 ^ 31) {s : SpinSharedMutex n} (h : Counted s) (i : Fin n)
    (wantsExclusive : Bool) : Counted (s.turn advance i wantsExclusive) := by
  have state := h.state
  have room : ThreadPoint.counted (s.points i) = false →
      count ThreadPoint.counted s.points < 2 ^ 31 - 1 := by
    intro elsewhere
    have := count_lt_card elsewhere
    rw [Fintype.card_fin] at this
    omega
  have isHolder : holdsWriteBit (s.points i) = true → 0 < count holdsWriteBit s.points := fun holds =>
    count_pos_iff.mpr ⟨i, holds⟩
  have isCounted : ThreadPoint.counted (s.points i) = true → 0 < count ThreadPoint.counted s.points :=
    fun counted => count_pos_iff.mpr ⟨i, counted⟩
  unfold Threads.turn
  cases here : s.points i with
  | outside =>
    cases wantsExclusive <;> exact h.update_waiting rfl rfl (by rw [here]; rfl)
  | lock =>
    by_cases clear : s.shared &&& kWriteBit = 0#32
    · -- The write bit was clear: no thread had it, and it is set now.
      have low := writeBit_clear_iff.mp clear
      have set := toNat_or_writeBit low
      simp only [advance, clear, ne_eq, not_true_eq_false, if_false]
      apply h.update
      · rw [here, set]
        simp only [holdsWriteBit, ThreadPoint.counted, Bool.toNat_true, Bool.toNat_false]
        omega
      · intro drains
        have observed : s.shared ||| kWriteBit = kWriteBit := of_decide_eq_true drains
        rw [observed, show kWriteBit.toNat = 2 ^ 31 from rfl] at set
        exact .inr (by omega)
      · exact fun reads => by cases reads
    · have set : 2 ^ 31 ≤ s.shared.toNat := Nat.le_of_not_lt fun low => clear (writeBit_clear_iff.mpr low)
      simp only [advance, clear, ne_eq, not_false_eq_true, if_true, or_writeBit_of_set set]
      exact h.update_waiting rfl rfl (by rw [here]; rfl)
  | contended =>
    exact h.update_waiting rfl rfl (by rw [here]; rfl)
  | drain observedState =>
    have holder := isHolder (by rw [here]; rfl)
    by_cases observed : observedState = kWriteBit
    · simp only [advance, observed, ne_eq, not_true_eq_false, if_false]
      apply h.update
      · rw [here]
        rfl
      · intro _
        rw [here]
        exact .inl (decide_eq_true observed)
      · exact fun reads => by cases reads
    · simp only [advance, observed, ne_eq, not_false_eq_true, if_true]
      apply h.update
      · rw [here]
        rfl
      · intro drains
        have only : s.shared = kWriteBit := of_decide_eq_true drains
        rw [only, show kWriteBit.toNat = 2 ^ 31 from rfl] at state
        exact .inr (by omega)
      · exact fun reads => by cases reads
  | exclusive =>
    have holder := isHolder (by rw [here]; rfl)
    apply h.update_waiting rfl rfl
    rw [here]
    simp only [advance, toNat_clear_writeBit (by omega : 2 ^ 31 ≤ s.shared.toNat), holdsWriteBit,
      ThreadPoint.counted, Bool.toNat_true, Bool.toNat_false]
    omega
  | lockShared =>
    have spare := room (by rw [here]; rfl)
    have limit := s.shared.isLt
    have increment : (s.shared + 1).toNat = s.shared.toNat + 1 := by
      rw [BitVec.toNat_add]
      exact Nat.mod_eq_of_lt (by simp; omega)
    by_cases clear : s.shared &&& kWriteBit = 0#32
    · have low := writeBit_clear_iff.mp clear
      simp only [advance, clear, ne_eq, not_true_eq_false, if_false]
      apply h.update
      · rw [here, increment]
        simp only [holdsWriteBit, ThreadPoint.counted, Bool.toNat_true, Bool.toNat_false]
        omega
      · exact fun drains => by cases drains
      · exact fun _ => by omega
    · simp only [advance, clear, ne_eq, not_false_eq_true, if_true]
      apply h.update_waiting rfl rfl
      rw [here, increment]
      simp only [holdsWriteBit, ThreadPoint.counted, Bool.toNat_true, Bool.toNat_false]
      omega
  | spin observedState =>
    by_cases clear : observedState &&& kWriteBit = 0#32
    · simp only [advance, clear, ne_eq, not_true_eq_false, if_false]
      exact h.update_waiting rfl rfl (by rw [here]; rfl)
    · simp only [advance, clear, ne_eq, not_false_eq_true, if_true]
      exact h.update_waiting rfl rfl (by rw [here]; rfl)
  | retreat | shared =>
    have some := isCounted (by rw [here]; rfl)
    apply h.update_waiting rfl rfl
    rw [here]
    simp only [advance, toNat_sub_one (by omega : 0 < s.shared.toNat), holdsWriteBit,
      ThreadPoint.counted, Bool.toNat_true, Bool.toNat_false]
    omega

/-! ## Mutual exclusion -/

/-- What the mutex is for: the exclusion of the others from what a writer does, and a state that says who
is in. -/
structure MutualExclusion (s : SpinSharedMutex n) : Prop where
  exclusive : ∀ i j, i ≠ j → s.points i = .exclusive → s.points j ≠ .exclusive ∧ s.points j ≠ .shared
  readers : (s.shared &&& ~~~kWriteBit).toNat = count ThreadPoint.counted s.points
  writeBit : s.shared &&& kWriteBit ≠ 0#32 ↔ ∃ i, holdsWriteBit (s.points i) = true
  noCarry : ∀ i wantsExclusive,
    s.points i = .lockShared ∨ s.points i = .retreat ∨ s.points i = .shared →
    (s.turn advance i wantsExclusive).shared &&& kWriteBit = s.shared &&& kWriteBit

/-- The write bit is set exactly while a thread has it. -/
theorem Counted.writeBit_set_iff (few : n < 2 ^ 31) {s : SpinSharedMutex n} (h : Counted s) :
    2 ^ 31 ≤ s.shared.toNat ↔ 0 < count holdsWriteBit s.points := by
  have state := h.state
  have limit : count ThreadPoint.counted s.points ≤ n := by
    unfold count
    exact (Finset.card_le_univ _).trans_eq (Fintype.card_fin n)
  omega

theorem Counted.mutualExclusion (few : n < 2 ^ 31) {s : SpinSharedMutex n} (h : Counted s) :
    MutualExclusion s where
  exclusive i j different isExclusive := by
    have state := h.state
    have limit := s.shared.isLt
    constructor
    · intro another
      have two : 1 < count holdsWriteBit s.points :=
        one_lt_count different (by rw [isExclusive]; rfl) (by rw [another]; rfl)
      omega
    · intro reader
      have drains : 0 < count drained s.points := count_pos_iff.mpr ⟨i, by rw [isExclusive]; rfl⟩
      have reads : 0 < count isShared s.points := count_pos_iff.mpr ⟨j, by rw [reader]; rfl⟩
      have := h.noReader drains
      omega
  readers := by
    have state := h.state
    have limit := s.shared.isLt
    have set := h.writeBit_set_iff few
    rcases Nat.lt_or_ge s.shared.toNat (2 ^ 31) with clear | isSet
    · rw [and_not_writeBit_of_clear clear]
      omega
    · rw [toNat_clear_writeBit isSet]
      have := set.mp isSet
      omega
  writeBit := by
    rw [← count_pos_iff, ← h.writeBit_set_iff few, ne_eq, writeBit_clear_iff, Nat.not_lt]
  noCarry i wantsExclusive counts := by
    have h' := h.turn few i wantsExclusive
    have same : count holdsWriteBit (s.turn advance i wantsExclusive).points =
        count holdsWriteBit s.points := by
      have update := count_update holdsWriteBit s.points i (advance wantsExclusive (s.points i) s.shared).1
      have before : holdsWriteBit (s.points i) = false := by
        rcases counts with here | here | here <;> rw [here] <;> rfl
      have after : holdsWriteBit (advance wantsExclusive (s.points i) s.shared).1 = false := by
        rcases counts with here | here | here
        · rw [here]
          show holdsWriteBit (if s.shared &&& kWriteBit ≠ 0#32 then retreat else shared) = false
          split <;> rfl
        · rw [here]
          rfl
        · rw [here]
          rfl
      rw [before, after] at update
      exact Nat.add_right_cancel update
    have set := h.writeBit_set_iff few
    have set' := h'.writeBit_set_iff few
    rw [same] at set'
    rcases Nat.lt_or_ge s.shared.toNat (2 ^ 31) with clear | isSet
    · have clear' := Nat.lt_of_not_le fun isSet' => Nat.not_le_of_lt clear (set.mpr (set'.mp isSet'))
      rw [writeBit_clear_iff.mpr clear, writeBit_clear_iff.mpr clear']
    · have isSet' := set'.mpr (set.mp isSet)
      rw [and_writeBit_of_set isSet, and_writeBit_of_set isSet']

/-- **Mutual exclusion** after every interleaving of the steps of fewer than 2^31 threads. -/
theorem interleave_mutualExclusion (few : n < 2 ^ 31) (schedule : List (Fin n × Bool)) :
    MutualExclusion ((SpinSharedMutex.create n).interleave advance schedule) := by
  apply Counted.mutualExclusion few
  apply interleave_invariant Counted (counted_create n)
  intro s i wantsExclusive h
  exact h.turn few i wantsExclusive

/-- A writer gets in while a reader retreats. -/
theorem interleave_mutualExclusion_retreating :
    MutualExclusion ((SpinSharedMutex.create 2).interleave advance
      [(0, true), (1, false), (0, false), (1, false), (0, false)]) :=
  interleave_mutualExclusion (by decide) _

end Quickstep.Threading
