import Quickstep.Lib.Monitor
import Quickstep.Threading.SpinSharedMutex

/-!
# The shared mutex

`SharedMutexImplCPP11` of `threading/cpp11/SharedMutex.hpp`: threads lock in exclusive or in shared mode
by critical sections on one mutex, which read and write a word whose top bit is the write bit and whose
other bits count readers. A thread that finds the write bit set waits on the read condition; one that has
set it waits on the write condition until the readers have left.
-/

namespace Quickstep.Threading
open Quickstep.Lib

namespace SharedMutex

/-- The top bit of the state. -/
def kWriteMask : BitVec 32 := 0x80000000#32

/-- The other bits. -/
def kReadersMask : BitVec 32 := ~~~kWriteMask

/-- The two condition variables. -/
inductive Condition where
  | write_condition | read_condition
  deriving DecidableEq

/-- Where a thread stands between two critical sections. -/
inductive Point where
  /-- Not in the mutex. -/
  | outside
  /-- In the first loop of `lock()`. -/
  | lockAwait
  /-- In the second loop of `lock()`, with the write bit. -/
  | drainAwait
  /-- Past `lock()`. -/
  | exclusive
  /-- In the loop of `lockShared()`. -/
  | lockSharedAwait
  /-- Past `lockShared()`. -/
  | shared
  deriving DecidableEq

/-- What a critical section leaves: where the thread goes on, the state, and the signal. -/
abbrev Result := Point × BitVec 32 × Signal Condition

/-- The second loop of `lock()`. -/
def drain (state_ : BitVec 32) : Result :=
  if state_ &&& kReadersMask ≠ 0#32 then (.drainAwait, state_, .none) else (.exclusive, state_, .none)

/-- `lock()`, from its first loop on. -/
def lock (state_ : BitVec 32) : Result :=
  if state_ &&& kWriteMask ≠ 0#32 then (.lockAwait, state_, .none) else drain (state_ ||| kWriteMask)

def unlock : Result := (.outside, 0#32, .all .read_condition)

def lockShared (state_ : BitVec 32) : Result :=
  if state_ &&& kWriteMask ≠ 0#32 then (.lockSharedAwait, state_, .none)
  else (.shared, state_ + 1, .none)

def unlockShared (state_ : BitVec 32) : Result :=
  (.outside, state_ - 1, if state_ - 1 = kWriteMask then .one .write_condition else .none)

/-- The next critical section of a thread. Outside it may ask for either mode, past a lock it unlocks,
and in a loop it tests the state again. -/
def critical (wantsExclusive : Bool) : Point → BitVec 32 → Result
  | .outside, state_ => if wantsExclusive then lock state_ else lockShared state_
  | .lockAwait, state_ => lock state_
  | .drainAwait, state_ => drain state_
  | .exclusive, _ => unlock
  | .lockSharedAwait, state_ => lockShared state_
  | .shared, state_ => unlockShared state_

/-- The `DCHECK` at the head of the next critical section. -/
def dcheck : Point → BitVec 32 → Bool
  | .exclusive, state_ => kWriteMask == state_
  | .shared, state_ => state_ &&& kReadersMask != 0#32
  | .outside, _ | .lockAwait, _ | .drainAwait, _ | .lockSharedAwait, _ => true

def waitsOn : Point → Option Condition
  | .lockAwait | .lockSharedAwait => some .read_condition
  | .drainAwait => some .write_condition
  | .outside | .exclusive | .shared => none

/-- The mutex as a monitor. -/
def monitor : Monitor Bool (BitVec 32) Condition Point := ⟨critical, waitsOn⟩

/-- The thread holds exclusive access or drains the readers for it. -/
def holdsWriteBit : Point → Bool
  | .drainAwait | .exclusive => true
  | .outside | .lockAwait | .lockSharedAwait | .shared => false

def isShared : Point → Bool
  | .shared => true
  | .outside | .lockAwait | .drainAwait | .exclusive | .lockSharedAwait => false

def isExclusive : Point → Bool
  | .exclusive => true
  | .outside | .lockAwait | .drainAwait | .lockSharedAwait | .shared => false

end SharedMutex

/-- The mutex with `n` threads. -/
abbrev SharedMutex (n : Nat) := Threads (Fin n) (BitVec 32) (Place SharedMutex.Point)

namespace SharedMutex

/-- The constructor: no thread is in the mutex. -/
def create (n : Nat) : SharedMutex n := ⟨0#32, fun _ => ⟨.outside, false⟩⟩

/-! ## The invariant -/

open Threads

/-- What keeps a thread waiting. -/
def Blocked : Condition → BitVec 32 → Prop
  | .write_condition, state_ => state_ &&& kReadersMask ≠ 0#32
  | .read_condition, state_ => state_ &&& kWriteMask ≠ 0#32

variable {n : Nat}

/-- The state counts the threads at their points, and no reader is left where a writer is in. -/
structure Counted (s : Threads (Fin n) (BitVec 32) Point) : Prop where
  state : s.shared.toNat = 2 ^ 31 * count holdsWriteBit s.points + count isShared s.points
  noReader : 0 < count isExclusive s.points → count isShared s.points = 0

theorem readers_clear_iff {state_ : BitVec 32} :
    state_ &&& kReadersMask = 0#32 ↔ state_.toNat = 0 ∨ state_.toNat = 2 ^ 31 := by
  have limit := state_.isLt
  have zero : (0#32).toNat = 0 := rfl
  rw [show kReadersMask = ~~~kWriteBit from rfl, ← BitVec.toNat_inj, zero]
  rcases Nat.lt_or_ge state_.toNat (2 ^ 31) with clear | set
  · rw [and_not_writeBit_of_clear clear]
    omega
  · rw [toNat_clear_writeBit set]
    omega

theorem write_clear_iff {state_ : BitVec 32} : state_ &&& kWriteMask = 0#32 ↔ state_.toNat < 2 ^ 31 :=
  writeBit_clear_iff

theorem isExclusive_iff {point : Point} : isExclusive point = true ↔ point = .exclusive := by
  cases point <;> simp [isExclusive]

theorem isShared_iff {point : Point} : isShared point = true ↔ point = .shared := by
  cases point <;> simp [isShared]

namespace Counted

variable {s : Threads (Fin n) (BitVec 32) Point} {i : Fin n} {point : Point} {state_ : BitVec 32}

/-- One thread moves on. The state changes by what its points count; it enters exclusively only when no
reader is left, and becomes a reader only when nobody is in exclusively. -/
theorem update (h : Counted s)
    (change : state_.toNat + 2 ^ 31 * (holdsWriteBit (s.points i)).toNat +
      (isShared (s.points i)).toNat =
      s.shared.toNat + 2 ^ 31 * (holdsWriteBit point).toNat + (isShared point).toNat)
    (enters : point = .exclusive → count isShared s.points = 0)
    (reads : point = .shared → count isExclusive s.points = 0) :
    Counted ⟨state_, Function.update s.points i point⟩ := by
  have holders := count_update holdsWriteBit s.points i point
  have readers := count_update isShared s.points i point
  have writers := count_update isExclusive s.points i point
  have before := h.state
  refine ⟨?_, fun someWriter => ?_⟩
  · show state_.toNat = 2 ^ 31 * count holdsWriteBit (Function.update s.points i point) +
      count isShared (Function.update s.points i point)
    omega
  replace someWriter : 0 < count isExclusive (Function.update s.points i point) := someWriter
  show count isShared (Function.update s.points i point) = 0
  by_cases newWriter : point = .exclusive
  · have none := enters newWriter
    rw [newWriter, show (isShared .exclusive).toNat = 0 from rfl] at readers
    rw [newWriter]
    omega
  rw [Bool.eq_false_iff.mpr (newWriter ∘ isExclusive_iff.mp), Bool.toNat_false] at writers
  by_cases newReader : point = .shared
  · have none := reads newReader
    omega
  · rw [Bool.eq_false_iff.mpr (newReader ∘ isShared_iff.mp), Bool.toNat_false] at readers
    have none := h.noReader (by omega)
    omega

/-- One thread moves to where it is not in. -/
theorem update_waiting (h : Counted s) (notIn : point ≠ .exclusive ∧ point ≠ .shared)
    (change : state_.toNat + 2 ^ 31 * (holdsWriteBit (s.points i)).toNat +
      (isShared (s.points i)).toNat =
      s.shared.toNat + 2 ^ 31 * (holdsWriteBit point).toNat + (isShared point).toNat) :
    Counted ⟨state_, Function.update s.points i point⟩ := by
  apply h.update change
  · exact fun same => absurd same notIn.1
  · exact fun same => absurd same notIn.2

theorem holder_pos (here : holdsWriteBit (s.points i) = true) : 0 < count holdsWriteBit s.points := by
  rw [count_pos_iff]
  exact ⟨i, here⟩

/-- The writer that is in is the only thread that the state counts. -/
theorem state_of_exclusive (h : Counted s) (here : s.points i = .exclusive) :
    s.shared.toNat = 2 ^ 31 ∧ count holdsWriteBit s.points = 1 ∧ count isShared s.points = 0 := by
  have state := h.state
  have limit := s.shared.isLt
  have holder : 0 < count holdsWriteBit s.points := holder_pos (by rw [here]; rfl)
  have writer : 0 < count isExclusive s.points := by
    rw [count_pos_iff]
    exact ⟨i, isExclusive_iff.mpr here⟩
  have noReader := h.noReader writer
  omega

/-- In the second loop of `lock()` a thread has the write bit, and it enters when no reader is left. -/
theorem drain (h : Counted s) (set : 2 ^ 31 ≤ state_.toNat)
    (change : state_.toNat + 2 ^ 31 * (holdsWriteBit (s.points i)).toNat +
      (isShared (s.points i)).toNat = s.shared.toNat + 2 ^ 31)
    (readers : count isShared s.points + 2 ^ 31 = state_.toNat) :
    Counted ⟨(SharedMutex.drain state_).2.1, Function.update s.points i (SharedMutex.drain state_).1⟩ := by
  unfold SharedMutex.drain
  have counted (point : Point) (holds : holdsWriteBit point = true) (notReader : isShared point = false) :
      state_.toNat + 2 ^ 31 * (holdsWriteBit (s.points i)).toNat + (isShared (s.points i)).toNat =
        s.shared.toNat + 2 ^ 31 * (holdsWriteBit point).toNat + (isShared point).toNat := by
    rw [holds, notReader, change, Bool.toNat_true, Bool.toNat_false, Nat.mul_one, Nat.add_zero]
  by_cases clear : state_ &&& kReadersMask = 0#32
  · rw [if_neg (not_not_intro clear)]
    apply h.update
    · exact counted .exclusive rfl rfl
    · intro _
      rcases readers_clear_iff.mp clear with zero | only
      · omega
      · omega
    · exact nofun
  · rw [if_pos clear]
    apply h.update_waiting
    · exact ⟨nofun, nofun⟩
    · exact counted .drainAwait rfl rfl

theorem lock (h : Counted s) (noHolder : holdsWriteBit (s.points i) = false)
    (noReader : isShared (s.points i) = false) :
    Counted ⟨(SharedMutex.lock s.shared).2.1,
      Function.update s.points i (SharedMutex.lock s.shared).1⟩ := by
  have state := h.state
  unfold SharedMutex.lock
  by_cases clear : s.shared &&& kWriteMask = 0#32
  · rw [if_neg (not_not_intro clear)]
    have low := write_clear_iff.mp clear
    have set : (s.shared ||| kWriteMask).toNat = 2 ^ 31 + s.shared.toNat := toNat_or_writeBit low
    apply h.drain
    · omega
    · rw [noHolder, noReader, set]
      simp only [Bool.toNat_false]
      omega
    · omega
  · rw [if_pos clear]
    apply h.update_waiting
    · exact ⟨nofun, nofun⟩
    · rw [noHolder, noReader]
      rfl

theorem lockShared (h : Counted s) (few : n < 2 ^ 31) (noHolder : holdsWriteBit (s.points i) = false)
    (noReader : isShared (s.points i) = false) :
    Counted ⟨(SharedMutex.lockShared s.shared).2.1,
      Function.update s.points i (SharedMutex.lockShared s.shared).1⟩ := by
  have state := h.state
  have room := count_lt_card noReader
  rw [Fintype.card_fin] at room
  unfold SharedMutex.lockShared
  by_cases clear : s.shared &&& kWriteMask = 0#32
  · rw [if_neg (not_not_intro clear)]
    have low := write_clear_iff.mp clear
    have increment : (s.shared + 1).toNat = s.shared.toNat + 1 := by
      rw [BitVec.toNat_add]
      apply Nat.mod_eq_of_lt
      rw [show (1 : BitVec 32).toNat = 1 from rfl]
      omega
    apply h.update
    · rw [noHolder, noReader, increment]
      simp only [holdsWriteBit, isShared, Bool.toNat_false, Bool.toNat_true]
      omega
    · exact nofun
    · intro _
      have writers : count isExclusive s.points ≤ count holdsWriteBit s.points := by
        apply count_le_count
        intro point isWriter
        rw [isExclusive_iff.mp isWriter]
        rfl
      omega
  · rw [if_pos clear]
    apply h.update_waiting
    · exact ⟨nofun, nofun⟩
    · rw [noHolder, noReader]
      rfl

/-- **One critical section** keeps the count. -/
theorem critical (h : Counted s) (few : n < 2 ^ 31) (i : Fin n) (wantsExclusive : Bool) :
    Counted ⟨(SharedMutex.critical wantsExclusive (s.points i) s.shared).2.1,
      Function.update s.points i (SharedMutex.critical wantsExclusive (s.points i) s.shared).1⟩ := by
  have state := h.state
  cases here : s.points i with
  | outside =>
    cases wantsExclusive with
    | true => exact h.lock (by rw [here]; rfl) (by rw [here]; rfl)
    | false => exact h.lockShared few (by rw [here]; rfl) (by rw [here]; rfl)
  | lockAwait => exact h.lock (by rw [here]; rfl) (by rw [here]; rfl)
  | lockSharedAwait => exact h.lockShared few (by rw [here]; rfl) (by rw [here]; rfl)
  | drainAwait =>
    have limit := s.shared.isLt
    have holder : 0 < count holdsWriteBit s.points := holder_pos (by rw [here]; rfl)
    apply h.drain
    · omega
    · rw [here]
      simp only [holdsWriteBit, isShared, Bool.toNat_true, Bool.toNat_false]
      omega
    · omega
  | exclusive =>
    have only := h.state_of_exclusive here
    apply h.update_waiting
    · exact ⟨nofun, nofun⟩
    · rw [here, only.1]
      simp only [SharedMutex.critical, unlock, holdsWriteBit, isShared, Bool.toNat_true,
        Bool.toNat_false, BitVec.toNat_ofNat]
      omega
  | shared =>
    have reader : 0 < count isShared s.points := by
      rw [count_pos_iff]
      exact ⟨i, by rw [here]; rfl⟩
    have decrement : (s.shared - 1).toNat = s.shared.toNat - 1 := toNat_sub_one (by omega)
    apply h.update_waiting
    · exact ⟨nofun, nofun⟩
    · rw [here]
      simp only [SharedMutex.critical, unlockShared, holdsWriteBit, isShared, Bool.toNat_true,
        Bool.toNat_false]
      omega

/-- A thread with the write bit is the only one. -/
theorem holder_unique (h : Counted s) {j k : Fin n} (first : holdsWriteBit (s.points j) = true)
    (second : holdsWriteBit (s.points k) = true) : j = k := by
  by_contra different
  have two := one_lt_count different first second
  have state := h.state
  have limit := s.shared.isLt
  omega

/-- The write bit is set exactly while a thread has it. -/
theorem write_set_iff (h : Counted s) (few : n < 2 ^ 31) :
    2 ^ 31 ≤ s.shared.toNat ↔ 0 < count holdsWriteBit s.points := by
  have state := h.state
  have limit : count isShared s.points ≤ n := by
    unfold count
    exact (Finset.card_le_univ _).trans_eq (Fintype.card_fin n)
  omega

end Counted

/-! ## Wakeups -/

theorem lock_state (state_ : BitVec 32) : (lock state_).2.1 = state_ ||| kWriteMask := by
  unfold lock drain
  by_cases clear : state_ &&& kWriteMask = 0#32
  · rw [if_neg (not_not_intro clear)]
    split <;> rfl
  · rw [if_pos clear]
    have set := Nat.le_of_not_lt (clear ∘ write_clear_iff.mpr)
    exact (or_writeBit_of_set set).symm

theorem drain_state (state_ : BitVec 32) : (drain state_).2.1 = state_ := by
  unfold drain
  split <;> rfl

/-- The write bit blocks nobody less. -/
theorem Blocked.set_write {condition : Condition} {state_ : BitVec 32} (h : Blocked condition state_) :
    Blocked condition (state_ ||| kWriteMask) := by
  rcases Nat.lt_or_ge state_.toNat (2 ^ 31) with clear | set
  · have sum : (state_ ||| kWriteMask).toNat = 2 ^ 31 + state_.toNat := toNat_or_writeBit clear
    cases condition with
    | write_condition =>
      intro noReader
      apply h
      rw [readers_clear_iff] at noReader ⊢
      omega
    | read_condition => exact absurd (write_clear_iff.mpr clear) h
  · rw [show state_ ||| kWriteMask = state_ from or_writeBit_of_set set]
    exact h

/-- A section starts to wait only for what blocks it. -/
theorem blocked_of_waitsOn {wantsExclusive : Bool} {point : Point} {state_ : BitVec 32}
    {condition : Condition}
    (waits : waitsOn (critical wantsExclusive point state_).1 = some condition) :
    Blocked condition (critical wantsExclusive point state_).2.1 := by
  have drains (state_ : BitVec 32) (waits : waitsOn (drain state_).1 = some condition) :
      Blocked condition (drain state_).2.1 := by
    unfold drain at waits ⊢
    split at waits
    · next readers =>
      cases waits
      rw [if_pos readers]
      exact readers
    · cases waits
  have locks (waits : waitsOn (lock state_).1 = some condition) :
      Blocked condition (lock state_).2.1 := by
    unfold lock at waits ⊢
    split at waits
    · next set =>
      cases waits
      rw [if_pos set]
      exact set
    · next clear =>
      rw [if_neg clear]
      exact drains _ waits
  have locksShared (waits : waitsOn (lockShared state_).1 = some condition) :
      Blocked condition (lockShared state_).2.1 := by
    unfold lockShared at waits ⊢
    split at waits
    · next set =>
      cases waits
      rw [if_pos set]
      exact set
    · cases waits
  cases point with
  | outside =>
    cases wantsExclusive with
    | true => exact locks waits
    | false => exact locksShared waits
  | lockAwait => exact locks waits
  | drainAwait => exact drains _ waits
  | lockSharedAwait => exact locksShared waits
  | exclusive | shared => cases waits

/-- The thread that sleeps on the write condition has the write bit. -/
theorem holdsWriteBit_of_sleepsOn {places : Fin n → Place Point} {j : Fin n}
    (sleeps : monitor.SleepsOn places j .write_condition) : holdsWriteBit (places j).point = true := by
  have waits : waitsOn (places j).point = some .write_condition := sleeps.2
  cases here : (places j).point <;> rw [here] at waits <;> first | rfl | cases waits

/-- A section signals what it unblocks: to all, or to one where only one can sleep on it. -/
theorem signals_of_counted {s : SharedMutex n} (h : Counted (Monitor.program s)) (few : n < 2 ^ 31)
    (i : Fin n) (wantsExclusive : Bool) {j : Fin n} {condition : Condition}
    (sleeps : monitor.SleepsOn s.points j condition) (blocked : Blocked condition s.shared) :
    Blocked condition (critical wantsExclusive (s.points i).point s.shared).2.1 ∨
      (critical wantsExclusive (s.points i).point s.shared).2.2 = .all condition ∨
      (critical wantsExclusive (s.points i).point s.shared).2.2 = .one condition ∧
        waitsOn (critical wantsExclusive (s.points i).point s.shared).1 ≠ some condition ∧
        ∀ k, k ≠ i → monitor.SleepsOn s.points k condition → k = j := by
  have state : s.shared.toNat = _ := h.state
  have locks : Blocked condition (lock s.shared).2.1 := by
    rw [lock_state]
    exact blocked.set_write
  have locksShared (notReader : isShared (s.points i).point = false) :
      Blocked condition (lockShared s.shared).2.1 := by
    unfold lockShared
    by_cases clear : s.shared &&& kWriteMask = 0#32
    · rw [if_neg (not_not_intro clear)]
      have low := write_clear_iff.mp clear
      have room := @count_lt_card _ _ _ isShared (Monitor.program s).points i notReader
      rw [Fintype.card_fin] at room
      cases condition with
      | read_condition => exact absurd clear blocked
      | write_condition =>
        show s.shared + 1 &&& kReadersMask ≠ 0#32
        rw [ne_eq, readers_clear_iff, BitVec.toNat_add, show (1 : BitVec 32).toNat = 1 from rfl]
        omega
    · rw [if_pos clear]
      exact blocked
  cases here : (s.points i).point with
  | outside =>
    cases wantsExclusive with
    | true => exact .inl locks
    | false => exact .inl (locksShared (by rw [here]; rfl))
  | lockAwait => exact .inl locks
  | lockSharedAwait => exact .inl (locksShared (by rw [here]; rfl))
  | drainAwait =>
    left
    show Blocked condition (drain s.shared).2.1
    rw [drain_state]
    exact blocked
  | exclusive =>
    cases condition with
    | read_condition => exact .inr (.inl rfl)
    | write_condition =>
      -- No reader is left, so nobody drains.
      have only := h.state_of_exclusive here
      exact absurd (readers_clear_iff.mpr (.inr only.1)) blocked
  | shared =>
    have reader : 0 < count isShared (Monitor.program s).points := by
      rw [count_pos_iff]
      exact ⟨i, isShared_iff.mpr here⟩
    have decrement : (s.shared - 1).toNat = s.shared.toNat - 1 := toNat_sub_one (by omega)
    cases condition with
    | read_condition =>
      left
      show s.shared - 1 &&& kWriteMask ≠ 0#32
      have set := Nat.le_of_not_lt (blocked ∘ write_clear_iff.mpr)
      have holder := (h.write_set_iff few).mp set
      rw [ne_eq, write_clear_iff]
      omega
    | write_condition =>
      have holder := holdsWriteBit_of_sleepsOn sleeps
      have positive : 0 < count holdsWriteBit (Monitor.program s).points :=
        Counted.holder_pos (i := j) holder
      by_cases last : s.shared - 1 = kWriteMask
      · right
        right
        refine ⟨if_pos last, nofun, fun k _ another => ?_⟩
        exact h.holder_unique (holdsWriteBit_of_sleepsOn another) holder
      · left
        show s.shared - 1 &&& kReadersMask ≠ 0#32
        rw [ne_eq, readers_clear_iff]
        rintro (none | only)
        · omega
        · exact last (BitVec.eq_of_toNat_eq only)

/-! ## What the mutex is for -/

/-- The count, and that threads sleep only for what blocks them. -/
structure Invariant (s : SharedMutex n) : Prop where
  counted : Counted (Monitor.program s)
  blocked : ∀ j condition, monitor.SleepsOn s.points j condition → Blocked condition s.shared

theorem invariant_create (n : Nat) : Invariant (create n) where
  counted := by
    have none (selected : Point → Bool) (out : selected .outside = false) :
        count selected (Monitor.program (create n)).points = 0 := by
      apply Nat.eq_zero_of_not_pos
      rw [count_pos_iff]
      rintro ⟨i, isSelected⟩
      exact Bool.false_ne_true (out.symm.trans isSelected)
    refine ⟨?_, fun _ => none isShared rfl⟩
    rw [none holdsWriteBit rfl, none isShared rfl]
    rfl
  blocked j condition sleeps := absurd sleeps.1 Bool.false_ne_true

/-- **One step** keeps the invariant. -/
theorem Invariant.step (few : n < 2 ^ 31) {s s' : SharedMutex n} (step : monitor.Step s s')
    (h : Invariant s) : Invariant s' where
  counted := by
    rcases step.program_eq with same | ⟨i, wantsExclusive, _, moved⟩
    · rw [same]
      exact h.counted
    · rw [moved]
      exact h.counted.critical few i wantsExclusive
  blocked := by
    refine step.noLostWakeup ?_ ?_ h.blocked
    · intro i wantsExclusive condition _ waits
      exact blocked_of_waitsOn waits
    · intro i wantsExclusive j condition _ _ sleeps blocked
      exact signals_of_counted h.counted few i wantsExclusive sleeps blocked

/-- What holds in every reachable state: exclusion by a writer, a state that says who is in, the checks,
and no thread that sleeps on a condition without a reason to. -/
structure Correct (s : SharedMutex n) : Prop where
  exclusive : ∀ i j, i ≠ j → (s.points i).point = .exclusive →
    (s.points j).point ≠ .exclusive ∧ (s.points j).point ≠ .shared
  readers : (s.shared &&& kReadersMask).toNat = count isShared (Monitor.program s).points
  writeBit : s.shared &&& kWriteMask ≠ 0#32 ↔ ∃ i, holdsWriteBit (s.points i).point = true
  dchecks : ∀ i, dcheck (s.points i).point s.shared = true
  writeCondition : ∀ i, monitor.SleepsOn s.points i .write_condition →
    count isShared (Monitor.program s).points ≠ 0
  readCondition : ∀ i, monitor.SleepsOn s.points i .read_condition → s.shared &&& kWriteMask ≠ 0#32

theorem Counted.readers_toNat {s : Threads (Fin n) (BitVec 32) Point} (h : Counted s)
    (few : n < 2 ^ 31) : (s.shared &&& kReadersMask).toNat = count isShared s.points := by
  have state := h.state
  have limit := s.shared.isLt
  have set := h.write_set_iff few
  rw [show kReadersMask = ~~~kWriteBit from rfl]
  rcases Nat.lt_or_ge s.shared.toNat (2 ^ 31) with clear | isSet
  · rw [and_not_writeBit_of_clear clear]
    omega
  · rw [toNat_clear_writeBit isSet]
    have holder := set.mp isSet
    omega

theorem Invariant.correct (few : n < 2 ^ 31) {s : SharedMutex n} (h : Invariant s) : Correct s where
  exclusive i j different isExclusive := by
    have only := h.counted.state_of_exclusive isExclusive
    constructor
    · intro another
      have two : 1 < count holdsWriteBit (Monitor.program s).points := by
        apply one_lt_count different
        · exact congrArg holdsWriteBit isExclusive
        · exact congrArg holdsWriteBit another
      omega
    · intro reader
      have reads : 0 < count isShared (Monitor.program s).points := by
        rw [count_pos_iff]
        exact ⟨j, isShared_iff.mpr reader⟩
      omega
  readers := h.counted.readers_toNat few
  writeBit := by
    rw [ne_eq, write_clear_iff, Nat.not_lt]
    exact (h.counted.write_set_iff few).trans count_pos_iff
  dchecks i := by
    cases here : (s.points i).point with
    | exclusive =>
      have only := h.counted.state_of_exclusive here
      have same : kWriteMask = s.shared := BitVec.eq_of_toNat_eq only.1.symm
      exact beq_iff_eq.mpr same
    | shared =>
      have reader : 0 < count isShared (Monitor.program s).points := by
        rw [count_pos_iff]
        exact ⟨i, isShared_iff.mpr here⟩
      have readers : (s.shared &&& kReadersMask).toNat = _ := h.counted.readers_toNat few
      apply bne_iff_ne.mpr
      intro clear
      rw [clear, BitVec.toNat_ofNat] at readers
      omega
    | outside | lockAwait | drainAwait | lockSharedAwait => rfl
  writeCondition i sleeps := by
    have blocked : s.shared &&& kReadersMask ≠ 0#32 := h.blocked i .write_condition sleeps
    rw [← h.counted.readers_toNat few]
    intro zero
    exact blocked (BitVec.eq_of_toNat_eq zero)
  readCondition i sleeps := h.blocked i .read_condition sleeps

/-- **The shared mutex is correct** after every run of fewer than 2^31 threads. -/
theorem run_correct (few : n < 2 ^ 31) {s : SharedMutex n} (run : monitor.Run (create n) s) :
    Correct s := by
  apply Invariant.correct few
  apply run.invariant
  · intro s s' step h
    exact h.step few step
  · exact invariant_create n

/-- A reader is in, and a writer that asks for the mutex sleeps until it has left. -/
theorem run_correct_draining : ∃ s : SharedMutex 2, monitor.Run (create 2) s ∧
    monitor.SleepsOn s.points 1 .write_condition ∧ Correct s := by
  have reader := Monitor.Step.enter (m := monitor) (create 2) 0 false (fun _ => false) rfl (fun _ => rfl)
  have writer := Monitor.Step.enter (m := monitor)
    ⟨1#32, Monitor.wake (fun _ => false) (monitor.arrive (create 2) 0 false)⟩ 1 true (fun _ => false)
    rfl (fun _ => rfl)
  have run := (Relation.ReflTransGen.single reader).tail writer
  exact ⟨_, run, ⟨rfl, rfl⟩, run_correct (by decide) run⟩

end SharedMutex

end Quickstep.Threading
