import Quickstep.Lib.Interleaving

/-!
# Sharded locks

`ShardedLockManager` of `utility/ShardedLockManager.hpp` maps keys to a fixed number of mutexes, and
counts the gets of each of them that are not yet released. Threads call `get` and `release`; each
critical section on `shard_count_mutex_` is one step, so that a get that checks for a collision takes
two, with the steps of other threads between them.
-/

namespace Quickstep.Utility
open Quickstep.Lib

/-- The hash of the keys, and the number of shards. -/
structure ShardedLockManager (T : Type) where
  hash_ : T → BitVec 64
  N : Nat
  positive : 0 < N

/-- `&sharded_mutexes_[shard]` or `&collision_mutex_`. -/
inductive ReturnedMutex where
  | own
  | collision
  deriving DecidableEq

/-- What a thread may call. A get with `has_collision` checks for a collision. -/
inductive LockRequest (T : Type) where
  | get (key : T) (hasCollision : Bool)
  | release (key : T)

/-- Where a thread stands between two critical sections. -/
inductive LockStage (T : Type) where
  | idle
  /-- In a get with `has_collision`, before the section under the shared lock. -/
  | checking (key : T)
  /-- In a get, before the section under the exclusive lock. -/
  | inserting (key : T) (hasCollision : Bool)
  | returned (key : T) (mutex : ReturnedMutex)
  /-- In a release, before its section. -/
  | releasing (key : T)
  /-- A release did not find its shard. -/
  | undefined

/-- `shard_count_`, and the keys of the gets that have returned the mutex of their shard and for which
`release` is not called yet; the keys play no part in what the program does. -/
structure Shards (T : Type) where
  shardCount : Nat → Option (BitVec 64)
  unreleased : List T

namespace ShardedLockManager

variable {T : Type} (locks : ShardedLockManager T)

/-- `hash_(key) % N`. -/
def shard (key : T) : Nat := (locks.hash_ key).toNat % locks.N

/-- The shard is in the array of mutexes. -/
theorem shard_lt (key : T) : locks.shard key < locks.N := Nat.mod_lt _ locks.positive

/-- The section of `get` under the shared lock. -/
def checkShard (key : T) (shards : Shards T) : LockStage T × Shards T :=
  if (shards.shardCount (locks.shard key)).isSome then (.returned key .collision, shards)
  else (.inserting key true, shards)

/-- The shard has a count and one more un-released get. -/
def countShard (key : T) (count : BitVec 64) (shards : Shards T) : LockStage T × Shards T :=
  (.returned key .own,
    { shardCount := Function.update shards.shardCount (locks.shard key) (some count)
      unreleased := key :: shards.unreleased })

/-- The section of `get` under the exclusive lock. -/
def insertShard (key : T) (hasCollision : Bool) (shards : Shards T) : LockStage T × Shards T :=
  match shards.shardCount (locks.shard key) with
  | some count =>
    if hasCollision then (.returned key .collision, shards)
    else locks.countShard key (count + 1) shards
  | none => locks.countShard key 1 shards

/-- The section of `release`. -/
def releaseShard (key : T) (shards : Shards T) : LockStage T × Shards T :=
  match shards.shardCount (locks.shard key) with
  | some count =>
    (.idle,
      { shards with
        shardCount := Function.update shards.shardCount (locks.shard key)
          (if count - 1 = 0 then none else some (count - 1)) })
  | none => (.undefined, shards)

/-- The next step of a thread. Any thread may release a get, once. -/
def advance [DecidableEq T] : LockRequest T → LockStage T → Shards T → LockStage T × Shards T
  | .get key hasCollision, .idle, shards =>
    (if hasCollision then .checking key else .inserting key false, shards)
  | .release key, .idle, shards =>
    if key ∈ shards.unreleased then
      (.releasing key, { shards with unreleased := shards.unreleased.erase key })
    else (.idle, shards)
  | _, .checking key, shards => locks.checkShard key shards
  | _, .inserting key hasCollision, shards => locks.insertShard key hasCollision shards
  | _, .returned _ _, shards => (.idle, shards)
  | _, .releasing key, shards => locks.releaseShard key shards
  | _, .undefined, shards => (.undefined, shards)

section

variable [DecidableEq T] {locks} (request : LockRequest T) {key : T} {shards : Shards T}

/-! Within a call the request plays no part. -/

theorem advance_checking :
    locks.advance request (.checking key) shards = locks.checkShard key shards := by
  cases request <;> rfl

theorem advance_inserting {hasCollision : Bool} :
    locks.advance request (.inserting key hasCollision) shards =
      locks.insertShard key hasCollision shards := by
  cases request <;> rfl

theorem advance_returned {mutex : ReturnedMutex} :
    locks.advance request (.returned key mutex) shards = (.idle, shards) := by
  cases request <;> rfl

theorem advance_releasing :
    locks.advance request (.releasing key) shards = locks.releaseShard key shards := by
  cases request <;> rfl

end

end ShardedLockManager

/-- A lock manager and the threads that use it. -/
abbrev LockThreads (ι T : Type) := Threads ι (Shards T) (LockStage T)

namespace ShardedLockManager

open Threads

variable {ι T : Type} [Fintype ι] [DecidableEq ι] (locks : ShardedLockManager T)

/-- The constructor: no shard has a count, and no thread is in a call. -/
def create : LockThreads ι T := ⟨⟨fun _ => none, []⟩, fun _ => .idle⟩

def isReleasing (shard : Nat) : LockStage T → Bool
  | .releasing key => locks.shard key == shard
  | .idle | .checking _ | .inserting _ _ | .returned _ _ | .undefined => false

/-- How many gets that returned the mutex of the shard are not yet released: `release` is not called,
or has not got to its section. -/
def references (s : LockThreads ι T) (shard : Nat) : Nat :=
  s.shared.unreleased.countP (fun key => locks.shard key == shard) +
    count (locks.isReleasing shard) s.points

/-- The entry of `shard_count_` that stands for a number of gets. -/
def entryOf (number : Nat) : Option (BitVec 64) :=
  if number = 0 then none else some (BitVec.ofNat 64 number)

/-- Each shard has the entry of its gets, and every release has found its shard. -/
structure Counted (s : LockThreads ι T) : Prop where
  entry : ∀ shard, s.shared.shardCount shard = entryOf (locks.references s shard)
  defined : ∀ i, s.points i ≠ .undefined

/-! ## One step -/

section Steps

variable {locks : ShardedLockManager T} {s : LockThreads ι T} {i : ι} {stage : LockStage T}
  {shards : Shards T} {key : T} {shard : Nat}

/-- The state when one thread has moved on. -/
def moved (s : LockThreads ι T) (i : ι) (stage : LockStage T) (shards : Shards T) : LockThreads ι T :=
  ⟨shards, Function.update s.points i stage⟩

omit [Fintype ι] in
theorem turn_eq [DecidableEq T] (request : LockRequest T) :
    s.turn locks.advance i request =
      moved s i (locks.advance request (s.points i) s.shared).1
        (locks.advance request (s.points i) s.shared).2 := rfl

/-- The gets of a shard change by the keys of the list and by the release that begins or ends. -/
theorem references_moved (shard : Nat) :
    locks.references (moved s i stage shards) shard + (locks.isReleasing shard (s.points i)).toNat +
        s.shared.unreleased.countP (fun key => locks.shard key == shard) =
      locks.references s shard + (locks.isReleasing shard stage).toNat +
        shards.unreleased.countP (fun key => locks.shard key == shard) := by
  have points := count_update (locks.isReleasing shard) s.points i stage
  unfold references moved
  dsimp only
  omega

/-- A step that neither begins nor ends a release, and leaves the list as it is. -/
theorem references_same (before : ∀ shard, locks.isReleasing shard (s.points i) = false)
    (after : ∀ shard, locks.isReleasing shard stage = false)
    (keys : shards.unreleased = s.shared.unreleased) (shard : Nat) :
    locks.references (moved s i stage shards) shard = locks.references s shard := by
  have change := @references_moved _ _ _ _ locks s i stage shards shard
  rw [before shard, after shard, keys] at change
  omega

omit [Fintype ι] in
theorem moved_defined (before : ∀ j, s.points j ≠ .undefined) (defined : stage ≠ .undefined) (j : ι) :
    (moved s i stage shards).points j ≠ .undefined := by
  unfold moved
  dsimp only
  by_cases same : j = i
  · rw [same, Function.update_self]
    exact defined
  · rw [Function.update_of_ne same]
    exact before j

/-- A step that leaves every count as it is. -/
theorem Counted.keep (h : locks.Counted s) (defined : stage ≠ .undefined)
    (counts : shards.shardCount = s.shared.shardCount)
    (same : ∀ shard, locks.references (moved s i stage shards) shard = locks.references s shard) :
    locks.Counted (moved s i stage shards) := by
  refine ⟨fun shard => ?_, moved_defined h.defined defined⟩
  rw [same, ← h.entry]
  exact congrFun counts shard

/-- A step that changes the gets of one shard, and its entry with them. -/
theorem Counted.change (h : locks.Counted s) (shard : Nat) (defined : stage ≠ .undefined)
    (counts : shards.shardCount = Function.update s.shared.shardCount shard
      (entryOf (locks.references (moved s i stage shards) shard)))
    (others : ∀ other, other ≠ shard →
      locks.references (moved s i stage shards) other = locks.references s other) :
    locks.Counted (moved s i stage shards) := by
  refine ⟨fun other => ?_, moved_defined h.defined defined⟩
  have stored : (moved s i stage shards).shared.shardCount = shards.shardCount := rfl
  rw [stored, counts]
  by_cases same : other = shard
  · rw [same, Function.update_self]
  · rw [Function.update_of_ne same, others other same, h.entry]

/-- The entry of one get less. -/
theorem entryOf_less {number : Nat} (few : number + 1 < 2 ^ 64) :
    (if BitVec.ofNat 64 (number + 1) - 1 = 0 then none
      else some (BitVec.ofNat 64 (number + 1) - 1)) = entryOf number := by
  have less : BitVec.ofNat 64 (number + 1) - 1 = BitVec.ofNat 64 number := by
    rw [BitVec.ofNat_add]
    exact BitVec.add_sub_cancel _ _
  have zero : BitVec.ofNat 64 number = 0 ↔ number = 0 := by
    rw [← BitVec.toNat_inj, BitVec.toNat_ofNat, Nat.mod_eq_of_lt (by omega)]
    rfl
  rw [less]
  exact if_congr zero rfl rfl

/-- A get that returns the mutex of its shard is one more get of this shard. -/
theorem references_counted {count : BitVec 64} (inserting : ∀ shard, locks.isReleasing shard (s.points i) = false)
    (shard : Nat) :
    locks.references (moved s i (locks.countShard key count s.shared).1
      (locks.countShard key count s.shared).2) shard =
      locks.references s shard + (if locks.shard key = shard then 1 else 0) := by
  have change := @references_moved _ _ _ _ locks s i (locks.countShard key count s.shared).1
    (locks.countShard key count s.shared).2 shard
  rw [inserting shard] at change
  simp only [countShard, isReleasing, Bool.toNat_false, List.countP_cons, beq_iff_eq] at change ⊢
  omega

/-- **A get that returns the mutex of its shard** keeps the counts. -/
theorem Counted.countShard {count : BitVec 64} (h : locks.Counted s)
    (inserting : ∀ shard, locks.isReleasing shard (s.points i) = false)
    (count_eq : count = BitVec.ofNat 64 (locks.references s (locks.shard key) + 1)) :
    locks.Counted (moved s i (locks.countShard key count s.shared).1
      (locks.countShard key count s.shared).2) := by
  apply h.change (locks.shard key)
  · exact nofun
  · rw [references_counted inserting, if_pos rfl, entryOf, if_neg (Nat.succ_ne_zero _), ← count_eq]
    rfl
  · intro other different
    rw [references_counted inserting, if_neg (Ne.symm different), Nat.add_zero]

/-- The section of a get under the exclusive lock keeps the counts. -/
theorem Counted.insertShard {hasCollision : Bool} (h : locks.Counted s)
    (here : s.points i = .inserting key hasCollision) :
    locks.Counted (moved s i (locks.insertShard key hasCollision s.shared).1
      (locks.insertShard key hasCollision s.shared).2) := by
  have inserting (shard : Nat) : locks.isReleasing shard (s.points i) = false := by rw [here]; rfl
  have entry := h.entry (locks.shard key)
  unfold ShardedLockManager.insertShard
  cases present : s.shared.shardCount (locks.shard key) with
  | none =>
    have nobody : locks.references s (locks.shard key) = 0 := by
      by_contra some
      rw [present, entryOf, if_neg some] at entry
      cases entry
    exact h.countShard inserting (by rw [nobody]; rfl)
  | some count =>
    have counted : count = BitVec.ofNat 64 (locks.references s (locks.shard key)) := by
      rw [present, entryOf] at entry
      split at entry
      · cases entry
      · exact Option.some.inj entry
    cases hasCollision with
    | true => exact h.keep nofun rfl (references_same inserting (fun _ => rfl) rfl)
    | false =>
      refine h.countShard inserting ?_
      rw [counted, BitVec.ofNat_add]
      rfl

/-- **A release finds its shard**, and takes one get off its count. -/
theorem Counted.releaseShard (h : locks.Counted s) (here : s.points i = .releasing key)
    (few : locks.references s (locks.shard key) < 2 ^ 64) :
    (∃ count, s.shared.shardCount (locks.shard key) = some count ∧ count ≠ 0) ∧
      locks.Counted (moved s i (locks.releaseShard key s.shared).1
        (locks.releaseShard key s.shared).2) := by
  have one : 0 < count (locks.isReleasing (locks.shard key)) s.points := by
    rw [count_pos_iff]
    exact ⟨i, by rw [here]; exact beq_self_eq_true _⟩
  have some : locks.references s (locks.shard key) ≠ 0 := by
    unfold references
    omega
  have entry := h.entry (locks.shard key)
  rw [entryOf, if_neg some] at entry
  have less (shards : Shards T) (same : shards.unreleased = s.shared.unreleased) (shard : Nat) :
      locks.references (moved s i .idle shards) shard + (if locks.shard key = shard then 1 else 0) =
        locks.references s shard := by
    have change := @references_moved _ _ _ _ locks s i .idle shards shard
    rw [here, same] at change
    by_cases own : locks.shard key = shard
    · simp only [isReleasing, own, beq_self_eq_true, Bool.toNat_true, Bool.toNat_false, if_pos] at change ⊢
      omega
    · simp only [isReleasing, beq_eq_false_iff_ne.mpr own, Bool.toNat_false, if_neg own] at change ⊢
      omega
  refine ⟨⟨_, entry, ?_⟩, ?_⟩
  · rw [Ne, ← BitVec.toNat_inj, BitVec.toNat_ofNat, Nat.mod_eq_of_lt few]
    exact some
  · unfold ShardedLockManager.releaseShard
    rw [entry]
    dsimp only
    refine h.change (locks.shard key) nofun ?_ fun other different => ?_
    · have number := less ⟨_, s.shared.unreleased⟩ rfl (locks.shard key)
      rw [if_pos rfl] at number
      rw [← number] at few ⊢
      dsimp only
      rw [entryOf_less few]
      rfl
    · have number := less ⟨_, s.shared.unreleased⟩ rfl other
      rw [if_neg (Ne.symm different)] at number
      exact number

/-- A release begins: its get moves from the list to the thread. -/
theorem references_release [DecidableEq T] (here : s.points i = .idle) (member : key ∈ s.shared.unreleased)
    (shard : Nat) :
    locks.references
      (moved s i (.releasing key) ⟨s.shared.shardCount, s.shared.unreleased.erase key⟩) shard =
      locks.references s shard := by
  have change := @references_moved _ _ _ _ locks s i (.releasing key)
    ⟨s.shared.shardCount, s.shared.unreleased.erase key⟩ shard
  have taken := (List.perm_cons_erase member).countP_eq fun key => locks.shard key == shard
  rw [List.countP_cons] at taken
  rw [here] at change
  simp only [isReleasing, Bool.toNat_false] at change
  cases own : locks.shard key == shard <;>
    simp only [own, Bool.toNat_true, Bool.toNat_false, Bool.false_eq_true, if_true, if_false]
      at taken change <;> omega

/-- **One step keeps the counts**, if a release finds a count that has not wrapped around. -/
theorem Counted.turn [DecidableEq T] (h : locks.Counted s) (request : LockRequest T)
    (few : ∀ shard, locks.references s shard < 2 ^ 64) :
    locks.Counted (s.turn locks.advance i request) := by
  rw [turn_eq]
  cases here : s.points i with
  | idle =>
    have notReleasing (shard : Nat) : locks.isReleasing shard (s.points i) = false := by
      rw [here]
      rfl
    cases request with
    | get key hasCollision =>
      cases hasCollision with
      | true => exact h.keep nofun rfl (references_same notReleasing (fun _ => rfl) rfl)
      | false => exact h.keep nofun rfl (references_same notReleasing (fun _ => rfl) rfl)
    | release key =>
      simp only [advance]
      by_cases member : key ∈ s.shared.unreleased
      · simp only [if_pos member]
        exact h.keep nofun rfl (references_release here member)
      · simp only [if_neg member]
        exact h.keep nofun rfl (references_same notReleasing (fun _ => rfl) rfl)
  | checking key =>
    have notReleasing (shard : Nat) : locks.isReleasing shard (s.points i) = false := by
      rw [here]
      rfl
    rw [advance_checking, checkShard]
    split
    · exact h.keep nofun rfl (references_same notReleasing (fun _ => rfl) rfl)
    · exact h.keep nofun rfl (references_same notReleasing (fun _ => rfl) rfl)
  | inserting key hasCollision =>
    rw [advance_inserting]
    exact h.insertShard here
  | returned key mutex =>
    have notReleasing (shard : Nat) : locks.isReleasing shard (s.points i) = false := by
      rw [here]
      rfl
    rw [advance_returned]
    exact h.keep nofun rfl (references_same notReleasing (fun _ => rfl) rfl)
  | releasing key =>
    rw [advance_releasing]
    exact (h.releaseShard here (few _)).2
  | undefined => exact absurd here (h.defined i)

end Steps

/-! ## Runs -/

/-- What the reference counts are for. A shard has an entry exactly while gets of it are un-released, and
the entry is their number; a release finds a count that is not zero; a get that has checked for a
collision returns the mutex of its shard only if no get of the shard is un-released at that moment. -/
structure Correct [DecidableEq T] (s : LockThreads ι T) : Prop where
  entry_iff : ∀ shard, (s.shared.shardCount shard).isSome = true ↔ 0 < locks.references s shard
  value : ∀ shard count, s.shared.shardCount shard = some count →
    count.toNat = locks.references s shard
  found : ∀ i key, s.points i = .releasing key →
    ∃ count, s.shared.shardCount (locks.shard key) = some count ∧ count ≠ 0
  defined : ∀ i, s.points i ≠ .undefined
  alone : ∀ i key request, s.points i = .inserting key true →
    (s.turn locks.advance i request).points i = .returned key .own →
    locks.references s (locks.shard key) = 0

section Runs

variable [DecidableEq T] {locks : ShardedLockManager T} {s : LockThreads ι T}

omit [DecidableEq ι] [DecidableEq T] in
theorem counted_create : locks.Counted (create : LockThreads ι T) := by
  refine ⟨fun shard => ?_, fun i => nofun⟩
  have nobody : count (locks.isReleasing shard) (create : LockThreads ι T).points = 0 := by
    refine Nat.eq_zero_of_not_pos fun some => ?_
    obtain ⟨i, releasing⟩ := count_pos_iff.mp some
    cases releasing
  rw [references, nobody]
  rfl

/-- Where few gets are un-released, the entries are as they should be. -/
theorem Counted.correct (h : locks.Counted s) (few : ∀ shard, locks.references s shard < 2 ^ 64) :
    locks.Correct s := by
  refine ⟨fun shard => ?_, fun shard count present => ?_, fun i key here =>
    (h.releaseShard here (few _)).1, h.defined, fun i key request here returns => ?_⟩
  · rw [h.entry, entryOf, Nat.pos_iff_ne_zero]
    split <;> simp_all
  · rw [h.entry, entryOf] at present
    split at present
    · cases present
    · cases present
      rw [BitVec.toNat_ofNat, Nat.mod_eq_of_lt (few shard)]
  · rw [turn_points_self, here, advance_inserting, ShardedLockManager.insertShard] at returns
    by_contra some
    rw [h.entry, entryOf, if_neg some] at returns
    cases returns

/-- A correct count is the number of the gets, which it represents. -/
theorem Correct.few (correct : locks.Correct s) (shard : Nat) : locks.references s shard < 2 ^ 64 := by
  by_cases nobody : locks.references s shard = 0
  · omega
  · obtain ⟨count, present⟩ :=
      Option.isSome_iff_exists.mp ((correct.entry_iff shard).mpr (Nat.pos_of_ne_zero nobody))
    rw [← correct.value shard count present]
    exact count.isLt

/-- A run keeps the counts. -/
theorem Counted.interleave (h : locks.Counted s) {schedule : List (ι × LockRequest T)}
    (few : ∀ before, before <+: schedule →
      ∀ shard, locks.references (s.interleave locks.advance before) shard < 2 ^ 64) :
    locks.Counted (s.interleave locks.advance schedule) := by
  induction schedule generalizing s with
  | nil => exact h
  | cons next schedule ih =>
    refine ih (h.turn next.2 (few [] List.nil_prefix)) fun before isBefore => ?_
    exact few (next :: before) ((List.prefix_cons_inj next).mpr isBefore)

/-- **The counts are correct throughout a run** of any threads exactly if at no moment of it 2^64 gets of
one shard are un-released. -/
theorem run_correct_iff (locks : ShardedLockManager T) (schedule : List (ι × LockRequest T)) :
    (∀ before, before <+: schedule → locks.Correct (create.interleave locks.advance before)) ↔
      ∀ before, before <+: schedule →
        ∀ shard, locks.references (create.interleave locks.advance before) shard < 2 ^ 64 := by
  constructor
  · exact fun correct before isBefore => (correct before isBefore).few
  · intro few before isBefore
    refine (counted_create.interleave fun earlier isEarlier => ?_).correct (few before isBefore)
    exact few earlier (isEarlier.trans isBefore)

end Runs

section Overflow

/-- One shard for all keys. -/
def oneShard : ShardedLockManager Unit := ⟨fun _ => 0, 1, Nat.one_pos⟩

/-- The threads make one get each, one after the other. -/
def getEach (threads : List ι) : List (ι × LockRequest Unit) :=
  threads.flatMap fun i => [(i, .get () false), (i, .get () false)]

omit [Fintype ι] in
/-- Two steps of a get without `has_collision`, from the outside. -/
theorem unreleased_get {s : LockThreads ι Unit} {i : ι} (here : s.points i = .idle) :
    (s.interleave oneShard.advance (getEach [i])).shared.unreleased = () :: s.shared.unreleased ∧
      ∀ j, j ≠ i → (s.interleave oneShard.advance (getEach [i])).points j = s.points j := by
  have first : s.turn oneShard.advance i (.get () false) =
      moved s i (.inserting () false) s.shared := by
    rw [turn_eq, here]
    rfl
  have run : s.interleave oneShard.advance (getEach [i]) =
      (moved s i (.inserting () false) s.shared).turn oneShard.advance i (.get () false) := by
    rw [← first]
    rfl
  rw [run]
  refine ⟨?_, fun j other => ?_⟩
  · rw [turn_eq]
    show (oneShard.advance (.get () false) (Function.update s.points i _ i) s.shared).2.unreleased = _
    rw [Function.update_self, advance_inserting, insertShard]
    split <;> rfl
  · rw [turn_points_of_ne other]
    exact Function.update_of_ne other _ _

omit [Fintype ι] in
/-- As many gets are un-released as threads have made one. -/
theorem unreleased_getEach {threads : List ι} (distinct : threads.Nodup) {s : LockThreads ι Unit}
    (idle : ∀ i ∈ threads, s.points i = .idle) :
    (s.interleave oneShard.advance (getEach threads)).shared.unreleased.length =
      s.shared.unreleased.length + threads.length := by
  induction threads generalizing s with
  | nil => rfl
  | cons i threads ih =>
    obtain ⟨notLater, distinctLater⟩ := List.nodup_cons.mp distinct
    obtain ⟨first, later⟩ := List.forall_mem_cons.mp idle
    obtain ⟨unreleased, others⟩ := unreleased_get first
    have split : s.interleave oneShard.advance (getEach (i :: threads)) =
        (s.interleave oneShard.advance (getEach [i])).interleave oneShard.advance
          (getEach threads) := rfl
    rw [split, ih distinctLater, unreleased, List.length_cons, List.length_cons, Nat.add_right_comm,
      Nat.add_assoc]
    intro j inThreads
    rw [others j fun same => notLater (same ▸ inThreads), later j inThreads]

/-- All of them are gets of the one shard. -/
theorem le_references_getEach (n : Nat) :
    n ≤ oneShard.references
      (create.interleave oneShard.advance (getEach (List.finRange n)) : LockThreads (Fin n) Unit) 0 := by
  have run := unreleased_getEach (List.nodup_finRange n) (s := create) fun i _ => rfl
  have all : ∀ key ∈ (create.interleave oneShard.advance (getEach (List.finRange n)) :
      LockThreads (Fin n) Unit).shared.unreleased, (oneShard.shard key == 0) = true := fun _ _ => rfl
  rw [references, List.countP_eq_length.mpr all, run, List.length_finRange]
  exact Nat.le_trans (Nat.le_add_left n _) (Nat.le_add_right _ _)

/-- 2^64 threads that make a get each: the count of their shard wraps around. -/
theorem not_run_correct :
    ¬ ∀ (n : Nat) (schedule : List (Fin n × LockRequest Unit)),
      oneShard.Correct (create.interleave oneShard.advance schedule) := by
  intro every
  have correct := every (2 ^ 64) (getEach (List.finRange (2 ^ 64)))
  exact absurd (le_references_getEach (2 ^ 64)) (Nat.not_le_of_gt (correct.few 0))

end Overflow

end ShardedLockManager

end Quickstep.Utility
