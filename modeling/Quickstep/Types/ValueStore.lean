import Quickstep.Types.TypedValueOwnership

/-!
# Programs with values

A client makes, copies, moves, assigns and destroys any number of values, in any order, and has blocks from
`std::malloc` that it may hand to values. What it must see to is stated for each statement; then no data is
freed twice, used after it was freed, or lost.
-/

namespace Quickstep.Types
open Quickstep.Lib

/-- The variables that hold values, and the blocks that the client has from `std::malloc`. -/
structure ValueStore where
  memory : Memory
  objects : Nat → Option ValueObject
  malloced : Pointer → Bool

/-- What a client does with values. The number of a variable that is made or changed comes first. -/
inductive Statement where
  | literal (x : Nat) (typeId : TypeID) (bits : BitVec 64)
  | null (x : Nat) (typeId : TypeID)
  | reference (x : Nat) (typeId : TypeID) (address : Address) (size : BitVec 64)
  | createWithOwnedData (x : Nat) (typeId : TypeID) (block : Pointer) (size : BitVec 64)
  | copyConstruct (x y : Nat)
  | moveConstruct (x y : Nat)
  | copyAssign (x y : Nat)
  | moveAssign (x y : Nat)
  | makeReference (x y : Nat)
  | clear (x : Nat)
  | ensureNotReference (x : Nat)
  | markType (x : Nat) (typeId : TypeID)
  | destroy (x : Nat)
  | malloc (bytes : List (BitVec 8))
  | write (block : Pointer) (bytes : List (BitVec 8))
  | free (block : Pointer)

/-- The variables that a statement makes, changes or destroys. -/
def Statement.targets : Statement → List Nat
  | literal x _ _ | null x _ | reference x _ _ _ | createWithOwnedData x _ _ _ | copyConstruct x _
  | copyAssign x _ | makeReference x _ | clear x | ensureNotReference x | markType x _ | destroy x => [x]
  | moveConstruct x y | moveAssign x y => [x, y]
  | malloc _ | write _ _ | free _ => []

namespace ValueStore
open ValueObject

def empty : ValueStore := ⟨Heap.empty, fun _ => none, fun _ => false⟩

variable (s : ValueStore)

/-- A variable that is used holds a value. -/
def get (x : Nat) : Exec ValueObject :=
  match s.objects x with
  | some value => pure value
  | none => .error .undefinedBehaviour

def set (x : Nat) (value : Option ValueObject) (memory : Memory) : ValueStore :=
  { s with memory, objects := Function.update s.objects x value }

/-- The lifetime of a variable starts. -/
def construct (x : Nat) (made : ValueObject × Memory) : Exec ValueStore :=
  match s.objects x with
  | some _ => .error .undefinedBehaviour
  | none => pure (s.set x (some made.1) made.2)

def step : Statement → Exec ValueStore
  | .literal x typeId bits => s.construct x (ofLiteral typeId bits, s.memory)
  | .null x typeId => s.construct x (ofNull typeId, s.memory)
  | .reference x typeId address size => s.construct x (ofData typeId.code address size, s.memory)
  | .createWithOwnedData x typeId block size => do
    let s' ← s.construct x (ValueObject.createWithOwnedData typeId.code ⟨block, 0⟩ size, s.memory)
    pure { s' with malloced := Function.update s.malloced block false }
  | .copyConstruct x y => do
    let rhs ← s.get y
    s.construct x (← rhs.copied s.memory)
  | .moveConstruct x y => do
    let rhs ← s.get y
    let s' ← s.construct x (rhs, s.memory)
    pure (s'.set y (some rhs.movedFrom) s.memory)
  | .copyAssign x y => do
    let lhs ← s.get x
    let rhs ← s.get y
    if x = y then pure s
    else do
      let made ← rhs.copied (← lhs.release s.memory)
      pure (s.set x (some made.1) made.2)
  | .moveAssign x y => do
    let lhs ← s.get x
    let rhs ← s.get y
    if x = y then pure s
    else do
      let memory ← lhs.release s.memory
      pure ((s.set x (some rhs) memory).set y (some rhs.movedFrom) memory)
  | .makeReference x y => do
    let value ← s.get y
    s.construct x (← value.makeReferenceToThis s.memory)
  | .clear x => do
    let value ← s.get x
    pure (s.set x (some create) (← value.release s.memory))
  | .ensureNotReference x => do
    let value ← s.get x
    let made ← value.ensureNotReference s.memory
    pure (s.set x (some made.1) made.2)
  | .markType x typeId => do
    let value ← s.get x
    pure (s.set x (some (value.markType typeId)) s.memory)
  | .destroy x => do
    let value ← s.get x
    pure (s.set x none (← value.release s.memory))
  | .malloc bytes =>
    pure { s with
      memory := s.memory.alloc bytes
      malloced := Function.update s.malloced s.memory.next true }
  | .write block bytes => do
    let memory ← s.memory.store block bytes
    pure { s with memory }
  | .free block => do
    let memory ← s.memory.free block
    pure { s with memory, malloced := Function.update s.malloced block false }

def run : List Statement → ValueStore → Exec ValueStore
  | [], s => pure s
  | statement :: program, s => do run program (← s.step statement)

/-! ## What a client may do -/

/-- The constructor of a reference is for strings, and checks that the size fits into the word. -/
def isStringData (typeId : TypeID) (address : Address) (size : BitVec 64) : Bool :=
  typeId.isString && (ofData typeId.code address size).getDataSize == size

/-- A variable is made once, and used while it is there. What a value refers to is there when it is read. A
value is given a block that is large enough, which the client has from `std::malloc` and has not freed; only
such blocks are written to. A value without bytes owns nothing, so that a block that it is given with the
size 0 would be lost; this is left out, though coercion and `SUBSTRING` to CHAR(0) do it. A string stays a
string. -/
def allowed : Statement → Bool
  | .literal x _ _ | .null x _ => (s.objects x).isNone
  | .reference x typeId address size => (s.objects x).isNone && isStringData typeId address size
  | .createWithOwnedData x typeId block size =>
    (s.objects x).isNone && isStringData typeId ⟨block, 0⟩ size && size != 0#64 && s.malloced block &&
      ((ofData typeId.code ⟨block, 0⟩ size).readData s.memory size).isOk
  | .copyConstruct x y | .moveConstruct x y | .makeReference x y =>
    (s.objects x).isNone && (s.objects y).isSome
  | .copyAssign x y | .moveAssign x y => (s.objects x).isSome && (s.objects y).isSome
  | .clear x | .destroy x => (s.objects x).isSome
  | .ensureNotReference x => (s.objects x).any fun value =>
    !value.isReference || (value.readData s.memory value.getDataSize).isOk
  | .markType x typeId => (s.objects x).any fun value => value.size == 0#64 || typeId.isString
  | .malloc _ => true
  | .write block bytes =>
    s.malloced block && (s.memory.load block).toOption.any fun before => before.length == bytes.length
  | .free block => s.malloced block

/-- Each statement of a run is allowed where it is executed. -/
def allowedRun : List Statement → ValueStore → Bool
  | [], _ => true
  | statement :: program, s =>
    s.allowed statement &&
      match s.step statement with
      | .ok s' => allowedRun program s'
      | .error _ => true

/-! ## One statement -/

/-- Who owns blocks: the variables, and the client for each block. -/
def owns : Nat ⊕ Pointer → Option Pointer
  | .inl x => (s.objects x).bind owned?
  | .inr block => if s.malloced block then some block else none

/-- Every value is sound, and every block has one owner. -/
structure Invariant : Prop where
  sound : ∀ x value, s.objects x = some value → Sound s.memory value
  owned : Owned s.memory s.owns

/-- The variables that are not targets of a statement keep their values, and if these are not references they
are worth what they were. -/
def Frame (s s' : ValueStore) (targets : List Nat) : Prop :=
  ∀ x value, x ∉ targets → s.objects x = some value →
    s'.objects x = some value ∧
      (value.isReference = false → contents s'.memory value = contents s.memory value)

section Steps

variable {s s' s'' : ValueStore} {x y : Nat} {value : ValueObject} {optional : Option ValueObject}
  {memory : Memory} {targets targets' : List Nat}

theorem Frame.refl (s : ValueStore) (targets : List Nat) : Frame s s targets :=
  fun _ _ _ here => ⟨here, fun _ => rfl⟩

theorem Frame.trans (first : Frame s s' targets) (second : Frame s' s'' targets') :
    Frame s s'' (targets ++ targets') := by
  intro x value outside here
  rw [List.mem_append, not_or] at outside
  obtain ⟨here', same⟩ := first x value outside.1 here
  obtain ⟨here'', same'⟩ := second x value outside.2 here'
  exact ⟨here'', fun literal => (same' literal).trans (same literal)⟩

theorem Frame.mono (frame : Frame s s' targets) (subset : targets ⊆ targets') : Frame s s' targets' :=
  fun x value outside here => frame x value (fun inside => outside (subset inside)) here

theorem owns_inl (x : Nat) : s.owns (.inl x) = (s.objects x).bind owned? := rfl

theorem eq_of_owns_inr {block block' : Pointer} (owner : s.owns (.inr block) = some block') : block = block' := by
  simp only [owns, Option.ite_none_right_eq_some, Option.some_inj] at owner
  exact owner.2

theorem objects_set_self : (s.set x optional memory).objects x = optional := Function.update_self ..

theorem objects_set_of_ne (different : y ≠ x) : (s.set x optional memory).objects y = s.objects y :=
  Function.update_of_ne different ..

theorem owns_set : (s.set x optional memory).owns = Function.update s.owns (.inl x) (optional.bind owned?) := by
  funext i
  rcases i with z | block
  · by_cases same : z = x
    · subst same
      rw [Function.update_self, owns_inl, objects_set_self]
    · rw [Function.update_of_ne (Sum.inl_injective.ne same), owns_inl, owns_inl, objects_set_of_ne same]
  · rw [Function.update_of_ne Sum.inr_ne_inl]
    rfl

@[simp] theorem set_set {optional' : Option ValueObject} {memory' : Memory} :
    (s.set x optional memory).set x optional' memory' = s.set x optional' memory' := by
  unfold set
  simp

/-- The client has a block from now on, or no more. -/
theorem owns_update_malloced {block : Pointer} {mine : Bool} (s : ValueStore) (memory : Memory) :
    (ValueStore.mk memory s.objects (Function.update s.malloced block mine)).owns =
      Function.update s.owns (.inr block) (if mine then some block else none) := by
  funext i
  rcases i with z | block'
  · rw [Function.update_of_ne Sum.inl_ne_inr]
    rfl
  · by_cases same : block' = block
    · subst same
      simp [owns]
    · rw [Function.update_of_ne (Sum.inr_injective.ne same)]
      simp [owns, same]

theorem get_of_some (here : s.objects x = some value) : s.get x = .ok value := by
  unfold get
  rw [here]
  rfl

/-- A variable is set to a value that is sound, where the data of the other variables stays. -/
theorem Invariant.set (h : s.Invariant) (sound : ∀ value, optional = some value → Sound memory value)
    (owned : Owned memory (Function.update s.owns (.inl x) (optional.bind owned?)))
    (kept : ∀ z value block bytes, z ≠ x → s.objects z = some value → value.owned? = some block →
      s.memory.Live block bytes → memory.Live block bytes) :
    (s.set x optional memory).Invariant ∧ Frame s (s.set x optional memory) [x] := by
  refine ⟨⟨fun z value here => ?_, by rwa [owns_set]⟩, fun z value outside here => ?_⟩
  · by_cases same : z = x
    · subst same
      rw [objects_set_self] at here
      exact sound value here
    · rw [objects_set_of_ne same] at here
      exact (h.sound z value here).congr fun block bytes => kept z value block bytes same here
  · have different : z ≠ x := fun same => outside (List.mem_singleton.mpr same)
    rw [objects_set_of_ne different]
    exact ⟨here, fun literal => (h.sound z value here).contents_congr literal
      fun block bytes => kept z value block bytes different here⟩

/-- A variable that owned nothing is set to what was made of a value. -/
theorem Invariant.set_madeFrom {value' : ValueObject} (h : s.Invariant) (free : s.owns (.inl x) = none)
    (made : MadeFrom s.memory memory value value') :
    (s.set x (some value') memory).Invariant ∧ Frame s (s.set x (some value') memory) [x] := by
  apply h.set
  · rintro _ ⟨⟩
    exact made.sound
  · exact made.owned s.owns (.inl x) h.owned free
  · exact fun _ _ block bytes _ _ _ live => made.grows block bytes live

theorem construct_of_none (fresh : s.objects x = none) (made : ValueObject × Memory) :
    s.construct x made = .ok (s.set x (some made.1) made.2) := by
  unfold construct
  rw [fresh]
  rfl

theorem owns_of_none (fresh : s.objects x = none) : s.owns (.inl x) = none := by
  rw [owns_inl, fresh]
  rfl

/-- A variable is made to hold what was made of a value. -/
theorem Invariant.construct_ok {value' : ValueObject} (h : s.Invariant) (fresh : s.objects x = none)
    (made : MadeFrom s.memory memory value value') :
    ∃ s', s.construct x (value', memory) = .ok s' ∧ s'.Invariant ∧ Frame s s' [x] := by
  obtain ⟨after, frame⟩ := h.set_madeFrom (owns_of_none fresh) made
  exact ⟨_, construct_of_none fresh _, after, frame⟩

/-- The destruction of a value, and the start of everything that overwrites one. -/
theorem Invariant.release (h : s.Invariant) (here : s.objects x = some value) :
    ∃ memory, value.release s.memory = .ok memory ∧ (s.set x none memory).Invariant ∧
      Frame s (s.set x none memory) [x] := by
  have owner : s.owns (.inl x) = value.owned? := by
    rw [owns_inl, here]
    rfl
  obtain ⟨memory, released, owned, after⟩ := (h.sound x value here).release h.owned owner
  refine ⟨memory, released, h.set (fun _ => nofun) owned fun z value' block bytes different there owner' live => ?_⟩
  rw [after]
  refine ⟨fun both => different ?_, live⟩
  have owner'' : s.owns (.inl z) = some block := by
    rw [owns_inl, there]
    exact owner'
  exact Sum.inl_injective (h.owned.unique _ _ block owner'' (owner.trans both))

/-- A value is moved to a variable that holds none. -/
theorem Invariant.move (h : s.Invariant) (fresh : s.objects x = none) (here : s.objects y = some value) :
    ((s.set x (some value) s.memory).set y (some value.movedFrom) s.memory).Invariant ∧
      Frame s ((s.set x (some value) s.memory).set y (some value.movedFrom) s.memory) [x, y] := by
  have different : x ≠ y := by
    rintro rfl
    cases fresh.symm.trans here
  have emptied : value.movedFrom.size = 0#64 := BitVec.zero_ushiftRight
  have notOwner : value.movedFrom.ownsOutOfLineData = false := by
    rw [Bool.eq_false_iff, ne_eq, ownsOutOfLineData_iff]
    exact fun owns => owns.2 emptied
  have owner : s.owns (.inl y) = value.owned? := by
    rw [owns_inl, here]
    rfl
  refine ⟨⟨fun z value' there => ?_, ?_⟩, fun z value' outside there => ?_⟩
  · by_cases source : z = y
    · subst source
      rw [objects_set_self] at there
      cases there
      exact ⟨fun sized => absurd emptied sized, fun owns => absurd (notOwner.symm.trans owns) Bool.false_ne_true⟩
    · rw [objects_set_of_ne source] at there
      by_cases target : z = x
      · subst target
        rw [objects_set_self] at there
        cases there
        exact h.sound y value here
      · rw [objects_set_of_ne target] at there
        exact h.sound z value' there
  · rw [owns_set, owns_set, Option.bind_some, Option.bind_some, owned?_of_not_owns notOwner,
      Function.update_comm (Sum.inl_injective.ne different), ← owner]
    exact h.owned.move _ (owns_of_none fresh)
  · simp only [List.mem_cons, List.not_mem_nil, or_false, not_or] at outside
    rw [objects_set_of_ne outside.2, objects_set_of_ne outside.1]
    exact ⟨there, fun _ => rfl⟩

/-- What is made of nothing. -/
theorem Invariant.construct_unowned (h : s.Invariant) (fresh : s.objects x = none)
    (pointer : value.size ≠ 0#64 → value.IsString ∧ ∃ address, value.valueUnion = .outOfLineData address)
    (notOwner : value.ownsOutOfLineData = false) :
    ∃ s', s.construct x (value, s.memory) = .ok s' ∧ s'.Invariant ∧ Frame s s' [x] := by
  have sound : Sound s.memory value :=
    ⟨pointer, fun owns => absurd (notOwner.symm.trans owns) Bool.false_ne_true⟩
  exact h.construct_ok fresh (sound.madeFrom_self notOwner)

/-- What the check of the constructor of references says. -/
theorem isStringData_iff {typeId : TypeID} {address : Address} {size : BitVec 64} :
    isStringData typeId address size = true ↔
      typeId.isString = true ∧ (ofData typeId.code address size).size = size := by
  unfold isStringData
  rw [Bool.and_eq_true, beq_iff_eq]
  refine and_congr_right fun isString => ?_
  rw [getDataSize_of_isString (isString_ofData isString)]

theorem allowed_reference {typeId : TypeID} {address : Address} {size : BitVec 64} (h : s.Invariant)
    (allowed : s.allowed (.reference x typeId address size) = true) :
    ∃ s', s.step (.reference x typeId address size) = .ok s' ∧ s'.Invariant ∧ Frame s s' [x] := by
  unfold ValueStore.allowed at allowed
  rw [Bool.and_eq_true, Option.isNone_iff_eq_none, isStringData_iff] at allowed
  obtain ⟨fresh, isString, -⟩ := allowed
  refine h.construct_unowned fresh (fun _ => ⟨isString_ofData isString, address, rfl⟩) (not_owns_ofData ?_)
  exact code_and_ownership typeId

/-- The client hands on a block. -/
theorem allowed_createWithOwnedData {typeId : TypeID} {block : Pointer} {size : BitVec 64} (h : s.Invariant)
    (allowed : s.allowed (.createWithOwnedData x typeId block size) = true) :
    ∃ s', s.step (.createWithOwnedData x typeId block size) = .ok s' ∧ s'.Invariant ∧ Frame s s' [x] := by
  unfold ValueStore.allowed at allowed
  simp only [Bool.and_eq_true, Option.isNone_iff_eq_none, isStringData_iff, bne_iff_ne] at allowed
  obtain ⟨⟨⟨⟨fresh, isString, fits⟩, sized⟩, malloced⟩, readable⟩ := allowed
  obtain ⟨data, read⟩ := exists_of_isOk readable
  obtain ⟨bytes, live, inside⟩ := live_of_readData rfl read
  have fits' : (ofData typeId.code ⟨block, 0⟩ size).size ≠ 0#64 := by rwa [fits]
  have owner : s.owns (.inr block) = some block := if_pos malloced
  let value := (ofData typeId.code ⟨block, 0⟩ size).withOwnership ⟨block, 0⟩
  have owner' : value.owned? = some block := owned?_withOwnership fits'
  have sound : Sound s.memory value := by
    refine ⟨fun _ => ⟨?_, _, rfl⟩, fun _ => ⟨block, bytes, rfl, live, ?_⟩⟩
    · unfold IsString
      rw [typeCode_withOwnership]
      exact isString_ofData isString
    · rw [getDataSize_withOwnership, getDataSize_of_isString (isString_ofData isString), fits]
      rwa [Nat.zero_add] at inside
  refine ⟨{ s.set x (some value) s.memory with malloced := Function.update s.malloced block false }, ?_,
    ⟨fun z value' here => ?_, ?_⟩, fun z value' outside here => ⟨?_, fun _ => rfl⟩⟩
  · simp only [step, construct_of_none fresh, Exec.ok_bind]
    rfl
  · by_cases same : z = x
    · subst same
      cases here.symm.trans (Function.update_self ..)
      exact sound
    · exact h.sound z value' (here.symm.trans (Function.update_of_ne same ..)).symm
  · have after : ({ s.set x (some value) s.memory with
        malloced := Function.update s.malloced block false } : ValueStore).owns =
        Function.update (Function.update s.owns (.inl x) (some block)) (.inr block) none := by
      rw [← owner', ← Option.bind_some value owned?, ← owns_set]
      exact owns_update_malloced (s.set x (some value) s.memory) s.memory
    rw [after, Function.update_comm Sum.inl_ne_inr, ← owner]
    exact h.owned.move (.inr block) (owns_of_none fresh)
  · exact (Function.update_of_ne (by simpa using outside) ..).trans here

/-- A value is made sure not to be a reference. -/
theorem Invariant.ensureNotReference (h : s.Invariant) (here : s.objects x = some value)
    (readable : Readable s.memory value) :
    ∃ value' memory, s.step (.ensureNotReference x) = .ok (s.set x (some value') memory) ∧
      ((s.set x (some value') memory).Invariant ∧ Frame s (s.set x (some value') memory) [x]) ∧
      contents memory value' = contents s.memory value ∧ value'.isReference = false ∧
      ∀ block bytes, s.memory.Live block bytes → memory.Live block bytes := by
  obtain ⟨value', memory, ensured, same, literal, sound, grows, outcome⟩ :=
    (h.sound x value here).ensureNotReference readable
  refine ⟨value', memory, ?_, ?_, same, literal, grows⟩
  · simp only [step, get_of_some here, Exec.ok_bind, ensured]
    rfl
  · apply h.set
    · rintro _ ⟨⟩
      exact sound
    · have owner : s.owns (.inl x) = value.owned? := by
        rw [owns_inl, here]
        rfl
      rcases outcome with ⟨reference, made⟩ | ⟨rfl, rfl⟩
      · apply made.owned s.owns (.inl x) h.owned
        rw [owner]
        exact owned?_of_not_owns (not_owns (isReference_iff.mp reference).2)
      · rw [Option.bind_some, ← owner, Function.update_eq_self]
        exact h.owned
    · exact fun _ _ block bytes _ _ _ live => grows block bytes live

/-- A block of the client is not the data of a value as well. -/
theorem Invariant.not_owned_by_both {block : Pointer} (h : s.Invariant)
    (owner : s.owns (.inr block) = some block) (here : s.objects x = some value)
    (owner' : value.owned? = some block) : False := by
  have owner'' : s.owns (.inl x) = some block := by
    rw [owns_inl, here]
    exact owner'
  cases h.owned.unique _ _ block owner owner''

/-- **One statement** that is allowed does not fail, and keeps the invariant and the other variables. -/
theorem step_ok {statement : Statement} (h : s.Invariant) (allowed : s.allowed statement = true) :
    ∃ s', s.step statement = .ok s' ∧ s'.Invariant ∧ Frame s s' statement.targets := by
  cases statement with
  | reference x typeId address size => exact allowed_reference h allowed
  | createWithOwnedData x typeId block size => exact allowed_createWithOwnedData h allowed
  | literal x typeId bits =>
    refine h.construct_unowned (Option.isNone_iff_eq_none.mp allowed) (fun sized => absurd ?_ sized) ?_
    · exact shift_of_low (Nat.lt_trans (toNat_code_lt typeId) (by decide))
    · exact not_owns (code_and_ownership typeId)
  | null x typeId =>
    refine h.construct_unowned (Option.isNone_iff_eq_none.mp allowed) (fun sized => absurd ?_ sized) ?_
    · cases typeId <;> decide
    · apply not_owns
      cases typeId <;> decide
  | copyConstruct x y =>
    obtain ⟨fresh, there⟩ := (Bool.and_eq_true _ _).mp allowed
    obtain ⟨rhs, there⟩ := Option.isSome_iff_exists.mp there
    obtain ⟨value, memory, copied, made, -⟩ := (h.sound y rhs there).copied
    obtain ⟨s', run, after⟩ := h.construct_ok (Option.isNone_iff_eq_none.mp fresh) made
    refine ⟨s', ?_, after⟩
    simp only [step, get_of_some there, Exec.ok_bind, copied, run]
  | moveConstruct x y =>
    obtain ⟨fresh, there⟩ := (Bool.and_eq_true _ _).mp allowed
    obtain ⟨rhs, there⟩ := Option.isSome_iff_exists.mp there
    have fresh := Option.isNone_iff_eq_none.mp fresh
    refine ⟨_, ?_, h.move fresh there⟩
    simp only [step, get_of_some there, Exec.ok_bind, construct_of_none fresh]
    rfl
  | copyAssign x y =>
    obtain ⟨here, there⟩ := (Bool.and_eq_true _ _).mp allowed
    obtain ⟨lhs, here⟩ := Option.isSome_iff_exists.mp here
    obtain ⟨rhs, there⟩ := Option.isSome_iff_exists.mp there
    by_cases same : x = y
    · refine ⟨s, ?_, h, Frame.refl s _⟩
      simp only [step, get_of_some here, get_of_some there, Exec.ok_bind, if_pos same]
      rfl
    · obtain ⟨memory, released, h', frame⟩ := h.release here
      have there' : (s.set x none memory).objects y = some rhs := by
        rwa [objects_set_of_ne (Ne.symm same)]
      obtain ⟨value, memory', copied, made, -⟩ := (h'.sound y rhs there').copied
      obtain ⟨after, frame'⟩ := h'.set_madeFrom (owns_of_none objects_set_self) made
      rw [set_set] at after frame'
      refine ⟨_, ?_, after, (frame.trans frame').mono (by simp [Statement.targets])⟩
      simp only [step, get_of_some here, get_of_some there, Exec.ok_bind, if_neg same, released]
      exact (congrArg (· >>= _) copied).trans rfl
  | moveAssign x y =>
    obtain ⟨here, there⟩ := (Bool.and_eq_true _ _).mp allowed
    obtain ⟨lhs, here⟩ := Option.isSome_iff_exists.mp here
    obtain ⟨rhs, there⟩ := Option.isSome_iff_exists.mp there
    by_cases same : x = y
    · refine ⟨s, ?_, h, Frame.refl s _⟩
      simp only [step, get_of_some here, get_of_some there, Exec.ok_bind, if_pos same]
      rfl
    · obtain ⟨memory, released, h', frame⟩ := h.release here
      have there' : (s.set x none memory).objects y = some rhs := by
        rwa [objects_set_of_ne (Ne.symm same)]
      obtain ⟨after, frame'⟩ := h'.move objects_set_self there'
      rw [set_set] at after frame'
      refine ⟨_, ?_, after, (frame.trans frame').mono (by simp [Statement.targets])⟩
      simp only [step, get_of_some here, get_of_some there, Exec.ok_bind, if_neg same, released]
      rfl
  | makeReference x y =>
    obtain ⟨fresh, there⟩ := (Bool.and_eq_true _ _).mp allowed
    obtain ⟨rhs, there⟩ := Option.isSome_iff_exists.mp there
    obtain ⟨value, run, pointer, notOwner⟩ | run := (h.sound y rhs there).makeReferenceToThis
    · obtain ⟨s', made, after⟩ := h.construct_unowned (Option.isNone_iff_eq_none.mp fresh) pointer notOwner
      refine ⟨s', ?_, after⟩
      simp only [step, get_of_some there, Exec.ok_bind, run, made]
    · obtain ⟨value, memory, copied, made, -⟩ := (h.sound y rhs there).copied
      obtain ⟨s', constructed, after⟩ := h.construct_ok (Option.isNone_iff_eq_none.mp fresh) made
      refine ⟨s', ?_, after⟩
      simp only [step, get_of_some there, Exec.ok_bind, run, copied, constructed]
  | clear x =>
    obtain ⟨value, here⟩ := Option.isSome_iff_exists.mp allowed
    obtain ⟨memory, released, h', frame⟩ := h.release here
    have notOwner : create.ownsOutOfLineData = false := by decide
    have sound : Sound memory create :=
      ⟨fun sized => absurd rfl sized, fun owns => absurd (notOwner.symm.trans owns) Bool.false_ne_true⟩
    obtain ⟨after, frame'⟩ := h'.set_madeFrom (owns_of_none objects_set_self) (sound.madeFrom_self notOwner)
    rw [set_set] at after frame'
    refine ⟨_, ?_, after, (frame.trans frame').mono (by simp [Statement.targets])⟩
    simp only [step, get_of_some here, Exec.ok_bind, released]
    rfl
  | ensureNotReference x =>
    obtain ⟨value, here, condition⟩ := (Option.any_eq_true _ _).mp allowed
    have readable : Readable s.memory value := by
      intro reference
      rw [reference] at condition
      exact exists_of_isOk condition
    obtain ⟨value', memory, stepped, after, -⟩ := h.ensureNotReference here readable
    exact ⟨_, stepped, after⟩
  | markType x typeId =>
    obtain ⟨value, here, condition⟩ := (Option.any_eq_true _ _).mp allowed
    have isString (sized : value.size ≠ 0#64) : typeId.isString = true := by
      simpa [sized] using condition
    obtain ⟨sound, owner⟩ := (h.sound x value here).markType isString
    refine ⟨s.set x (some (value.markType typeId)) s.memory, ?_, ?_⟩
    · simp only [step, get_of_some here, Exec.ok_bind]
      rfl
    · apply h.set
      · rintro _ ⟨⟩
        exact sound
      · rw [Option.bind_some, owner, show value.owned? = s.owns (.inl x) by rw [owns_inl, here]; rfl,
          Function.update_eq_self]
        exact h.owned
      · exact fun _ _ _ _ _ _ _ live => live
  | destroy x =>
    obtain ⟨value, here⟩ := Option.isSome_iff_exists.mp allowed
    obtain ⟨memory, released, after⟩ := h.release here
    refine ⟨_, ?_, after⟩
    simp only [step, get_of_some here, Exec.ok_bind, released]
    rfl
  | malloc bytes =>
    have fresh : s.owns (.inr s.memory.next) = none := by
      by_contra owner
      obtain ⟨block, owner⟩ := Option.ne_none_iff_exists'.mp owner
      exact h.owned.ne_next owner (eq_of_owns_inr owner).symm
    refine ⟨_, rfl, ⟨fun x value here => ?_, ?_⟩, fun x value _ here => ⟨here, fun literal => ?_⟩⟩
    · exact (h.sound x value here).congr fun _ _ _ live => live.alloc bytes
    · rw [owns_update_malloced]
      exact h.owned.alloc fresh bytes
    · exact (h.sound x value here).contents_congr literal fun _ _ _ live => live.alloc bytes
  | write block bytes =>
    have owner : s.owns (.inr block) = some block := if_pos ((Bool.and_eq_true _ _).mp allowed).1
    obtain ⟨memory, stored, owned, others⟩ := h.owned.store owner bytes
    have kept (x : Nat) (value : ValueObject) (here : s.objects x = some value) (block' : Pointer)
        (bytes' : List (BitVec 8)) (owner' : value.owned? = some block')
        (live : s.memory.Live block' bytes') : memory.Live block' bytes' := by
      refine (others block' bytes' ?_).mpr live
      rintro rfl
      exact h.not_owned_by_both owner here owner'
    refine ⟨{ s with memory }, ?_, ⟨fun x value here => ?_, owned⟩, fun x value _ here => ⟨here, fun literal => ?_⟩⟩
    · simp only [step, stored, Exec.ok_bind]
      rfl
    · exact (h.sound x value here).congr (kept x value here)
    · exact (h.sound x value here).contents_congr literal (kept x value here)
  | free block =>
    have owner : s.owns (.inr block) = some block := if_pos allowed
    obtain ⟨memory, freed, owned, others⟩ := h.owned.free owner
    have kept (x : Nat) (value : ValueObject) (here : s.objects x = some value) (block' : Pointer)
        (bytes : List (BitVec 8)) (owner' : value.owned? = some block') (live : s.memory.Live block' bytes) :
        memory.Live block' bytes := by
      refine (others block' bytes).mpr ⟨?_, live⟩
      rintro rfl
      exact h.not_owned_by_both owner here owner'
    refine ⟨{ s with memory, malloced := Function.update s.malloced block false }, ?_,
      ⟨fun x value here => ?_, ?_⟩, fun x value _ here => ⟨here, fun literal => ?_⟩⟩
    · simp only [step, freed, Exec.ok_bind]
      rfl
    · exact (h.sound x value here).congr (kept x value here)
    · rw [owns_update_malloced]
      exact owned
    · exact (h.sound x value here).contents_congr literal (kept x value here)

end Steps

/-! ## Runs -/

section Runs

variable {s s' : ValueStore} {x y : Nat} {worth : BitVec 64 × Payload} {targets : List Nat}

theorem empty_invariant : empty.Invariant :=
  ⟨fun _ _ => nofun, Owned.empty fun i => by rcases i with x | block <;> rfl⟩

/-- **A run** of allowed statements does not fail, and keeps the invariant and the variables that no
statement is about. -/
theorem run_ok {program : List Statement} (h : s.Invariant) (allowed : allowedRun program s = true) :
    ∃ s', run program s = .ok s' ∧ s'.Invariant ∧ Frame s s' (program.flatMap Statement.targets) := by
  induction program generalizing s with
  | nil => exact ⟨s, rfl, h, Frame.refl s _⟩
  | cons statement program ih =>
    obtain ⟨first, rest⟩ := (Bool.and_eq_true _ _).mp allowed
    obtain ⟨s', stepped, h', frame⟩ := step_ok h first
    rw [stepped] at rest
    obtain ⟨s'', ran, h'', frame'⟩ := ih h' rest
    refine ⟨s'', ?_, h'', frame.trans frame'⟩
    rw [run, stepped, Exec.ok_bind, ran]

/-- **No leaks, no double frees, no dangling owners.** In every run of allowed statements all of memory that
is there has one owner, which is a value or the client, and what an owner has is there. When the client has
freed its blocks and the values are destroyed, no memory is left. -/
theorem run_safe {program : List Statement} (allowed : allowedRun program empty = true) :
    ∃ s, run program empty = .ok s ∧
      (∀ block bytes, s.memory.Live block bytes → ∃! owner, s.owns owner = some block) ∧
      (∀ owner block, s.owns owner = some block → ∃ bytes, s.memory.Live block bytes) ∧
      ((∀ x, s.objects x = none) → (∀ block, s.malloced block = false) →
        ∀ block bytes, ¬ s.memory.Live block bytes) := by
  obtain ⟨s, ran, h, -⟩ := run_ok empty_invariant allowed
  refine ⟨s, ran, fun block bytes live => ?_, h.owned.live, fun destroyed freed => ?_⟩
  · obtain ⟨owner, owns⟩ := h.owned.owner block bytes live
    exact ⟨owner, owns, fun other owns' => h.owned.unique other owner block owns' owns⟩
  · apply h.owned.not_live
    rintro (x | block)
    · rw [owns_inl, destroyed]
      rfl
    · exact if_neg (by simp [freed])

/-- A block is handed on to a value, which is copied, referred to and destroyed. -/
theorem run_safe_copies : ∃ s, run
      [.malloc [97#8, 0#8], .createWithOwnedData 0 .varChar 0 2, .copyConstruct 1 0, .makeReference 2 1,
        .destroy 0, .ensureNotReference 2, .moveAssign 1 2, .destroy 1, .destroy 2] empty = .ok s ∧
      (∀ block bytes, s.memory.Live block bytes → ∃! owner, s.owns owner = some block) ∧
      (∀ owner block, s.owns owner = some block → ∃ bytes, s.memory.Live block bytes) ∧
      ((∀ x, s.objects x = none) → (∀ block, s.malloced block = false) →
        ∀ block bytes, ¬ s.memory.Live block bytes) :=
  run_safe (by decide)

/-! ## Clones -/

/-- `Tuple::clone`: the vector of values is copied, then `ensureLiteral` goes over the copies. -/
def clone (attributes : List (Nat × Nat)) : List Statement :=
  attributes.map (fun (original, copy) => .copyConstruct copy original) ++
    attributes.map (fun (_, copy) => .ensureNotReference copy)

/-- The variable holds a value that can be read, and is worth this. -/
def Holds (s : ValueStore) (x : Nat) (worth : BitVec 64 × Payload) : Prop :=
  ∃ value, s.objects x = some value ∧ Readable s.memory value ∧ contents s.memory value = worth

/-- The variable holds a value that is no reference, and is worth this. -/
def HoldsLiteral (s : ValueStore) (x : Nat) (worth : BitVec 64 × Payload) : Prop :=
  ∃ value, s.objects x = some value ∧ value.isReference = false ∧ contents s.memory value = worth

/-- Only the targets change, and nothing is freed. -/
structure Grows (s s' : ValueStore) (targets : List Nat) : Prop where
  others : ∀ x, x ∉ targets → s'.objects x = s.objects x
  live : ∀ block bytes, s.memory.Live block bytes → s'.memory.Live block bytes

theorem Holds.grows (holds : Holds s x worth) (h : s.Invariant) (grows : Grows s s' targets)
    (outside : x ∉ targets) : Holds s' x worth := by
  obtain ⟨value, here, readable, rfl⟩ := holds
  obtain ⟨same, readable'⟩ := (h.sound x value here).contents_of_grows readable grows.live
  exact ⟨value, (grows.others x outside).trans here, readable', same⟩

theorem HoldsLiteral.grows (holds : HoldsLiteral s x worth) (h : s.Invariant) (grows : Grows s s' targets)
    (outside : x ∉ targets) : HoldsLiteral s' x worth := by
  obtain ⟨value, here, literal, rfl⟩ := holds
  refine ⟨value, (grows.others x outside).trans here, literal, ?_⟩
  exact (h.sound x value here).contents_congr literal fun block bytes _ => grows.live block bytes

theorem grows_set {memory : Memory} {optional : Option ValueObject}
    (live : ∀ block bytes, s.memory.Live block bytes → memory.Live block bytes) :
    Grows s (s.set x optional memory) [x] :=
  ⟨fun _ outside => objects_set_of_ne (by simpa using outside), live⟩

theorem Grows.trans {s'' : ValueStore} {targets' : List Nat} (first : Grows s s' targets)
    (second : Grows s' s'' targets') : Grows s s'' (targets ++ targets') := by
  refine ⟨fun x outside => ?_, fun block bytes live => second.live block bytes (first.live block bytes live)⟩
  rw [List.mem_append, not_or] at outside
  exact (second.others x outside.2).trans (first.others x outside.1)

/-- A copy holds what the original does. -/
theorem copyConstruct_holds (h : s.Invariant) (holds : Holds s y worth) (fresh : s.objects x = none) :
    ∃ s', s.step (.copyConstruct x y) = .ok s' ∧ s'.Invariant ∧ Grows s s' [x] ∧ Holds s' x worth := by
  obtain ⟨rhs, there, readable, rfl⟩ := holds
  obtain ⟨value, memory, copied, made, unchanged⟩ := (h.sound y rhs there).copied
  refine ⟨s.set x (some value) memory, ?_, (h.set_madeFrom (owns_of_none fresh) made).1,
    grows_set made.grows, value, objects_set_self, fun reference => ?_, made.same⟩
  · simp only [step, get_of_some there, Exec.ok_bind, copied, construct_of_none fresh]
  · obtain rfl := unchanged reference
    exact ((h.sound y value there).contents_of_grows readable made.grows).2 reference

/-- A value that is made sure not to be a reference stays what it is. -/
theorem ensureNotReference_holds (h : s.Invariant) (holds : Holds s x worth) :
    ∃ s', s.step (.ensureNotReference x) = .ok s' ∧ s'.Invariant ∧ Grows s s' [x] ∧ HoldsLiteral s' x worth := by
  obtain ⟨value, here, readable, rfl⟩ := holds
  obtain ⟨value', memory, stepped, ⟨after, -⟩, same, literal, live⟩ := h.ensureNotReference here readable
  exact ⟨_, stepped, after, grows_set live, value', objects_set_self, literal, same⟩

variable {attributes : List (Nat × Nat)} {worths : Nat × Nat → BitVec 64 × Payload}

/-- The first loop of `clone`: the copies hold what the originals do. -/
theorem copies_hold (h : s.Invariant) (distinct : (attributes.map Prod.snd).Nodup)
    (originals : ∀ a ∈ attributes, Holds s a.1 (worths a) ∧ s.objects a.2 = none) :
    ∃ s', run (attributes.map fun (original, copy) => .copyConstruct copy original) s = .ok s' ∧
      s'.Invariant ∧ Grows s s' (attributes.map Prod.snd) ∧ ∀ a ∈ attributes, Holds s' a.2 (worths a) := by
  induction attributes generalizing s with
  | nil => exact ⟨s, rfl, h, ⟨fun _ _ => rfl, fun _ _ live => live⟩, fun a => nofun⟩
  | cons a attributes ih =>
    obtain ⟨notLater, distinct⟩ := List.nodup_cons.mp distinct
    obtain ⟨⟨holds, fresh⟩, later⟩ := List.forall_mem_cons.mp originals
    obtain ⟨s₁, stepped, h₁, grows, copy⟩ := copyConstruct_holds h holds fresh
    have originals' : ∀ b ∈ attributes, Holds s₁ b.1 (worths b) ∧ s₁.objects b.2 = none := by
      intro b inside
      obtain ⟨holds', fresh'⟩ := later b inside
      refine ⟨holds'.grows h grows ?_, (grows.others b.2 ?_).trans fresh'⟩
      · obtain ⟨value, here, -⟩ := holds'
        rw [List.mem_singleton]
        intro same
        rw [same, fresh] at here
        cases here
      · rw [List.mem_singleton]
        exact fun same => notLater (same ▸ List.mem_map_of_mem inside)
    obtain ⟨s', ran, h', grows', copies⟩ := ih h₁ distinct originals'
    refine ⟨s', ?_, h', grows.trans grows', List.forall_mem_cons.mpr ⟨?_, copies⟩⟩
    · rw [List.map_cons, run, stepped, Exec.ok_bind, ran]
    · exact copy.grows h₁ grows' notLater

/-- `ensureLiteral`: the second loop of `clone`. -/
theorem ensureLiteral_holds (h : s.Invariant) (distinct : (attributes.map Prod.snd).Nodup)
    (copies : ∀ a ∈ attributes, Holds s a.2 (worths a)) :
    ∃ s', run (attributes.map fun (_, copy) => .ensureNotReference copy) s = .ok s' ∧
      s'.Invariant ∧ Grows s s' (attributes.map Prod.snd) ∧
      ∀ a ∈ attributes, HoldsLiteral s' a.2 (worths a) := by
  induction attributes generalizing s with
  | nil => exact ⟨s, rfl, h, ⟨fun _ _ => rfl, fun _ _ live => live⟩, fun a => nofun⟩
  | cons a attributes ih =>
    obtain ⟨notLater, distinct⟩ := List.nodup_cons.mp distinct
    obtain ⟨holds, later⟩ := List.forall_mem_cons.mp copies
    obtain ⟨s₁, stepped, h₁, grows, literal⟩ := ensureNotReference_holds h holds
    have copies' : ∀ b ∈ attributes, Holds s₁ b.2 (worths b) := by
      intro b inside
      apply (later b inside).grows h grows
      rw [List.mem_singleton]
      exact fun same => notLater (same ▸ List.mem_map_of_mem inside)
    obtain ⟨s', ran, h', grows', literals⟩ := ih h₁ distinct copies'
    refine ⟨s', ?_, h', grows.trans grows', List.forall_mem_cons.mpr ⟨?_, literals⟩⟩
    · rw [List.map_cons, run, stepped, Exec.ok_bind, ran]
    · exact literal.grows h₁ grows' notLater

theorem run_append {first second : List Statement} (ran : run first s = .ok s') :
    run (first ++ second) s = run second s' := by
  induction first generalizing s with
  | nil =>
    cases ran
    rfl
  | cons statement first ih =>
    rw [run] at ran
    obtain ⟨s₁, stepped, ran⟩ := Exec.bind_ok ran
    rw [List.cons_append, run, stepped, Exec.ok_bind, ih ran]

/-- **A clone is deep.** After any run a tuple whose references can be read is cloned without a fault, and
whatever happens to the originals and to the data they refer to, the clone goes on to be worth what they
were when it was made. -/
theorem clone_independent {program : List Statement} (allowed : allowedRun program empty = true)
    (ran : run program empty = .ok s) (distinct : (attributes.map Prod.snd).Nodup)
    (originals : ∀ a ∈ attributes, Holds s a.1 (worths a) ∧ s.objects a.2 = none) :
    ∃ s', run (clone attributes) s = .ok s' ∧ ∀ rest, allowedRun rest s' = true →
      (∀ a ∈ attributes, ∀ statement ∈ rest, a.2 ∉ statement.targets) →
      ∃ s'', run rest s' = .ok s'' ∧ ∀ a ∈ attributes, HoldsLiteral s'' a.2 (worths a) := by
  obtain ⟨s₀, ran₀, h, -⟩ := run_ok empty_invariant allowed
  obtain rfl : s₀ = s := Except.ok.inj (ran₀.symm.trans ran)
  obtain ⟨s₁, copied, h₁, -, copies⟩ := copies_hold h distinct originals
  obtain ⟨s', ensured, h', -, literals⟩ := ensureLiteral_holds h₁ distinct copies
  refine ⟨s', ?_, fun rest allowed' others => ?_⟩
  · rw [clone, run_append copied, ensured]
  · obtain ⟨s'', ran', -, frame⟩ := run_ok h' allowed'
    refine ⟨s'', ran', fun a inside => ?_⟩
    obtain ⟨value, here, literal, same⟩ := literals a inside
    have outside : a.2 ∉ rest.flatMap Statement.targets := by
      simp only [List.mem_flatMap, not_exists, not_and]
      exact others a inside
    obtain ⟨here', same'⟩ := frame a.2 value outside here
    exact ⟨value, here', literal, (same' literal).trans same⟩

/-- A value refers to a block, and is cloned. The clone keeps the two bytes when the block is overwritten and
freed. -/
theorem clone_independent_freed :
    ∃ s s', run [.malloc [97#8, 0#8], .reference 0 .varChar ⟨0, 0⟩ 2#64] empty = .ok s ∧
      run (clone [(0, 1)]) s = .ok s' ∧ ∀ rest, allowedRun rest s' = true →
        (∀ a ∈ [(0, 1)], ∀ statement ∈ rest, a.2 ∉ statement.targets) →
        ∃ s'', run rest s' = .ok s'' ∧
          ∀ a ∈ [(0, 1)], HoldsLiteral s'' a.2 (0x205#64, .data (some [97#8, 0#8])) := by
  have allowed : allowedRun [.malloc [97#8, 0#8], .reference 0 .varChar ⟨0, 0⟩ 2#64] empty = true := by decide
  have distinct : ([(0, 1)].map (Prod.snd : Nat × Nat → Nat)).Nodup := by decide
  obtain ⟨s, ran⟩ : ∃ s, run [.malloc [97#8, 0#8], .reference 0 .varChar ⟨0, 0⟩ 2#64] empty = .ok s := ⟨_, rfl⟩
  have originals : ∀ a ∈ [(0, 1)], Holds s a.1 (0x205#64, .data (some [97#8, 0#8])) ∧ s.objects a.2 = none := by
    cases ran
    exact List.forall_mem_singleton.mpr ⟨⟨_, rfl, fun _ => ⟨_, rfl⟩, rfl⟩, rfl⟩
  obtain ⟨s', cloned, after⟩ := clone_independent allowed ran distinct originals
  exact ⟨s, s', ran, cloned, after⟩

end Runs

end ValueStore

end Quickstep.Types
