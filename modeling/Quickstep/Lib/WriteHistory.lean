import Mathlib.Data.List.Basic

/-!
# Write histories

A list of a reserved length that is written by appending, by filling it with one value, or at the
positions of a list prepared for that, each position once. The plain list of the values written is what
an implementation is compared with.
-/

namespace Quickstep.Lib

/-- A write to a list. -/
inductive Write (β : Type) where
  | append (value : β)
  | fill (value : β)
  | prepareForPositionalWrites
  | positionalWrite (position : Nat) (value : β)

/-- The values written so far. A prepared list has positions that are still to be written. -/
structure Written (β : Type) where
  values : List (Option β)
  prepared : Bool

namespace Written

variable {β : Type} (reserved : Nat)

def empty : Written β := ⟨[], false⟩

/-- The value written at a position. -/
def entry (written : Written β) (position : Nat) : Option β := written.values[position]?.join

def append (written : Written β) (value : β) : Option (Written β) :=
  if written.prepared = false ∧ written.values.length < reserved then
    some { written with values := written.values ++ [some value] }
  else none

def fill (written : Written β) (value : β) : Written β :=
  { written with values := List.replicate reserved (some value) }

def prepareForPositionalWrites (written : Written β) : Option (Written β) :=
  if written.values.length = 0 then some ⟨List.replicate reserved none, true⟩ else none

def positionalWrite (written : Written β) (position : Nat) (value : β) : Option (Written β) :=
  if written.prepared = true ∧ written.values[position]?.map Option.isNone = some true then
    some { written with values := written.values.set position (some value) }
  else none

/-- A write, where it is allowed. -/
def write (written : Written β) : Write β → Option (Written β)
  | .append value => written.append reserved value
  | .fill value => some (written.fill reserved value)
  | .prepareForPositionalWrites => written.prepareForPositionalWrites reserved
  | .positionalWrite position value => written.positionalWrite position value

/-- What a history of writes leaves, where each of them is allowed. -/
def history (writes : List (Write β)) : Option (Written β) :=
  writes.foldlM (write reserved) empty

variable {reserved} {written written' : Written β} {value : β} {position : Nat}

/-! ## What a write may do -/

/-- An appended value is at the end. -/
theorem append_eq_some (allowed : written.append reserved value = some written') :
    written.values.length < reserved ∧ written'.values.length = written.values.length + 1 ∧
      written.entry written.values.length = none ∧
      ∀ i, written'.entry i = if i = written.values.length then some value else written.entry i := by
  unfold append at allowed
  split at allowed
  · next room =>
    cases allowed
    refine ⟨room.2, List.length_append, ?_, fun i => ?_⟩
    · unfold entry
      rw [List.getElem?_eq_none (Nat.le_refl _), Option.join_none]
    · unfold entry
      rw [List.getElem?_append]
      by_cases inside : i < written.values.length
      · rw [if_pos inside, if_neg (Nat.ne_of_lt inside)]
      · rw [if_neg inside, List.getElem?_eq_none (Nat.not_lt.mp inside)]
        by_cases last : i = written.values.length
        · rw [if_pos last, last, Nat.sub_self]
          rfl
        · rw [if_neg last, List.getElem?_eq_none, Option.join_none]
          rw [List.length_singleton]
          omega
  · cases allowed

theorem entry_replicate {entry : Option β} {prepared : Bool} (i : Nat) :
    Written.entry ⟨List.replicate reserved entry, prepared⟩ i =
      if i < reserved then entry else none := by
  unfold Written.entry
  rw [List.getElem?_replicate]
  split
  · rfl
  · rfl

/-- A filled list has the value everywhere. -/
theorem fill_spec :
    (written.fill reserved value).values.length = reserved ∧
      ∀ i, (written.fill reserved value).entry i = if i < reserved then some value else none :=
  ⟨List.length_replicate, entry_replicate⟩

/-- A prepared list has no value yet. -/
theorem prepare_eq_some (allowed : written.prepareForPositionalWrites reserved = some written') :
    written.values.length = 0 ∧ written'.values.length = reserved ∧
      (∀ i, written.entry i = none) ∧ ∀ i, written'.entry i = none := by
  unfold prepareForPositionalWrites at allowed
  split at allowed
  · next none =>
    cases allowed
    refine ⟨none, List.length_replicate, fun i => ?_, fun i => ?_⟩
    · unfold entry
      rw [List.eq_nil_of_length_eq_zero none, List.getElem?_nil, Option.join_none]
    · rw [entry_replicate]
      split <;> rfl
  · cases allowed

/-- A value is written at a position that had none, and nowhere else. -/
theorem positionalWrite_eq_some
    (allowed : written.positionalWrite position value = some written') :
    position < written.values.length ∧ written'.values.length = written.values.length ∧
      written.entry position = none ∧
      ∀ i, written'.entry i = if i = position then some value else written.entry i := by
  unfold positionalWrite at allowed
  split at allowed
  · next unwritten =>
    cases allowed
    obtain ⟨before, found, isNone⟩ := Option.map_eq_some_iff.mp unwritten.2
    obtain ⟨inside, -⟩ := List.getElem?_eq_some_iff.mp found
    refine ⟨inside, List.length_set, ?_, fun i => ?_⟩
    · unfold entry
      rw [found, Option.join_some]
      exact Option.isNone_iff_eq_none.mp isNone
    · unfold entry
      rw [List.getElem?_set]
      by_cases same : i = position
      · rw [if_pos same.symm, if_pos same, if_pos inside, Option.join_some]
      · rw [if_neg (Ne.symm same), if_neg same]
  · cases allowed

/-! ## Refinement -/

/-- **The rule for implementations.** What every allowed write keeps between the list and a state holds
after every history of allowed writes. -/
theorem refines {σ : Type} {step : σ → Write β → σ} {Holds : Written β → σ → Prop}
    {ok : Write β → Prop} {start : σ} (initially : Holds empty start)
    (keeps : ∀ written written' state next, ok next → Holds written state →
      write reserved written next = some written' → Holds written' (step state next))
    {writes : List (Write β)} (allOk : ∀ next ∈ writes, ok next)
    (allowed : history reserved writes = some written) : Holds written (writes.foldl step start) := by
  have general (writes : List (Write β)) (before : Written β) (state : σ) (holds : Holds before state)
      (allOk : ∀ next ∈ writes, ok next) (allowed : writes.foldlM (write reserved) before = some written) :
      Holds written (writes.foldl step state) := by
    induction writes generalizing before state with
    | nil =>
      cases allowed
      exact holds
    | cons next writes ih =>
      obtain ⟨nextOk, restOk⟩ := List.forall_mem_cons.mp allOk
      rw [List.foldlM_cons, Option.bind_eq_bind, Option.bind_eq_some_iff] at allowed
      obtain ⟨between, first, rest⟩ := allowed
      exact ih between (step state next) (keeps _ _ _ _ nextOk holds first) restOk rest
  exact general writes empty start initially allOk allowed

end Written

end Quickstep.Lib
