import Quickstep.Catalog.CatalogRelationSchema
import Quickstep.Utility.PtrVector

/-!
# Databases

`CatalogDatabase` of `catalog/CatalogDatabase.hpp`: a map from lower-cased names and a vector from ids to
the same relations. Above it stands a registry, a list of slots in which a dropped relation leaves a gap;
the database represents a registry at all times.
-/

namespace Quickstep.Catalog
open Quickstep.Lib Quickstep.Utility

structure CatalogDatabase where
  name : Str
  relVec : PtrVector
  relMap : UnorderedMap Str Pointer

/-- A database with the relations that its pointers point to. -/
structure CatalogState where
  heap : Heap CatalogRelationSchema
  database : CatalogDatabase

/-- `static_cast<size_type>` of an `int`. -/
def toSize (i : Int) : Nat := (i % 2 ^ 64).toNat

namespace CatalogDatabase

def create (name : Str) : CatalogDatabase := ⟨name, [], ∅⟩

def idInRange (db : CatalogDatabase) (id : Int) : Bool := decide (0 ≤ id ∧ toSize id < db.relVec.length)

def hasRelationWithNameUnsafe (db : CatalogDatabase) (relName : Str) : Bool :=
  (db.relMap.lookup (toLower relName)).isSome

def hasRelationWithIdUnsafe (db : CatalogDatabase) (id : Int) : Exec Bool :=
  if db.idInRange id then do pure !(← db.relVec.elementIsNull (toSize id)) else pure false

def getRelationByName (db : CatalogDatabase) (relName : Str) : Option Pointer :=
  db.relMap.lookup (toLower relName)

def getRelationById (db : CatalogDatabase) (id : Int) : Exec (Option Pointer) := do
  if ← db.hasRelationWithIdUnsafe id then pure (some (← db.relVec.elementAt (toSize id))) else pure none

def size (db : CatalogDatabase) : Nat := db.relMap.entries.length

end CatalogDatabase

namespace CatalogState

def create (name : Str) : CatalogState := ⟨.empty, .create name⟩

/-- Adds a relation that the caller has allocated. -/
def addRelation (newRel : Pointer) (s : CatalogState) :
    Exec (Except CatalogException Int × CatalogState) := do
  let schema ← s.heap.load newRel
  let lowerRelName := toLower schema.name
  let db := s.database
  if db.hasRelationWithNameUnsafe lowerRelName then
    pure (.error (.relationNameCollision db.name schema.name), s)
  else if kCatalogMaxID < db.relVec.length then
    pure (.error (.catalogIDOverflow (.ofText "relation")), s)
  else
    let relMap := db.relMap.insert lowerRelName newRel
    let relVec := db.relVec ++ [some newRel]
    let heap ← s.heap.store newRel { schema with id := toInt (relVec.length - 1) }
    let added ← heap.load newRel
    pure (.ok added.id, ⟨heap, { db with relVec, relMap }⟩)

def dropRelationByName (relName : Str) (s : CatalogState) :
    Exec (Except CatalogException Unit × CatalogState) :=
  let db := s.database
  match db.relMap.lookup (toLower relName) with
  | none => pure (.error (.relationNameNotFound db.name relName), s)
  | some found => do
    let schema ← s.heap.load found
    let (relVec, heap) ← db.relVec.deleteElement (toSize schema.id) s.heap
    pure (.ok (), ⟨heap, { db with relVec, relMap := db.relMap.erase (toLower relName) }⟩)

def dropRelationById (id : Int) (s : CatalogState) :
    Exec (Except CatalogException Unit × CatalogState) := do
  let db := s.database
  if ← db.hasRelationWithIdUnsafe id then
    let schema ← s.heap.load (← db.relVec.elementAt (toSize id))
    let relMap := db.relMap.erase (toLower schema.name)
    let (relVec, heap) ← db.relVec.deleteElement (toSize id) s.heap
    pure (.ok (), ⟨heap, { db with relVec, relMap }⟩)
  else pure (.error (.relationIdNotFound db.name id), s)

end CatalogState

/-! ## Sequences of calls -/

/-- A call of the database; `addRelation` gets a relation of its own, and an id is any `int`. -/
inductive Call where
  | addRelation (newRel : CatalogRelationSchema)
  | dropRelationByName (relName : Str)
  | dropRelationById (id : BitVec 32)

/-- What a call returns or throws; only `addRelation` returns an id. -/
abbrev CallResult := Except CatalogException (Option Int)

namespace CatalogState

def call : Call → CatalogState → Exec (CallResult × CatalogState)
  | .addRelation newRel, s => do
    let (result, s) ← addRelation s.heap.next { s with heap := s.heap.alloc newRel }
    pure (result.map some, s)
  | .dropRelationByName relName, s => do
    let (result, s) ← dropRelationByName relName s
    pure (result.map fun _ => none, s)
  | .dropRelationById id, s => do
    let (result, s) ← dropRelationById id.toInt s
    pure (result.map fun _ => none, s)

def run : List Call → CatalogState → Exec (List CallResult × CatalogState)
  | [], s => pure ([], s)
  | next :: calls, s => do
    let (result, s) ← call next s
    let (results, s) ← run calls s
    pure (result :: results, s)

end CatalogState

/-! ## Registries -/

theorem getElem?_append_singleton {α : Type} {xs : List α} {x y : α} {i : Nat} :
    (xs ++ [x])[i]? = some y ↔ xs[i]? = some y ∨ i = xs.length ∧ y = x := by
  rcases Nat.lt_trichotomy i xs.length with before | rfl | after
  · rw [List.getElem?_append_left before]
    simp [Nat.ne_of_lt before]
  · simp [eq_comm]
  · have past : (xs ++ [x]).length ≤ i := by
      rw [List.length_append, List.length_singleton]
      exact after
    rw [List.getElem?_eq_none past, List.getElem?_eq_none (Nat.le_of_lt after)]
    simp [Nat.ne_of_gt after]

theorem getElem?_set_none {α : Type} {xs : List (Option α)} {slot : Option α}
    {i j : Nat} :
    (xs.set i none)[j]? = some slot ↔ j < xs.length ∧ j = i ∧ slot = none ∨ j ≠ i ∧ xs[j]? = some slot := by
  rw [List.getElem?_set]
  by_cases same : i = j
  · subst same
    by_cases inside : i < xs.length
    · simp [inside, eq_comm]
    · simp [inside]
  · simp [same, Ne.symm same]

/-- The slot holds a relation whose name is this one in lower case. -/
def named (lower : Str) : Option CatalogRelationSchema → Bool
  | some schema => toLower schema.name = lower
  | none => false

/-- What a database is for: the relations by their ids, with a gap for every dropped one. -/
@[ext] structure Registry where
  name : Str
  slots : List (Option CatalogRelationSchema)
  ids : ∀ (i : Nat) (schema : CatalogRelationSchema), slots[i]? = some (some schema) → schema.id = i
  distinct : ∀ (lower : Str) (i j : Nat) (slot slot' : Option CatalogRelationSchema),
    slots[i]? = some slot → slots[j]? = some slot' → named lower slot = true →
    named lower slot' = true → i = j
  bounded : slots.length ≤ kCatalogMaxID + 1

namespace Registry

def create (name : Str) : Registry where
  name := name
  slots := []
  ids i schema found := by simp at found
  distinct lower i j slot slot' found := by simp at found
  bounded := by decide

/-- The slot of the relation with this lower-cased name. -/
def find (registry : Registry) (lower : Str) : Option Nat := registry.slots.findIdx? (named lower)

/-- Whether the slot of an id holds a relation. -/
def hasId (registry : Registry) (id : Int) : Bool :=
  decide (0 ≤ id) && (registry.slots.getD id.toNat none).isSome

/-- The relations that have not been dropped. -/
def live (registry : Registry) : List CatalogRelationSchema := registry.slots.filterMap id

variable {registry : Registry} {lower : Str} {i j : Nat} {slot : Option CatalogRelationSchema}

theorem find_eq_some_iff : registry.find lower = some i ↔
    ∃ slot, registry.slots[i]? = some slot ∧ named lower slot = true := by
  unfold find
  rw [List.findIdx?_eq_some_iff_getElem]
  constructor
  · rintro ⟨inside, here, _⟩
    exact ⟨registry.slots[i], List.getElem?_eq_getElem inside, here⟩
  · rintro ⟨slot, found, here⟩
    obtain ⟨inside, rfl⟩ := List.getElem?_eq_some_iff.mp found
    refine ⟨inside, here, fun j before there => ?_⟩
    have same := registry.distinct lower i j _ _ found (List.getElem?_eq_getElem (by omega)) here there
    omega

theorem find_eq_none_iff : registry.find lower = none ↔
    ∀ (i : Nat) slot, registry.slots[i]? = some slot → named lower slot = false := by
  unfold find
  rw [List.findIdx?_eq_none_iff]
  constructor
  · exact fun none i slot found => none slot (List.mem_of_getElem? found)
  · intro none slot mem
    obtain ⟨i, found⟩ := List.getElem?_of_mem mem
    exact none i slot found

theorem hasId_iff {id : Int} : registry.hasId id = true ↔
    0 ≤ id ∧ ∃ schema, registry.slots[id.toNat]? = some (some schema) := by
  unfold hasId
  rw [Bool.and_eq_true, decide_eq_true_eq, List.getD_eq_getElem?_getD]
  cases registry.slots[id.toNat]? with
  | none => simp
  | some slot => cases slot <;> simp

/-- The name of a relation finds it. -/
theorem find_of_slot {schema : CatalogRelationSchema}
    (found : registry.slots[i]? = some (some schema)) :
    registry.find (toLower schema.name) = some i :=
  find_eq_some_iff.mpr ⟨_, found, decide_eq_true rfl⟩

/-- The relation gets the next id. -/
def add (registry : Registry) (newRel : CatalogRelationSchema)
    (fresh : registry.find (toLower newRel.name) = none) (room : registry.slots.length ≤ kCatalogMaxID) :
    Registry where
  name := registry.name
  slots := registry.slots ++ [some { newRel with id := registry.slots.length }]
  ids i schema found := by
    rcases getElem?_append_singleton.mp found with before | ⟨rfl, last⟩
    · exact registry.ids i schema before
    · rw [Option.some.inj last]
  distinct lower i j slot slot' found found' here there := by
    rw [find_eq_none_iff] at fresh
    rcases getElem?_append_singleton.mp found with before | ⟨rfl, rfl⟩
    · rcases getElem?_append_singleton.mp found' with before' | ⟨rfl, rfl⟩
      · exact registry.distinct lower i j slot slot' before before' here there
      · obtain rfl : toLower newRel.name = lower := of_decide_eq_true there
        rw [fresh i slot before] at here
        cases here
    · rcases getElem?_append_singleton.mp found' with before' | ⟨rfl, rfl⟩
      · obtain rfl : toLower newRel.name = lower := of_decide_eq_true here
        rw [fresh j slot' before'] at there
        cases there
      · rfl
  bounded := by
    rw [List.length_append, List.length_singleton]
    omega

/-- The relation leaves a gap. -/
def drop (registry : Registry) (i : Nat) : Registry where
  name := registry.name
  slots := registry.slots.set i none
  ids j schema found := by
    rcases getElem?_set_none.mp found with ⟨_, _, gap⟩ | ⟨_, before⟩
    · cases gap
    · exact registry.ids j schema before
  distinct lower j k slot slot' found found' here there := by
    rcases getElem?_set_none.mp found with ⟨_, _, rfl⟩ | ⟨_, before⟩
    · cases here
    · rcases getElem?_set_none.mp found' with ⟨_, _, rfl⟩ | ⟨_, before'⟩
      · cases there
      · exact registry.distinct lower j k slot slot' before before' here there
  bounded := by
    rw [List.length_set]
    exact registry.bounded

theorem find_add {newRel : CatalogRelationSchema} (fresh : registry.find (toLower newRel.name) = none)
    (room : registry.slots.length ≤ kCatalogMaxID) (lower : Str) :
    (registry.add newRel fresh room).find lower =
      if lower = toLower newRel.name then some registry.slots.length else registry.find lower := by
  have slots : (registry.add newRel fresh room).slots =
      registry.slots ++ [some { newRel with id := registry.slots.length }] := rfl
  unfold find at fresh ⊢
  rw [slots, List.findIdx?_append]
  by_cases same : lower = toLower newRel.name
  · subst same
    rw [fresh, if_pos rfl]
    simp [named]
  · rw [if_neg same]
    simp [named, Ne.symm same]

/-- Only the dropped relation is not found any more. -/
theorem find_drop (lower : Str) :
    (registry.drop i).find lower = if registry.find lower = some i then none else registry.find lower := by
  have slots : (registry.drop i).slots = registry.slots.set i none := rfl
  cases found : registry.find lower with
  | none =>
    rw [if_neg (Option.some_ne_none i).symm, find_eq_none_iff]
    rw [find_eq_none_iff] at found
    intro j slot there
    rw [slots, getElem?_set_none] at there
    rcases there with ⟨_, _, rfl⟩ | ⟨_, before⟩
    · rfl
    · exact found j slot before
  | some j =>
    obtain ⟨slot, there, here⟩ := find_eq_some_iff.mp found
    by_cases same : j = i
    · subst same
      rw [if_pos rfl, find_eq_none_iff]
      intro k slot' before
      rw [slots, getElem?_set_none] at before
      rcases before with ⟨_, _, rfl⟩ | ⟨other, before⟩
      · rfl
      · by_contra isNamed
        rw [Bool.not_eq_false] at isNamed
        exact other (registry.distinct lower k j _ _ before there isNamed here)
    · rw [if_neg (fun eq => same (Option.some.inj eq)), find_eq_some_iff]
      refine ⟨slot, ?_, here⟩
      rw [slots, getElem?_set_none]
      exact .inr ⟨same, there⟩

def call (registry : Registry) : Call → CallResult × Registry
  | .addRelation newRel =>
    if fresh : registry.find (toLower newRel.name) = none then
      if room : registry.slots.length ≤ kCatalogMaxID then
        (.ok (some registry.slots.length), registry.add newRel fresh room)
      else (.error (.catalogIDOverflow (.ofText "relation")), registry)
    else (.error (.relationNameCollision registry.name newRel.name), registry)
  | .dropRelationByName relName =>
    match registry.find (toLower relName) with
    | some i => (.ok none, registry.drop i)
    | none => (.error (.relationNameNotFound registry.name relName), registry)
  | .dropRelationById id =>
    if registry.hasId id.toInt then (.ok none, registry.drop id.toInt.toNat)
    else (.error (.relationIdNotFound registry.name id.toInt), registry)

theorem call_addRelation {newRel : CatalogRelationSchema}
    (fresh : registry.find (toLower newRel.name) = none) (room : registry.slots.length ≤ kCatalogMaxID) :
    registry.call (.addRelation newRel) =
      (.ok (some registry.slots.length), registry.add newRel fresh room) := by
  simp only [call, dif_pos fresh, dif_pos room]

theorem call_dropRelationByName {relName : Str} (found : registry.find (toLower relName) = some i) :
    registry.call (.dropRelationByName relName) = (.ok none, registry.drop i) := by
  simp only [call, found]

def run (registry : Registry) : List Call → List CallResult × Registry
  | [] => ([], registry)
  | next :: calls =>
    let (result, registry) := registry.call next
    let (results, registry) := registry.run calls
    (result :: results, registry)

end Registry

end Quickstep.Catalog
