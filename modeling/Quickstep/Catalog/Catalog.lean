import Quickstep.Catalog.CatalogSerialization

/-!
# The catalog

`Catalog` of `catalog/Catalog.hpp`: databases by their names, which are case-sensitive here, and by ids
that are given out one after the other. Above it stands a directory, a list of registries with different
names; the catalog represents one at all times, whatever is done to the databases in it. The back
pointers to the catalog are left out.
-/

namespace Quickstep.Catalog
open Quickstep.Lib Quickstep.Utility

/-- A database and its `id_`. -/
structure DatabaseObject where
  id : Int
  state : CatalogState

/-- An object of class `Catalog`. -/
structure CatalogObject where
  dbVec : PtrVector
  dbMap : UnorderedMap Str Pointer

/-- A catalog with the databases that its pointers point to. -/
structure CatalogMemory where
  heap : Heap DatabaseObject
  catalog : CatalogObject

inductive CatalogError where
  | databaseNameCollision (dbName : Str)
  | databaseNameNotFound (dbName : Str)
  | databaseIdNotFound (id : Int)
  | ofDatabase (exception : CatalogException)
  deriving DecidableEq

def CatalogError.what : CatalogError → Str
  | databaseNameCollision dbName =>
    .ofText "DatabaseNameCollision: catalog already has a database " ++ dbName
  | databaseNameNotFound dbName =>
    .ofText "DatabaseNameNotFound: catalog has no database named " ++ dbName
  | databaseIdNotFound id =>
    .ofText "DatabaseIdNotFound: catalog has no database with ID " ++ .ofText (toString id)
  | ofDatabase exception => exception.what

namespace CatalogObject

def create : CatalogObject := ⟨[], ∅⟩

def idInRange (catalog : CatalogObject) (id : Int) : Bool :=
  decide (0 ≤ id ∧ toSize id < catalog.dbVec.length)

def hasDatabaseWithName (catalog : CatalogObject) (dbName : Str) : Bool := (catalog.dbMap.lookup dbName).isSome

def hasDatabaseWithId (catalog : CatalogObject) (id : Int) : Exec Bool :=
  if catalog.idInRange id then do pure !(← catalog.dbVec.elementIsNull (toSize id)) else pure false

def getDatabaseByName (catalog : CatalogObject) (dbName : Str) : Except CatalogError Pointer :=
  match catalog.dbMap.lookup dbName with
  | none => .error (.databaseNameNotFound dbName)
  | some db => .ok db

def getDatabaseById (catalog : CatalogObject) (id : Int) : Exec (Except CatalogError Pointer) := do
  if ← catalog.hasDatabaseWithId id then pure (.ok (← catalog.dbVec.elementAt (toSize id)))
  else pure (.error (.databaseIdNotFound id))

end CatalogObject

namespace CatalogMemory

def create : CatalogMemory := ⟨.empty, .create⟩

/-- Adds a database that the caller has allocated. -/
def addDatabase (newDb : Pointer) (c : CatalogMemory) : Exec (Except CatalogError Int × CatalogMemory) := do
  let object ← c.heap.load newDb
  let dbName := object.state.database.name
  let catalog := c.catalog
  if catalog.hasDatabaseWithName dbName then
    pure (.error (.databaseNameCollision dbName), c)
  else if kCatalogMaxID < catalog.dbVec.length then
    pure (.error (.ofDatabase (.catalogIDOverflow (.ofText "database"))), c)
  else
    let dbMap := catalog.dbMap.insert dbName newDb
    let dbVec := catalog.dbVec ++ [some newDb]
    let heap ← c.heap.store newDb { object with id := toInt (dbVec.length - 1) }
    let added ← heap.load newDb
    pure (.ok added.id, ⟨heap, ⟨dbVec, dbMap⟩⟩)

/-- A call of a database that the catalog has returned a pointer to. -/
def callDatabase (db : Pointer) (next : Call) (c : CatalogMemory) :
    Exec (Except CatalogError (Option Int) × CatalogMemory) := do
  let object ← c.heap.load db
  let (result, state) ← object.state.call next
  let heap ← c.heap.store db { object with state }
  pure (result.mapError .ofDatabase, { c with heap })

end CatalogMemory

/-! ## Sequences of calls -/

/-- What a program does with a catalog: it adds a database that it has made and used, or calls one that
it got from `getDatabaseByNameMutable` or `getDatabaseByIdMutable`. -/
inductive CatalogCall where
  | addDatabase (dbName : Str) (calls : List Call)
  | callByName (dbName : Str) (next : Call)
  | callById (id : BitVec 32) (next : Call)

namespace CatalogMemory

def call : CatalogCall → CatalogMemory → Exec (Except CatalogError (Option Int) × CatalogMemory)
  | .addDatabase dbName calls, c => do
    let (_, state) ← CatalogState.run calls (.create dbName)
    let (result, c) ← addDatabase c.heap.next { c with heap := c.heap.alloc ⟨-1, state⟩ }
    pure (result.map some, c)
  | .callByName dbName next, c =>
    match c.catalog.getDatabaseByName dbName with
    | .error exception => pure (.error exception, c)
    | .ok db => callDatabase db next c
  | .callById id next, c => do
    match ← c.catalog.getDatabaseById id.toInt with
    | .error exception => pure (.error exception, c)
    | .ok db => callDatabase db next c

def run : List CatalogCall → CatalogMemory → Exec (List (Except CatalogError (Option Int)) × CatalogMemory)
  | [], c => pure ([], c)
  | next :: calls, c => do
    let (result, c) ← call next c
    let (results, c) ← run calls c
    pure (result :: results, c)

end CatalogMemory

/-! ## Directories -/

/-- What a catalog is for: the databases by their ids, with different names. -/
@[ext] structure Directory where
  registries : List Registry
  distinct : (registries.map Registry.name).Nodup
  bounded : registries.length ≤ kCatalogMaxID + 1

theorem Registry.name_call (registry : Registry) (next : Call) :
    (registry.call next).2.name = registry.name := by
  cases next with
  | addRelation newRel =>
    simp only [call]
    split
    · split <;> rfl
    · rfl
  | dropRelationByName relName =>
    simp only [call]
    split <;> rfl
  | dropRelationById id =>
    simp only [call]
    split <;> rfl

theorem Registry.name_run (registry : Registry) (calls : List Call) :
    (registry.run calls).2.name = registry.name := by
  induction calls generalizing registry with
  | nil => rfl
  | cons next calls ih => exact (ih _).trans (registry.name_call next)

namespace Directory

def create : Directory := ⟨[], by simp, by decide⟩

def find (directory : Directory) (dbName : Str) : Option Nat :=
  directory.registries.findIdx? fun registry => decide (registry.name = dbName)

variable {directory : Directory} {dbName : Str} {i : Nat} {registry : Registry}

theorem find_eq_none_iff : directory.find dbName = none ↔ dbName ∉ directory.registries.map Registry.name := by
  simp [find, List.findIdx?_eq_none_iff]

/-- A name finds the one database that has it. -/
theorem find_eq_some_iff : directory.find dbName = some i ↔
    ∃ registry, directory.registries[i]? = some registry ∧ registry.name = dbName := by
  unfold find
  rw [List.findIdx?_eq_some_iff_getElem]
  constructor
  · rintro ⟨inside, here, _⟩
    exact ⟨directory.registries[i], List.getElem?_eq_getElem inside, of_decide_eq_true here⟩
  · rintro ⟨registry, found, rfl⟩
    obtain ⟨inside, rfl⟩ := List.getElem?_eq_some_iff.mp found
    refine ⟨inside, by simp, fun j before there => ?_⟩
    have names := directory.distinct
    rw [List.Nodup, List.pairwise_iff_getElem] at names
    refine names j i (by simp; omega) (by simpa using inside) before ?_
    simpa using there

/-- The next id is that of the new database. -/
def add (directory : Directory) (registry : Registry) (fresh : directory.find registry.name = none)
    (room : directory.registries.length ≤ kCatalogMaxID) : Directory where
  registries := directory.registries ++ [registry]
  distinct := by
    rw [List.map_append, List.map_singleton, List.nodup_append]
    refine ⟨directory.distinct, List.nodup_singleton _, fun name mem name' mem' same => ?_⟩
    rw [List.mem_singleton.mp mem'] at same
    exact find_eq_none_iff.mp fresh (same ▸ mem)
  bounded := by
    rw [List.length_append, List.length_singleton]
    omega

/-- A call of the database with this id, which keeps its name. -/
def update (directory : Directory) (i : Nat) (next : Call) : Directory where
  registries := directory.registries.modify i fun registry => (registry.call next).2
  distinct := by
    have names : (directory.registries.modify i fun registry => (registry.call next).2).map Registry.name =
        directory.registries.map Registry.name := by
      apply List.ext_getElem?
      intro j
      rw [List.getElem?_map, List.getElem?_map, List.getElem?_modify]
      cases directory.registries[j]? with
      | none => rfl
      | some registry => by_cases same : i = j <;> simp [same, Registry.name_call]
    rw [names]
    exact directory.distinct
  bounded := by
    rw [List.length_modify]
    exact directory.bounded

def callAt (directory : Directory) (i : Nat) (next : Call) :
    Except CatalogError (Option Int) × Directory :=
  match directory.registries[i]? with
  | some registry => ((registry.call next).1.mapError .ofDatabase, directory.update i next)
  | none => (.error (.databaseIdNotFound i), directory)

def call (directory : Directory) : CatalogCall → Except CatalogError (Option Int) × Directory
  | .addDatabase dbName calls =>
    if fresh : directory.find (((Registry.create dbName).run calls).2.name) = none then
      if room : directory.registries.length ≤ kCatalogMaxID then
        (.ok (some directory.registries.length), directory.add ((Registry.create dbName).run calls).2 fresh room)
      else (.error (.ofDatabase (.catalogIDOverflow (.ofText "database"))), directory)
    else (.error (.databaseNameCollision dbName), directory)
  | .callByName dbName next =>
    match directory.find dbName with
    | some i => directory.callAt i next
    | none => (.error (.databaseNameNotFound dbName), directory)
  | .callById id next =>
    if 0 ≤ id.toInt ∧ id.toInt.toNat < directory.registries.length then
      directory.callAt id.toInt.toNat next
    else (.error (.databaseIdNotFound id.toInt), directory)

def run (directory : Directory) : List CatalogCall → List (Except CatalogError (Option Int)) × Directory
  | [] => ([], directory)
  | next :: calls =>
    let (result, directory) := directory.call next
    let (results, directory) := directory.run calls
    (result :: results, directory)

end Directory

/-! ## A catalog represents a directory -/

structure RepresentsDirectory (c : CatalogMemory) (directory : Directory) : Prop where
  length : c.catalog.dbVec.length = directory.registries.length
  database : ∀ (i : Nat) registry, directory.registries[i]? = some registry →
    ∃ p object, c.catalog.dbVec[i]? = some (some p) ∧ c.heap.Live p object ∧ object.id = i ∧
      Represents object.state registry
  map : ∀ dbName, c.catalog.dbMap.lookup dbName =
    (directory.find dbName).bind fun i => c.catalog.dbVec[i]?.join

namespace RepresentsDirectory

variable {c : CatalogMemory} {directory : Directory} {i j : Nat} {p : Pointer}

theorem create : RepresentsDirectory .create .create where
  length := rfl
  database i registry found := by simp [Directory.create] at found
  map dbName := rfl

theorem registry (rep : RepresentsDirectory c directory) (element : c.catalog.dbVec[i]? = some (some p)) :
    ∃ registry object, directory.registries[i]? = some registry ∧ c.heap.Live p object ∧ object.id = i ∧
      Represents object.state registry := by
  have inside := (List.getElem?_eq_some_iff.mp element).1
  rw [rep.length] at inside
  have found := List.getElem?_eq_getElem inside
  obtain ⟨q, object, element', live, id, rep'⟩ := rep.database i _ found
  rw [element] at element'
  cases element'
  exact ⟨_, object, found, live, id, rep'⟩

/-- No two elements point to one database. -/
theorem index_unique (rep : RepresentsDirectory c directory) (here : c.catalog.dbVec[i]? = some (some p))
    (there : c.catalog.dbVec[j]? = some (some p)) : i = j := by
  obtain ⟨_, object, _, live, id, _⟩ := rep.registry here
  obtain ⟨_, object', _, live', id', _⟩ := rep.registry there
  obtain rfl := live.unique live'
  omega

theorem lookup_of_find {dbName : Str} (rep : RepresentsDirectory c directory)
    (found : directory.find dbName = some i) : ∃ p registry object,
      c.catalog.dbMap.lookup dbName = some p ∧ c.catalog.dbVec[i]? = some (some p) ∧
      directory.registries[i]? = some registry ∧ c.heap.Live p object ∧
      Represents object.state registry := by
  obtain ⟨registry, here, _⟩ := Directory.find_eq_some_iff.mp found
  obtain ⟨p, object, element, live, _, rep'⟩ := rep.database i registry here
  refine ⟨p, registry, object, ?_, element, here, live, rep'⟩
  simp [rep.map, found, element]

theorem lookup_of_not_find {dbName : Str} (rep : RepresentsDirectory c directory)
    (fresh : directory.find dbName = none) : c.catalog.dbMap.lookup dbName = none := by
  simp [rep.map, fresh]

theorem alloc (rep : RepresentsDirectory c directory) (object : DatabaseObject) :
    RepresentsDirectory { c with heap := c.heap.alloc object } directory where
  length := rep.length
  database i registry found := by
    obtain ⟨p, object', element, live, rest⟩ := rep.database i registry found
    exact ⟨p, object', element, live.alloc object, rest⟩
  map := rep.map

end RepresentsDirectory

theorem Directory.find_add {directory : Directory} {registry : Registry}
    (fresh : directory.find registry.name = none) (room : directory.registries.length ≤ kCatalogMaxID)
    (dbName : Str) : (directory.add registry fresh room).find dbName =
      if dbName = registry.name then some directory.registries.length else directory.find dbName := by
  have registries : (directory.add registry fresh room).registries = directory.registries ++ [registry] :=
    rfl
  unfold find at fresh ⊢
  rw [registries, List.findIdx?_append]
  by_cases same : dbName = registry.name
  · subst same
    simp [fresh]
  · simp [same, Ne.symm same]

theorem RepresentsDirectory.add {c : CatalogMemory} {directory : Directory} {registry : Registry}
    {heap : Heap DatabaseObject} {p : Pointer} {object : DatabaseObject}
    (rep : RepresentsDirectory c directory) (fresh : directory.find registry.name = none)
    (room : directory.registries.length ≤ kCatalogMaxID)
    (live : heap.Live p object) (id : object.id = directory.registries.length)
    (rep' : Represents object.state registry)
    (kept : ∀ q other, c.heap.Live q other → heap.Live q other) :
    RepresentsDirectory
      ⟨heap, ⟨c.catalog.dbVec ++ [some p], c.catalog.dbMap.insert registry.name p⟩⟩
      (directory.add registry fresh room) where
  length := by simp [Directory.add, rep.length]
  database i other found := by
    rcases getElem?_append_singleton.mp found with before | ⟨rfl, rfl⟩
    · obtain ⟨q, object', element, live', rest⟩ := rep.database i other before
      have inside := (List.getElem?_eq_some_iff.mp element).1
      exact ⟨q, object', (List.getElem?_append_left inside).trans element, kept q object' live', rest⟩
    · refine ⟨p, object, ?_, live, id, rep'⟩
      rw [← rep.length]
      exact List.getElem?_concat_length
  map dbName := by
    rw [Directory.find_add]
    by_cases same : dbName = registry.name
    · subst same
      rw [AList.lookup_insert, if_pos rfl, Option.bind_some, ← rep.length, List.getElem?_concat_length]
      rfl
    · rw [AList.lookup_insert_ne same, if_neg same, rep.map]
      cases found : directory.find dbName with
      | none => rfl
      | some i =>
        obtain ⟨q, _, _, _, element, _⟩ := rep.lookup_of_find found
        have inside := (List.getElem?_eq_some_iff.mp element).1
        simp [List.getElem?_append_left inside]

/-! ## Calls -/

section Calls

variable {c : CatalogMemory} {directory : Directory}

@[simp] theorem Directory.find_update (directory : Directory) (i : Nat) (next : Call) (dbName : Str) :
    (directory.update i next).find dbName = directory.find dbName := by
  apply Option.ext
  intro j
  show _ = some j ↔ _ = some j
  rw [find_eq_some_iff, find_eq_some_iff]
  show (∃ registry, (directory.registries.modify i _)[j]? = some registry ∧ _) ↔ _
  rw [List.getElem?_modify]
  cases directory.registries[j]? with
  | none => simp
  | some registry => by_cases same : i = j <;> simp [same, Registry.name_call]

/-- A call of one database leaves the others alone. -/
theorem callDatabase_answers {i : Nat} {p : Pointer} (rep : RepresentsDirectory c directory)
    (element : c.catalog.dbVec[i]? = some (some p)) (next : Call) :
    ∃ c', c.callDatabase p next = .ok ((directory.callAt i next).1, c') ∧
      RepresentsDirectory c' (directory.callAt i next).2 := by
  obtain ⟨registry, object, found, live, id, rep'⟩ := rep.registry element
  obtain ⟨state, call, answers⟩ := call_answers rep' next
  obtain ⟨heap, stored, live', others⟩ := Heap.store_spec live { object with state }
  have answer : directory.callAt i next =
      ((registry.call next).1.mapError .ofDatabase, directory.update i next) := by
    simp [Directory.callAt, found]
  rw [answer]
  refine ⟨{ c with heap }, ?_, ?_, ?_, ?_⟩
  · unfold CatalogMemory.callDatabase
    simp only [Heap.load_of_live live, Exec.ok_bind, call, stored]
    rfl
  · show _ = (directory.registries.modify i _).length
    rw [List.length_modify]
    exact rep.length
  · intro j other found'
    by_cases same : i = j
    · subst same
      have updated : (directory.update i next).registries[i]? = some (registry.call next).2 := by
        show (directory.registries.modify i _)[i]? = _
        simp [found]
      rw [updated] at found'
      cases found'
      exact ⟨p, _, element, live', id, answers.represents⟩
    · have before : directory.registries[j]? = some other := by
        have unchanged : (directory.update i next).registries[j]? = directory.registries[j]? := by
          show (directory.registries.modify i _)[j]? = _
          simp [same]
        rwa [unchanged] at found'
      obtain ⟨q, object', element', live'', rest⟩ := rep.database j other before
      have different : q ≠ p := fun eq => same (rep.index_unique element (eq ▸ element'))
      exact ⟨q, object', element', (others q object' different).mpr live'', rest⟩
  · intro dbName
    rw [Directory.find_update]
    exact rep.map dbName

theorem hasDatabaseWithName_iff (rep : RepresentsDirectory c directory) (dbName : Str) :
    c.catalog.hasDatabaseWithName dbName = true ↔ directory.find dbName ≠ none := by
  unfold CatalogObject.hasDatabaseWithName
  cases found : directory.find dbName with
  | none => simp [rep.lookup_of_not_find found]
  | some i =>
    obtain ⟨p, _, _, lookup, _⟩ := rep.lookup_of_find found
    simp [lookup]

/-- `addDatabase` of a database that was just allocated, under a new name. -/
theorem addDatabase_fresh {registry : Registry} {state : CatalogState}
    (rep : RepresentsDirectory c directory) (rep' : Represents state registry)
    (fresh : directory.find registry.name = none) (room : directory.registries.length ≤ kCatalogMaxID) :
    ∃ c', CatalogMemory.addDatabase c.heap.next { c with heap := c.heap.alloc ⟨-1, state⟩ } =
        .ok (.ok directory.registries.length, c') ∧
      RepresentsDirectory c' (directory.add registry fresh room) := by
  have allocated := Heap.live_alloc_next c.heap ⟨-1, state⟩
  have taken := hasDatabaseWithName_iff rep registry.name
  have stateName : state.database.name = registry.name := rep'.name
  have id : toInt ((c.catalog.dbVec ++ [some c.heap.next]).length - 1) =
      directory.registries.length := by
    rw [List.length_append, List.length_singleton, Nat.add_sub_cancel, rep.length]
    exact toInt_of_le room
  obtain ⟨heap, stored, added, others⟩ := Heap.store_spec allocated ⟨directory.registries.length, state⟩
  have kept : ∀ q other, c.heap.Live q other → heap.Live q other := fun q other live =>
    (others q other live.ne_next).mpr (live.alloc _)
  simp only [CatalogMemory.addDatabase, Heap.load_of_live allocated, Exec.ok_bind, stateName]
  rw [if_neg (fun found => taken.mp found fresh), if_neg (by rw [rep.length]; omega), id, stored]
  simp only [Exec.ok_bind, Heap.load_of_live added]
  exact ⟨_, rfl, rep.add fresh room added rfl rep' kept⟩

/-- A database that was made and used before it is added. -/
theorem addDatabase_answers (rep : RepresentsDirectory c directory) (dbName : Str) (calls : List Call) :
    ∃ c', CatalogMemory.call (.addDatabase dbName calls) c =
        .ok ((directory.call (.addDatabase dbName calls)).1, c') ∧
      RepresentsDirectory c' (directory.call (.addDatabase dbName calls)).2 := by
  obtain ⟨state, made, rep', _⟩ := run_answers (Represents.create dbName) calls
  have name := Registry.name_run (Registry.create dbName) calls
  simp only [CatalogMemory.call, made, Exec.ok_bind, Directory.call]
  generalize ((Registry.create dbName).run calls).2 = registry at rep' name
  have taken := hasDatabaseWithName_iff rep registry.name
  have stateName : state.database.name = registry.name := rep'.name
  by_cases fresh : directory.find registry.name = none
  · rw [dif_pos fresh]
    by_cases room : directory.registries.length ≤ kCatalogMaxID
    · obtain ⟨c', added, rep''⟩ := addDatabase_fresh rep rep' fresh room
      rw [dif_pos room, added]
      exact ⟨c', rfl, rep''⟩
    · simp only [CatalogMemory.addDatabase, Heap.load_of_live (Heap.live_alloc_next _ _), Exec.ok_bind,
        stateName]
      rw [if_neg (fun found => taken.mp found fresh), if_pos (by rw [rep.length]; omega),
        dif_neg room]
      exact ⟨_, rfl, rep.alloc _⟩
  · simp only [CatalogMemory.addDatabase, Heap.load_of_live (Heap.live_alloc_next _ _), Exec.ok_bind,
      stateName]
    rw [if_pos (taken.mpr fresh), dif_neg fresh, name]
    exact ⟨_, rfl, rep.alloc _⟩

theorem callByName_answers (rep : RepresentsDirectory c directory) (dbName : Str) (next : Call) :
    ∃ c', CatalogMemory.call (.callByName dbName next) c =
        .ok ((directory.call (.callByName dbName next)).1, c') ∧
      RepresentsDirectory c' (directory.call (.callByName dbName next)).2 := by
  simp only [CatalogMemory.call, CatalogObject.getDatabaseByName, Directory.call]
  cases found : directory.find dbName with
  | none =>
    simp only [rep.lookup_of_not_find found]
    exact ⟨c, rfl, rep⟩
  | some i =>
    obtain ⟨p, _, _, lookup, element, _⟩ := rep.lookup_of_find found
    simp only [lookup]
    exact callDatabase_answers rep element next

theorem toSize_toInt {id : BitVec 32} (nonneg : 0 ≤ id.toInt) : toSize id.toInt = id.toInt.toNat := by
  have bound := BitVec.toInt_lt (x := id)
  unfold toSize
  omega

theorem callById_answers (rep : RepresentsDirectory c directory) (id : BitVec 32) (next : Call) :
    ∃ c', CatalogMemory.call (.callById id next) c =
        .ok ((directory.call (.callById id next)).1, c') ∧
      RepresentsDirectory c' (directory.call (.callById id next)).2 := by
  simp only [CatalogMemory.call, CatalogObject.getDatabaseById, CatalogObject.hasDatabaseWithId,
    CatalogObject.idInRange, Directory.call, rep.length]
  by_cases inRange : 0 ≤ id.toInt ∧ id.toInt.toNat < directory.registries.length
  · obtain ⟨nonneg, inside⟩ := inRange
    obtain ⟨p, object, element, live, _⟩ := rep.database _ _ (List.getElem?_eq_getElem inside)
    rw [← toSize_toInt nonneg] at element inside
    rw [if_pos (show _ ∧ _ from ⟨nonneg, toSize_toInt nonneg ▸ inside⟩),
      if_pos (decide_eq_true ⟨nonneg, inside⟩), PtrVector.elementIsNull_of_getElem? element]
    simp only [Exec.ok_bind, PtrVector.elementAt_of_getElem? element]
    rw [toSize_toInt nonneg] at element
    exact callDatabase_answers rep element next
  · have outside : ¬ (0 ≤ id.toInt ∧ toSize id.toInt < directory.registries.length) := by
      rintro ⟨nonneg, inside⟩
      rw [toSize_toInt nonneg] at inside
      exact inRange ⟨nonneg, inside⟩
    rw [if_neg inRange, if_neg (by simpa using outside)]
    exact ⟨c, rfl, rep⟩

theorem catalogCall_answers (rep : RepresentsDirectory c directory) (next : CatalogCall) :
    ∃ c', CatalogMemory.call next c = .ok ((directory.call next).1, c') ∧
      RepresentsDirectory c' (directory.call next).2 := by
  cases next with
  | addDatabase dbName calls => exact addDatabase_answers rep dbName calls
  | callByName dbName next => exact callByName_answers rep dbName next
  | callById id next => exact callById_answers rep id next

/-- **Every run** of a catalog answers like the directory that it represents. -/
theorem catalogRun_answers (rep : RepresentsDirectory c directory) (calls : List CatalogCall) :
    ∃ c', CatalogMemory.run calls c = .ok ((directory.run calls).1, c') ∧
      RepresentsDirectory c' (directory.run calls).2 := by
  induction calls generalizing c directory with
  | nil => exact ⟨c, rfl, rep⟩
  | cons next calls ih =>
    obtain ⟨mid, first, rep'⟩ := catalogCall_answers rep next
    obtain ⟨c', rest, rep''⟩ := ih rep'
    refine ⟨c', ?_, rep''⟩
    simp only [CatalogMemory.run, first, Exec.ok_bind, rest]
    rfl

end Calls

/-! ## Messages -/

structure CatalogProto where
  databases : List CatalogDatabaseProto := []

namespace CatalogMemory

def protoIsValid (proto : CatalogProto) : Bool := proto.databases.all CatalogDatabase.protoIsValid

/-- `add_databases()`: the size of a repeated field is an `int`. -/
def addDatabases (proto : CatalogProto) (database : CatalogDatabaseProto) : Exec CatalogProto :=
  if proto.databases.length < kCatalogMaxID then .ok { databases := proto.databases ++ [database] }
  else .error .undefinedBehaviour

/-- The body of the loop of `getProto`. An element that is NULL gives a message without a name. -/
def serializeDatabase (heap : Heap DatabaseObject) (proto : CatalogProto) :
    Option Pointer → Exec CatalogProto
  | none => addDatabases proto {}
  | some p => do
    let object ← heap.load p
    addDatabases proto (← CatalogDatabase.getProto object.state)

def getProto (c : CatalogMemory) : Exec CatalogProto :=
  c.catalog.dbVec.foldlM (serializeDatabase c.heap) {}

/-- The loop of the constructor from a message. -/
def reconstructDatabases (c : CatalogMemory) :
    List CatalogDatabaseProto → Exec (Except CatalogError CatalogMemory)
  | [] => pure (.ok c)
  | proto :: protos =>
    if proto.isInitialized then do
      match ← CatalogDatabase.fromProto proto with
      | .error exception => pure (.error (.ofDatabase exception))
      | .ok state =>
        let (result, c) ← addDatabase c.heap.next { c with heap := c.heap.alloc ⟨-1, state⟩ }
        match result with
        | .error exception => pure (.error exception)
        | .ok _ => reconstructDatabases c protos
    else
      reconstructDatabases { c with catalog := { c.catalog with dbVec := c.catalog.dbVec ++ [none] } } protos

/-- The constructor from a message. -/
def fromProto (proto : CatalogProto) : Exec (Except CatalogError CatalogMemory) :=
  reconstructDatabases .create proto.databases

end CatalogMemory

def Directory.toProto (directory : Directory) : CatalogProto where
  databases := directory.registries.map Registry.toProto

section RoundTrip

variable {c : CatalogMemory} {directory : Directory}

/-- The element points to a database that represents the registry. -/
def PointsTo (heap : Heap DatabaseObject) (element : Option Pointer) (registry : Registry) : Prop :=
  ∃ p object, element = some p ∧ heap.Live p object ∧ Represents object.state registry

theorem RepresentsDirectory.forall₂ (rep : RepresentsDirectory c directory) :
    List.Forall₂ (PointsTo c.heap) c.catalog.dbVec directory.registries := by
  rw [List.forall₂_iff_get]
  refine ⟨rep.length, fun i inside inside' => ?_⟩
  obtain ⟨p, object, element, live, _, rep'⟩ := rep.database i _ (List.getElem?_eq_getElem inside')
  rw [List.getElem?_eq_getElem inside] at element
  exact ⟨p, object, Option.some.inj element, live, rep'⟩

/-- The loop of `getProto`. -/
theorem serializeDatabases_spec {heap : Heap DatabaseObject} {elements : List (Option Pointer)}
    {registries : List Registry} (related : List.Forall₂ (PointsTo heap) elements registries)
    (proto : CatalogProto) (room : proto.databases.length + registries.length ≤ kCatalogMaxID)
    (rooms : ∀ registry ∈ registries, registry.slots.length ≤ kCatalogMaxID) :
    elements.foldlM (CatalogMemory.serializeDatabase heap) proto =
      .ok ⟨proto.databases ++ registries.map Registry.toProto⟩ := by
  induction related generalizing proto with
  | nil => simp [pure, Except.pure]
  | @cons element registry elements registries first _ ih =>
    obtain ⟨p, object, rfl, live, rep⟩ := first
    obtain ⟨roomFirst, roomRest⟩ := List.forall_mem_cons.mp rooms
    rw [List.length_cons] at room
    have added : CatalogMemory.serializeDatabase heap proto (some p) =
        .ok ⟨proto.databases ++ [registry.toProto]⟩ := by
      have counted : (proto.databases.length : Int) < kCatalogMaxID := by omega
      simp only [CatalogMemory.serializeDatabase, Heap.load_of_live live, Exec.ok_bind,
        getProto_eq rep roomFirst, CatalogMemory.addDatabases, if_pos counted]
    have inside : ((proto.databases ++ [registry.toProto]).length : Int) + registries.length ≤
        kCatalogMaxID := by
      simp
      omega
    rw [List.foldlM_cons, added, Exec.ok_bind, ih ⟨proto.databases ++ [registry.toProto]⟩ inside roomRest]
    simp

/-- What the loop has counted without overflow. -/
theorem room_of_serializeDatabases {heap : Heap DatabaseObject} {elements : List (Option Pointer)}
    {registries : List Registry} (related : List.Forall₂ (PointsTo heap) elements registries)
    {proto result : CatalogProto} (start : proto.databases.length ≤ kCatalogMaxID)
    (run : elements.foldlM (CatalogMemory.serializeDatabase heap) proto = .ok result) :
    proto.databases.length + registries.length ≤ kCatalogMaxID ∧
      ∀ registry ∈ registries, registry.slots.length ≤ kCatalogMaxID := by
  induction related generalizing proto with
  | nil => exact ⟨by simpa using start, nofun⟩
  | @cons element registry elements registries first _ ih =>
    obtain ⟨p, object, rfl, live, rep⟩ := first
    rw [List.foldlM_cons] at run
    obtain ⟨next, added, rest⟩ := Exec.bind_ok run
    simp only [CatalogMemory.serializeDatabase, Heap.load_of_live live, Exec.ok_bind] at added
    obtain ⟨database, serialized, added⟩ := Exec.bind_ok added
    unfold CatalogMemory.addDatabases at added
    split at added
    next room =>
      cases added
      obtain ⟨later, laterRooms⟩ := ih (by simp; omega) rest
      refine ⟨?_, List.forall_mem_cons.mpr ⟨room_of_getProto rep serialized, laterRooms⟩⟩
      simp at later ⊢
      omega
    next full => cases added

/-- The loop of the constructor adds the databases that are left of a directory. -/
theorem reconstructDatabases_spec {whole : Directory} {registries : List Registry}
    (built : ∀ registry ∈ registries, ∀ schema ∈ registry.live, schema.Built)
    (rooms : ∀ registry ∈ registries, registry.slots.length ≤ kCatalogMaxID)
    (split : whole.registries = directory.registries ++ registries)
    (rep : RepresentsDirectory c directory) :
    ∃ c', c.reconstructDatabases (registries.map Registry.toProto) = .ok (.ok c') ∧
      RepresentsDirectory c' whole := by
  induction registries generalizing c directory with
  | nil =>
    obtain rfl : whole = directory := Directory.ext (by simpa using split)
    exact ⟨c, rfl, rep⟩
  | cons registry registries ih =>
    obtain ⟨builtFirst, builtRest⟩ := List.forall_mem_cons.mp built
    obtain ⟨roomFirst, roomRest⟩ := List.forall_mem_cons.mp rooms
    have fresh : directory.find registry.name = none := by
      have names := whole.distinct
      rw [split, List.map_append, List.map_cons, List.nodup_append] at names
      rw [Directory.find_eq_none_iff]
      exact fun mem => names.2.2 _ mem _ List.mem_cons_self rfl
    have room : directory.registries.length ≤ kCatalogMaxID := by
      have bounded := whole.bounded
      rw [split, List.length_append, List.length_cons] at bounded
      omega
    have valid := protoIsValid_toProto builtFirst
    unfold CatalogDatabase.protoIsValid at valid
    rw [Bool.and_eq_true] at valid
    obtain ⟨state, reconstructed, rep'⟩ := fromProto_toProto builtFirst roomFirst
    obtain ⟨mid, added, repMid⟩ := addDatabase_fresh rep rep' fresh room
    have split' : whole.registries = (directory.add registry fresh room).registries ++ registries := by
      rw [split]
      simp [Directory.add]
    obtain ⟨c', rest, rep''⟩ := ih builtRest roomRest split' repMid
    refine ⟨c', ?_, rep''⟩
    simp only [List.map_cons, CatalogMemory.reconstructDatabases, valid.1, if_true, reconstructed,
      Exec.ok_bind, added, rest]

/-- The vector and the map of a catalog describe the same databases, each of which is consistent. -/
structure ConsistentCatalog (c : CatalogMemory) : Prop where
  vector : ∀ (i : Nat) element, c.catalog.dbVec[i]? = some element → ∃ p object, element = some p ∧
    c.heap.Live p object ∧ object.id = i ∧ Consistent object.state ∧
    c.catalog.dbMap.lookup object.state.database.name = some p
  map : ∀ dbName p, c.catalog.dbMap.lookup dbName = some p → ∃ (i : Nat) (object : DatabaseObject),
    c.catalog.dbVec[i]? = some (some p) ∧ c.heap.Live p object ∧ object.state.database.name = dbName

theorem RepresentsDirectory.consistent (rep : RepresentsDirectory c directory) : ConsistentCatalog c where
  vector i element found := by
    have inside := (List.getElem?_eq_some_iff.mp found).1
    rw [rep.length] at inside
    have slot := List.getElem?_eq_getElem inside
    obtain ⟨p, object, element', live, id, rep'⟩ := rep.database i _ slot
    obtain rfl := Option.some.inj (found.symm.trans element')
    have named : directory.find object.state.database.name = some i :=
      Directory.find_eq_some_iff.mpr ⟨_, slot, rep'.name.symm⟩
    refine ⟨p, object, rfl, live, id, rep'.consistent, ?_⟩
    rw [rep.map, named, Option.bind_some, element']
    rfl
  map dbName p lookup := by
    cases found : directory.find dbName with
    | none =>
      rw [rep.lookup_of_not_find found] at lookup
      cases lookup
    | some i =>
      obtain ⟨q, registry, object, lookup', element, slot, live, rep'⟩ := rep.lookup_of_find found
      obtain rfl := Option.some.inj (lookup.symm.trans lookup')
      obtain ⟨other, slot', name⟩ := Directory.find_eq_some_iff.mp found
      rw [slot] at slot'
      cases slot'
      exact ⟨i, object, element, live, rep'.name.trans name⟩

/-- Two catalogs have the same databases under the same ids and names, and answer alike from now on. -/
structure SameCatalog (c c' : CatalogMemory) : Prop where
  length : c.catalog.dbVec.length = c'.catalog.dbVec.length
  databases : ∀ (i : Nat) p q object object', c.catalog.dbVec[i]? = some (some p) →
    c'.catalog.dbVec[i]? = some (some q) → c.heap.Live p object → c'.heap.Live q object' →
    object.id = object'.id ∧ SameDatabase object.state object'.state
  calls : ∀ calls, ∃ results after after', CatalogMemory.run calls c = .ok (results, after) ∧
    CatalogMemory.run calls c' = .ok (results, after')

theorem RepresentsDirectory.same {c' : CatalogMemory} (rep : RepresentsDirectory c directory)
    (rep' : RepresentsDirectory c' directory) : SameCatalog c c' where
  length := rep.length.trans rep'.length.symm
  databases i p q object object' element element' live live' := by
    obtain ⟨registry, other, slot, here, id, represents⟩ := rep.registry element
    obtain ⟨registry', other', slot', here', id', represents'⟩ := rep'.registry element'
    obtain rfl := live.unique here
    obtain rfl := live'.unique here'
    obtain rfl := Option.some.inj (slot.symm.trans slot')
    exact ⟨id.trans id'.symm, represents.same represents'⟩
  calls calls := by
    obtain ⟨after, run, _⟩ := catalogRun_answers rep calls
    obtain ⟨after', run', _⟩ := catalogRun_answers rep' calls
    exact ⟨_, after, after', run, run'⟩

/-- The message of a catalog is valid, and the catalog made from it is the same. -/
def CatalogRoundTrips (c : CatalogMemory) : Prop :=
  ∃ proto c', c.getProto = .ok proto ∧ CatalogMemory.protoIsValid proto = true ∧
    CatalogMemory.fromProto proto = .ok (.ok c') ∧ ConsistentCatalog c' ∧ SameCatalog c c'

/-- Relations of calls were made by the constructor and `addAttribute`. -/
def CatalogCall.Built : CatalogCall → Prop
  | addDatabase _ calls => ∀ next ∈ calls, next.Built
  | callByName _ next | callById _ next => next.Built

def Directory.Built (directory : Directory) : Prop :=
  ∀ registry ∈ directory.registries, ∀ schema ∈ registry.live, schema.Built

theorem Directory.callAt_built (built : directory.Built) {i : Nat} {next : Call} (isBuilt : next.Built) :
    (directory.callAt i next).2.Built := by
  unfold callAt
  cases found : directory.registries[i]? with
  | none => exact built
  | some registry =>
    intro other mem
    obtain ⟨j, there⟩ := List.getElem?_of_mem mem
    change (directory.registries.modify i _)[j]? = some other at there
    by_cases same : i = j
    · subst same
      rw [List.getElem?_modify_eq, found] at there
      cases there
      exact Registry.call_built (built registry (List.mem_of_getElem? found)) isBuilt
    · rw [List.getElem?_modify_ne _ _ same] at there
      exact built other (List.mem_of_getElem? there)

theorem Directory.call_built (built : directory.Built) {next : CatalogCall} (isBuilt : next.Built) :
    (directory.call next).2.Built := by
  cases next with
  | addDatabase dbName calls =>
    simp only [call]
    split
    next fresh =>
      split
      next room =>
        intro registry mem
        rcases List.mem_append.mp mem with before | last
        · exact built registry before
        · rw [List.mem_singleton.mp last]
          exact Registry.run_built (fun schema mem => absurd mem List.not_mem_nil) isBuilt
      next full => exact built
    next taken => exact built
  | callByName dbName next =>
    simp only [call]
    cases directory.find dbName with
    | none => exact built
    | some i => exact callAt_built built isBuilt
  | callById id next =>
    simp only [call]
    split
    next inRange => exact callAt_built built isBuilt
    next outside => exact built

theorem Directory.run_built (built : directory.Built) {calls : List CatalogCall}
    (isBuilt : ∀ next ∈ calls, next.Built) : (directory.run calls).2.Built := by
  induction calls generalizing directory with
  | nil => exact built
  | cons next calls ih =>
    obtain ⟨first, rest⟩ := List.forall_mem_cons.mp isBuilt
    exact ih (call_built built first) rest

/-- The messages of databases that were built make up a valid message. -/
theorem Directory.protoIsValid_toProto (built : directory.Built) :
    CatalogMemory.protoIsValid directory.toProto = true := by
  unfold CatalogMemory.protoIsValid
  rw [List.all_eq_true]
  intro proto mem
  obtain ⟨registry, isRegistry, rfl⟩ := List.mem_map.mp mem
  exact Catalog.protoIsValid_toProto (built registry isRegistry)

/-- **Catalogs survive** their messages, whatever was added to them and done to their databases, exactly
while an `int` can count the databases and the slots of each one. -/
theorem catalogRoundTrips_iff {calls : List CatalogCall} (built : ∀ next ∈ calls, next.Built) :
    ∃ results c, CatalogMemory.run calls .create = .ok (results, c) ∧ ConsistentCatalog c ∧
      (CatalogRoundTrips c ↔ c.catalog.dbVec.length ≤ kCatalogMaxID ∧
        ∀ p object, some p ∈ c.catalog.dbVec → c.heap.Live p object →
          object.state.database.relVec.length ≤ kCatalogMaxID) := by
  obtain ⟨c, run, rep⟩ := catalogRun_answers .create calls
  have empty : Directory.create.Built := nofun
  have built' := Directory.run_built empty built
  generalize (Directory.create.run calls).2 = directory at rep built'
  refine ⟨_, c, run, rep.consistent, ?_⟩
  constructor
  · rintro ⟨proto, _, serialized, _⟩
    obtain ⟨room, rooms⟩ := room_of_serializeDatabases rep.forall₂ (by decide) serialized
    refine ⟨by simpa [rep.length] using room, fun p object mem live => ?_⟩
    obtain ⟨i, element⟩ := List.getElem?_of_mem mem
    obtain ⟨registry, other, slot, here, _, rep'⟩ := rep.registry element
    obtain rfl := live.unique here
    rw [rep'.length_eq]
    exact rooms registry (List.mem_of_getElem? slot)
  · rintro ⟨room, rooms⟩
    have rooms' : ∀ registry ∈ directory.registries, registry.slots.length ≤ kCatalogMaxID := by
      intro registry mem
      obtain ⟨i, slot⟩ := List.getElem?_of_mem mem
      obtain ⟨p, object, element, live, _, rep'⟩ := rep.database i registry slot
      rw [← rep'.length_eq]
      exact rooms p object (List.mem_of_getElem? element) live
    rw [rep.length] at room
    have serialized := serializeDatabases_spec rep.forall₂ {} (by simpa using room) rooms'
    obtain ⟨c', reconstructed, rep'⟩ : ∃ c', CatalogMemory.fromProto directory.toProto = .ok (.ok c') ∧
        RepresentsDirectory c' directory := reconstructDatabases_spec built' rooms' rfl .create
    exact ⟨directory.toProto, c', serialized, Directory.protoIsValid_toProto built', reconstructed,
      rep'.consistent, rep.same rep'⟩

end RoundTrip

/-- Two databases, a name that is taken, and a relation that is added to the second one. -/
def twoDatabases : List CatalogCall :=
  [.addDatabase [65] gapCalls, .addDatabase [97] [], .addDatabase [65] [],
    .callById 1 addT, .callByName [98] addT]

theorem catalogRoundTrips_iff_twoDatabases : ∃ results c,
    CatalogMemory.run twoDatabases .create = .ok (results, c) ∧ ConsistentCatalog c ∧
      (CatalogRoundTrips c ↔ c.catalog.dbVec.length ≤ kCatalogMaxID ∧
        ∀ p object, some p ∈ c.catalog.dbVec → c.heap.Live p object →
          object.state.database.relVec.length ≤ kCatalogMaxID) := by
  apply catalogRoundTrips_iff
  simp only [twoDatabases, List.forall_mem_cons]
  have room : ((CatalogRelationSchema.create [65] (-1) false).attrVec.length : Int) < kCatalogMaxID := by
    decide
  have oneAttribute := CatalogRelationSchema.Built.addAttribute (.create [65] (-1) false)
    (@CatalogRelationSchema.addAttribute_of_lt _ ⟨0, [120], [], .varChar 5 true⟩ room)
  refine ⟨?_, nofun, nofun, .create _ _ _, .create _ _ _, nofun⟩
  simp only [CatalogCall.Built, gapCalls, List.forall_mem_cons]
  exact ⟨oneAttribute, .create _ _ _, trivial, fun next mem => absurd mem List.not_mem_nil⟩

end Quickstep.Catalog
