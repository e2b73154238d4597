import Quickstep.Lib.LockedObjects
import Quickstep.Threading.SpinSharedMutex
import Quickstep.Catalog.CatalogDatabaseRefinement

/-!
# A database with many threads

The methods of a `CatalogDatabase` lock its `relations_mutex_` in one of the two modes and access the map, the
vector and the relations one after the other. Between two accesses of one thread any others may step; to each
caller it is as if the calls were made one after the other.
-/

namespace Quickstep.Threading
open Quickstep.Lib

/-- Where a thread stands with a spin mutex. -/
def ThreadPoint.standing : ThreadPoint → Standing
  | outside => .outside
  | lock | contended | drain _ => .waiting true
  | exclusive => .inside true
  | lockShared | retreat | spin _ => .waiting false
  | shared => .inside false

/-- `SpinSharedMutexExclusiveLock` and `SpinSharedMutexSharedLock`, for fewer than 2^31 threads. -/
def spinSharedMutexLock {n : Nat} (few : n < 2 ^ 31) : SharedLock (Fin n) (BitVec 32) ThreadPoint where
  advance := ThreadPoint.advance
  standing := ThreadPoint.standing
  Inv := Counted
  ask {point} exclusive word outside := by
    cases point <;> cases outside
    cases exclusive <;> exact .inl rfl
  wait {point exclusive} wants word waits := by
    cases point <;> cases waits
    all_goals
      simp only [ThreadPoint.advance]
      try split
    all_goals first | exact .inl rfl | exact .inr rfl
  leave {point exclusive} wants word inside := by
    cases point <;> cases inside <;> rfl
  turn i wants h := h.turn few i wants
  exclusion {s i j exclusive} h different here there := by
    have only := (h.mutualExclusion few).exclusive i j different
    have isExclusive : s.points i = .exclusive := by
      cases point : s.points i <;> rw [point] at here <;> first | rfl | cases here
    cases point : s.points j <;> rw [point] at there <;> cases there
    · exact (only isExclusive).1 point
    · exact (only isExclusive).2 point

end Quickstep.Threading

namespace Quickstep.Catalog
open Quickstep.Lib Quickstep.Utility Quickstep.Threading

/-- The methods that lock `relations_mutex_`. -/
inductive DatabaseCall where
  | hasRelationWithName (relName : Str)
  | hasRelationWithId (id : BitVec 32)
  | getRelationByName (relName : Str)
  | getRelationById (id : BitVec 32)
  | size
  | change (call : Call)

inductive DatabaseResult where
  | has (has : Bool)
  | relation (relation : Option Pointer)
  | size (size : Nat)
  | changed (result : CallResult)

namespace DatabaseCall

/-- A call that is made alone. -/
def answer : DatabaseCall → CatalogState → Exec (DatabaseResult × CatalogState)
  | hasRelationWithName relName, s => pure (.has (s.database.hasRelationWithNameUnsafe relName), s)
  | hasRelationWithId id, s => do pure (.has (← s.database.hasRelationWithIdUnsafe id.toInt), s)
  | getRelationByName relName, s => pure (.relation (s.database.getRelationByName relName), s)
  | getRelationById id, s => do pure (.relation (← s.database.getRelationById id.toInt), s)
  | size, s => pure (.size s.database.size, s)
  | change call, s => do
    let (result, s) ← s.call call
    pure (.changed result, s)

/-! ## The methods, access by access -/

open Steps

abbrev DatabaseSteps := Steps CatalogState DatabaseResult

/-- `hasRelationWithIdUnsafe`, and what comes after it. -/
def hasRelationWithIdUnsafe (id : Int) (next : Bool → DatabaseSteps) : DatabaseSteps :=
  read (fun s => .ok (s.database.idInRange id)) fun inRange =>
    if inRange then read (·.database.relVec.elementIsNull (toSize id)) fun isNull => next !isNull
    else next false

/-- `addRelation`, for a relation at this pointer. -/
def addRelation (newRel : CatalogRelationSchema) (p : Pointer) : DatabaseSteps :=
  let lowerRelName := toLower newRel.name
  read (fun s => .ok (s.database.hasRelationWithNameUnsafe lowerRelName)) fun has =>
    if has then read (fun s => .ok s.database.name) fun name =>
      done (.changed (.error (.relationNameCollision name newRel.name)))
    else read (fun s => .ok s.database.relVec.length) fun size =>
      if kCatalogMaxID < size then done (.changed (.error (.catalogIDOverflow (.ofText "relation"))))
      else
        write (fun s => .ok { s with database.relMap := s.database.relMap.insert lowerRelName p }) <|
        write (fun s => .ok { s with database.relVec := s.database.relVec ++ [some p] }) <|
        write (fun s => do
          let schema ← s.heap.load p
          let heap ← s.heap.store p { schema with id := toInt (s.database.relVec.length - 1) }
          .ok { s with heap }) <|
        read (·.heap.load p) fun added => done (.changed (.ok (some added.id)))

/-- `deleteElement` of the vector. -/
def deleteElement (n : Nat) (s : CatalogState) : Exec CatalogState := do
  let (relVec, heap) ← s.database.relVec.deleteElement n s.heap
  pure { s with heap, database.relVec := relVec }

def dropRelationByName (relName : Str) : DatabaseSteps :=
  read (fun s => .ok (s.database.relMap.lookup (toLower relName))) fun
    | none => read (fun s => .ok s.database.name) fun name =>
      done (.changed (.error (.relationNameNotFound name relName)))
    | some found => read (·.heap.load found) fun schema =>
      write (deleteElement (toSize schema.id)) <|
      write (fun s => .ok { s with database.relMap := s.database.relMap.erase (toLower relName) }) <|
      done (.changed (.ok none))

def dropRelationById (id : Int) : DatabaseSteps :=
  hasRelationWithIdUnsafe id fun has =>
    if has then
      read (fun s => do s.heap.load (← s.database.relVec.elementAt (toSize id))) fun schema =>
        write (fun s => .ok { s with database.relMap := s.database.relMap.erase (toLower schema.name) }) <|
        write (deleteElement (toSize id)) <|
        done (.changed (.ok none))
    else read (fun s => .ok s.database.name) fun name =>
      done (.changed (.error (.relationIdNotFound name id)))

/-- A method past its lock. The relation of `addRelation` is allocated by its caller, which nobody sees before. -/
def body : DatabaseCall → DatabaseSteps
  | .hasRelationWithName relName =>
    read (fun s => .ok (s.database.hasRelationWithNameUnsafe relName)) fun has => done (.has has)
  | .hasRelationWithId id => hasRelationWithIdUnsafe id.toInt fun has => done (.has has)
  | .getRelationByName relName =>
    read (fun s => .ok (s.database.relMap.lookup (toLower relName))) fun relation => done (.relation relation)
  | .getRelationById id => hasRelationWithIdUnsafe id.toInt fun has =>
    if has then read (·.database.relVec.elementAt (toSize id.toInt)) fun relation =>
      done (.relation (some relation))
    else done (.relation none)
  | .size => read (fun s => .ok s.database.relMap.entries.length) fun size => done (.size size)
  | .change (.addRelation newRel) =>
    .access (fun s => { s with heap := s.heap.alloc newRel }) fun s => addRelation newRel s.heap.next
  | .change (.dropRelationByName relName) => dropRelationByName relName
  | .change (.dropRelationById id) => dropRelationById id.toInt

/-- The mode in which a method locks. -/
def isExclusive : DatabaseCall → Bool
  | .change _ => true
  | .hasRelationWithName _ | .hasRelationWithId _ | .getRelationByName _ | .getRelationById _ | .size => false

theorem run_hasRelationWithIdUnsafe (id : Int) (next : Bool → DatabaseSteps) (s : CatalogState) :
    (hasRelationWithIdUnsafe id next).run s =
      s.database.hasRelationWithIdUnsafe id >>= fun has => (next has).run s := by
  unfold hasRelationWithIdUnsafe CatalogDatabase.hasRelationWithIdUnsafe
  rw [run_read, Exec.ok_bind]
  split
  · rw [run_read]
    cases s.database.relVec.elementIsNull (toSize id) <;> rfl
  · rfl

theorem run_addRelation (newRel : CatalogRelationSchema) (s : CatalogState) :
    (addRelation newRel s.heap.next).run { s with heap := s.heap.alloc newRel } =
      (change (.addRelation newRel)).answer s := by
  have allocated := Heap.load_of_live (Heap.live_alloc_next s.heap newRel)
  simp only [answer, CatalogState.call, CatalogState.addRelation, allocated, Exec.ok_bind, addRelation, run_read]
  split
  · rfl
  · simp only [run_read, Exec.ok_bind]
    split
    · rfl
    · simp only [run_write, Exec.ok_bind, allocated]
      cases (s.heap.alloc newRel).store s.heap.next
          { newRel with id := toInt ((s.database.relVec ++ [some s.heap.next]).length - 1) } with
      | error raised => rfl
      | ok heap =>
        simp only [Exec.ok_bind, run_read]
        cases heap.load s.heap.next <;> rfl

theorem run_dropRelationByName (relName : Str) (s : CatalogState) :
    (dropRelationByName relName).run s = (change (.dropRelationByName relName)).answer s := by
  simp only [answer, CatalogState.call, CatalogState.dropRelationByName, dropRelationByName, run_read, Exec.ok_bind]
  cases s.database.relMap.lookup (toLower relName) with
  | none => rfl
  | some found =>
    simp only [run_read, run_write]
    cases s.heap.load found with
    | error raised => rfl
    | ok schema =>
      simp only [Exec.ok_bind, deleteElement]
      cases s.database.relVec.deleteElement (toSize schema.id) s.heap <;> rfl

theorem run_dropRelationById (id : BitVec 32) (s : CatalogState) :
    (dropRelationById id.toInt).run s = (change (.dropRelationById id)).answer s := by
  simp only [answer, CatalogState.call, CatalogState.dropRelationById, dropRelationById, run_hasRelationWithIdUnsafe]
  cases s.database.hasRelationWithIdUnsafe id.toInt with
  | error raised => rfl
  | ok has =>
    simp only [Exec.ok_bind]
    split
    · simp only [run_read, run_write]
      cases s.database.relVec.elementAt (toSize id.toInt) with
      | error raised => rfl
      | ok p =>
        simp only [Exec.ok_bind]
        cases s.heap.load p with
        | error raised => rfl
        | ok schema =>
          simp only [Exec.ok_bind, run_write, deleteElement]
          cases s.database.relVec.deleteElement (toSize id.toInt) s.heap <;> rfl
    · rfl

theorem run_getRelationById (id : BitVec 32) (s : CatalogState) :
    (getRelationById id).body.run s = (getRelationById id).answer s := by
  simp only [answer, body, CatalogDatabase.getRelationById, run_hasRelationWithIdUnsafe]
  cases s.database.hasRelationWithIdUnsafe id.toInt with
  | error raised => rfl
  | ok has =>
    simp only [Exec.ok_bind]
    split
    · rw [run_read]
      cases s.database.relVec.elementAt (toSize id.toInt) <;> rfl
    · rfl

/-- **The accesses of a method**, one after the other, are the method. -/
theorem run_body (call : DatabaseCall) (s : CatalogState) : call.body.run s = call.answer s := by
  cases call with
  | hasRelationWithName relName => rfl
  | hasRelationWithId id =>
    simp only [answer, body, run_hasRelationWithIdUnsafe]
    rfl
  | getRelationByName relName => rfl
  | getRelationById id => exact run_getRelationById id s
  | size => rfl
  | change call =>
    cases call with
    | addRelation newRel => exact run_addRelation newRel s
    | dropRelationByName relName => exact run_dropRelationByName relName s
    | dropRelationById id => exact run_dropRelationById id s

theorem readOnly_hasRelationWithIdUnsafe (id : Int) {next : Bool → DatabaseSteps}
    (rest : ∀ has, (next has).ReadOnly) : (hasRelationWithIdUnsafe id next).ReadOnly := by
  apply readOnly_read
  intro inRange
  split
  · exact readOnly_read fun isNull => rest !isNull
  · exact rest false

/-- A method that locks in shared mode only reads. -/
theorem readOnly_body (call : DatabaseCall) (isShared : call.isExclusive = false) : call.body.ReadOnly := by
  have ends (result : DatabaseResult) : (done result : DatabaseSteps).ReadOnly := trivial
  cases call with
  | change call => cases isShared
  | hasRelationWithName | getRelationByName | size =>
    rw [body]
    exact readOnly_read fun _ => ends _
  | hasRelationWithId id =>
    rw [body]
    exact readOnly_hasRelationWithIdUnsafe _ fun _ => ends _
  | getRelationById id =>
    rw [body]
    apply readOnly_hasRelationWithIdUnsafe
    intro has
    split
    · exact readOnly_read fun _ => ends _
    · exact ends _

end DatabaseCall

/-- The database as an object with one lock. -/
def lockedDatabase : LockedObject DatabaseCall CatalogState DatabaseResult :=
  ⟨DatabaseCall.isExclusive, DatabaseCall.body, DatabaseCall.readOnly_body⟩

/-- What a registry answers. A relation is there or not; where it is in memory the registry does not say. -/
def Registry.Answers (registry : Registry) (event : DatabaseCall × DatabaseResult) (registry' : Registry) : Prop :=
  match event with
  | (.hasRelationWithName relName, .has has) =>
    has = (registry.find (toLower relName)).isSome ∧ registry' = registry
  | (.hasRelationWithId id, .has has) => has = registry.hasId id.toInt ∧ registry' = registry
  | (.getRelationByName relName, .relation relation) =>
    relation.isSome = (registry.find (toLower relName)).isSome ∧ registry' = registry
  | (.getRelationById id, .relation relation) =>
    relation.isSome = registry.hasId id.toInt ∧ registry' = registry
  | (.size, .size size) => size = registry.live.length ∧ registry' = registry
  | (.change call, .changed result) => registry.call call = (result, registry')
  | _ => False

section Answers

variable {s : CatalogState} {registry : Registry}

theorem toInt_le_kCatalogMaxID (id : BitVec 32) : id.toInt ≤ kCatalogMaxID := by
  have bound := BitVec.toInt_lt (x := id)
  unfold kCatalogMaxID
  omega

/-- The map has a relation for the names that the registry finds. -/
theorem isSome_lookup (rep : Represents s registry) (lower : Str) :
    (s.database.relMap.lookup lower).isSome = (registry.find lower).isSome := by
  cases found : registry.find lower with
  | none => rw [rep.lookup_of_not_find found]
  | some i =>
    obtain ⟨p, schema, lookup, -⟩ := rep.lookup_of_find found
    rw [lookup]
    rfl

theorem getRelationById_ok (rep : Represents s registry) (id : BitVec 32) :
    ∃ relation, s.database.getRelationById id.toInt = .ok relation ∧ relation.isSome = registry.hasId id.toInt := by
  have small := toInt_le_kCatalogMaxID id
  unfold CatalogDatabase.getRelationById
  rw [hasRelationWithIdUnsafe_eq rep small, Exec.ok_bind]
  cases found : registry.hasId id.toInt with
  | false => exact ⟨none, rfl, rfl⟩
  | true =>
    obtain ⟨nonneg, schema, slot⟩ := Registry.hasId_iff.mp found
    obtain ⟨p, element, -⟩ := rep.pointer slot
    have index : toSize id.toInt = id.toInt.toNat := by
      unfold kCatalogMaxID at small
      unfold toSize
      omega
    refine ⟨some p, ?_, rfl⟩
    rw [if_pos rfl, index, PtrVector.elementAt_of_getElem? element, Exec.ok_bind]
    rfl

/-- **A database that represents a registry** answers every call as the registry, and represents what comes of
it. -/
theorem answer_ok (rep : Represents s registry) (call : DatabaseCall) :
    ∃ result s' registry', call.answer s = .ok (result, s') ∧ registry.Answers (call, result) registry' ∧
      Represents s' registry' := by
  cases call with
  | hasRelationWithName relName => exact ⟨_, s, registry, rfl, ⟨isSome_lookup rep _, rfl⟩, rep⟩
  | hasRelationWithId id =>
    refine ⟨.has (registry.hasId id.toInt), s, registry, ?_, ⟨rfl, rfl⟩, rep⟩
    rw [DatabaseCall.answer, hasRelationWithIdUnsafe_eq rep (toInt_le_kCatalogMaxID id)]
    rfl
  | getRelationByName relName => exact ⟨_, s, registry, rfl, ⟨isSome_lookup rep _, rfl⟩, rep⟩
  | getRelationById id =>
    obtain ⟨relation, found, same⟩ := getRelationById_ok rep id
    refine ⟨.relation relation, s, registry, ?_, ⟨same, rfl⟩, rep⟩
    rw [DatabaseCall.answer, found]
    rfl
  | size => exact ⟨_, s, registry, rfl, ⟨rep.size, rfl⟩, rep⟩
  | change call =>
    obtain ⟨s', run, answers⟩ := call_answers rep call
    refine ⟨.changed (registry.call call).1, s', (registry.call call).2, ?_, rfl, answers.represents⟩
    rw [DatabaseCall.answer, run]
    rfl

end Answers

/-! ## Threads -/

variable {n : Nat}

/-- A database with `n` threads, at their points in the mutex and in their calls. -/
abbrev DatabaseThreads (n : Nat) :=
  Threads (Fin n) (Guarded (BitVec 32) CatalogState (DatabaseCall × DatabaseResult))
    (ThreadPoint × MethodPoint DatabaseCall CatalogState DatabaseResult)

namespace DatabaseThreads

/-- The constructor, with no thread in a call. -/
def create (name : Str) (n : Nat) : DatabaseThreads n :=
  ⟨⟨0#32, .create name, []⟩, fun _ => (.outside, .ready none)⟩

/-- The next step of a thread, which makes a call when it is in none. -/
def advance (few : n < 2 ^ 31) := (spinSharedMutexLock few).advanceProgram lockedDatabase.program

/-- A thread is past its lock. -/
def Inside (exclusive : Bool) (s : DatabaseThreads n) (i : Fin n) : Prop :=
  (s.points i).1 = if exclusive then .exclusive else .shared

/-- **What a locked database is for.** The calls that are over returned what the registry answers when they are
made one after the other; while nobody changes the database, it represents what the registry has come to. No
thread accesses the containers while another one writes to them, and no access is undefined. -/
structure Linearizable (name : Str) (s : DatabaseThreads n) : Prop where
  explains : ∃ registry, Explains Registry.Answers (.create name) s.shared.log registry ∧
    ((∀ i, ¬ s.Inside true i) → Represents s.shared.data registry ∧ Consistent s.shared.data)
  returned : ∀ i event, (s.points i).2 = .ready (some event) → event ∈ s.shared.log
  noRace : ∀ i j exclusive other, i ≠ j → s.Inside exclusive i → s.Inside other j →
    exclusive = false ∧ other = false
  noFault : ∀ i call raised, (s.points i).2 ≠ .runs call (.fault raised)

theorem standing_iff_inside (s : DatabaseThreads n) (i : Fin n) (exclusive : Bool) :
    (s.points i).1.standing = .inside exclusive ↔ s.Inside exclusive i := by
  unfold Inside
  cases exclusive <;> cases (s.points i).1 <;> simp [ThreadPoint.standing]

/-- Calls that were made one after the other are answered by the registry. -/
theorem explains_answers {name : Str} {log : List (DatabaseCall × DatabaseResult)} {s : CatalogState}
    (explains : Explains lockedDatabase.Returns (.create name) log s) :
    ∃ registry, Explains Registry.Answers (.create name) log registry ∧ Represents s registry := by
  apply explains.invariant fun log s =>
    ∃ registry, Explains Registry.Answers (.create name) log registry ∧ Represents s registry
  · exact ⟨_, .nil, .create name⟩
  · rintro log before ⟨call, result⟩ after returns ⟨registry, explained, rep⟩
    obtain ⟨result', s', registry', answered, answers, rep'⟩ := answer_ok rep call
    have same := ((call.run_body before).trans answered).symm.trans returns
    cases same
    exact ⟨registry', .snoc explained answers, rep'⟩

/-- **Every interleaving** of the steps of fewer than 2^31 threads is as good as calls one after the other. -/
theorem interleave_linearizable (few : n < 2 ^ 31) (name : Str) (schedule : List (Fin n × DatabaseCall)) :
    Linearizable name ((create name n).interleave (advance few) schedule) := by
  have safe (s : CatalogState) (call : DatabaseCall) (represents : ∃ registry, Represents s registry) :
      ∃ result after, (lockedDatabase.body call).run s = .ok (result, after) ∧
        ∃ registry, Represents after registry := by
    obtain ⟨registry, rep⟩ := represents
    obtain ⟨result, s', registry', answered, -, rep'⟩ := answer_ok rep call
    exact ⟨result, s', (call.run_body s).trans answered, registry', rep'⟩
  have linearizable : lockedDatabase.Linearizable (spinSharedMutexLock few) _ (.create name)
      ((create name n).interleave (advance few) schedule) :=
    LockedObject.linearizable_interleave safe ⟨_, .create name⟩ (counted_create n) (fun _ => rfl) schedule
  obtain ⟨data, explains, -, quiet⟩ := linearizable.explains
  obtain ⟨registry, explained, rep⟩ := explains_answers explains
  refine ⟨⟨registry, explained, fun noWriter => ?_⟩, linearizable.returned, ?_, linearizable.noFault⟩
  · have same := quiet fun i writes => noWriter i ((standing_iff_inside _ i true).mp writes)
    rw [same]
    exact ⟨rep, rep.consistent⟩
  · intro i j exclusive other different here there
    exact linearizable.noRace i j exclusive other different ((standing_iff_inside _ i exclusive).mpr here)
      ((standing_iff_inside _ j other).mpr there)

/-- A thread asks for the size while another one drops a relation. -/
theorem interleave_linearizable_dropping : Linearizable [] ((create [] 2).interleave (advance (by decide : 2 < 2 ^ 31))
    (List.replicate 4 (0, .change (.dropRelationById 0#32)) ++ List.replicate 3 (1, .size) ++
      List.replicate 4 (0, .change (.dropRelationById 0#32)) ++ List.replicate 5 (1, .size))) :=
  interleave_linearizable (by decide) _ _

end DatabaseThreads

end Quickstep.Catalog
