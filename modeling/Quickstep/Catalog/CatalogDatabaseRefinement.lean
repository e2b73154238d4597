import Quickstep.Catalog.CatalogDatabase

/-!
# A database represents a registry

The map and the vector of a database describe the slots of one registry. Each call keeps this, whichever
of the two containers it looks into first.
-/

namespace Quickstep.Catalog
open Quickstep.Lib Quickstep.Utility

/-- The vector has the relations of the slots and the same gaps, and the map has the relations by their
names. -/
structure Represents (s : CatalogState) (registry : Registry) : Prop where
  name : s.database.name = registry.name
  gaps : s.database.relVec.map Option.isSome = registry.slots.map Option.isSome
  live : ∀ (i : Nat) p schema, s.database.relVec[i]? = some (some p) →
    registry.slots[i]? = some (some schema) → s.heap.Live p schema
  map : ∀ lower, s.database.relMap.lookup lower =
    (registry.find lower).bind fun i => s.database.relVec[i]?.join
  size : s.database.size = registry.live.length

namespace Represents

variable {s : CatalogState} {registry : Registry} {i : Nat} {lower : Str}

theorem create (name : Str) : Represents (.create name) (.create name) where
  name := rfl
  gaps := rfl
  live i p schema found := by simp [CatalogState.create, CatalogDatabase.create] at found
  map _ := rfl
  size := rfl

theorem gap (rep : Represents s registry) (i : Nat) :
    s.database.relVec[i]?.map Option.isSome = registry.slots[i]?.map Option.isSome := by
  rw [← List.getElem?_map, ← List.getElem?_map, rep.gaps]

theorem length_eq (rep : Represents s registry) :
    s.database.relVec.length = registry.slots.length := by
  simpa using congrArg List.length rep.gaps

/-- The element of a slot with a relation. -/
theorem pointer {schema : CatalogRelationSchema} (rep : Represents s registry)
    (found : registry.slots[i]? = some (some schema)) :
    ∃ p, s.database.relVec[i]? = some (some p) ∧ s.heap.Live p schema := by
  have gap := rep.gap i
  rw [found, Option.map_some, Option.map_eq_some_iff] at gap
  obtain ⟨element, here, present⟩ := gap
  obtain ⟨p, rfl⟩ := Option.isSome_iff_exists.mp present
  exact ⟨p, here, rep.live i p schema here found⟩

/-- The slot of an element that is not NULL. -/
theorem schema {p : Pointer} (rep : Represents s registry)
    (found : s.database.relVec[i]? = some (some p)) :
    ∃ schema, registry.slots[i]? = some (some schema) ∧ s.heap.Live p schema := by
  have gap := (rep.gap i).symm
  rw [found, Option.map_some, Option.map_eq_some_iff] at gap
  obtain ⟨slot, here, present⟩ := gap
  obtain ⟨schema, rfl⟩ := Option.isSome_iff_exists.mp present
  exact ⟨schema, here, rep.live i p schema found here⟩

/-- A relation is at one index only. -/
theorem index_unique {p : Pointer} {j : Nat} (rep : Represents s registry)
    (first : s.database.relVec[i]? = some (some p)) (second : s.database.relVec[j]? = some (some p)) :
    i = j := by
  obtain ⟨schema, found, live⟩ := rep.schema first
  obtain ⟨schema', found', live'⟩ := rep.schema second
  obtain rfl := live.unique live'
  have id := registry.ids i schema found
  have id' := registry.ids j schema found'
  omega

/-- What the map and the vector have for a name that is taken. -/
theorem lookup_of_find (rep : Represents s registry) (found : registry.find lower = some i) :
    ∃ p schema, s.database.relMap.lookup lower = some p ∧ s.database.relVec[i]? = some (some p) ∧
      s.heap.Live p schema ∧ registry.slots[i]? = some (some schema) ∧ toLower schema.name = lower := by
  obtain ⟨slot, here, isNamed⟩ := Registry.find_eq_some_iff.mp found
  cases slot with
  | none => cases isNamed
  | some schema =>
    obtain ⟨p, element, live⟩ := rep.pointer here
    refine ⟨p, schema, ?_, element, live, here, of_decide_eq_true isNamed⟩
    rw [rep.map, found, Option.bind_some, element]
    rfl

theorem lookup_of_not_find (rep : Represents s registry) (fresh : registry.find lower = none) :
    s.database.relMap.lookup lower = none := by
  rw [rep.map, fresh]
  rfl

/-! ## Adding -/

section Adding

variable {newRel : CatalogRelationSchema} {heap : Heap CatalogRelationSchema} {p : Pointer}

/-- The state after a relation was allocated, added and given its id. -/
theorem add (rep : Represents s registry) (fresh : registry.find (toLower newRel.name) = none)
    (room : registry.slots.length ≤ kCatalogMaxID)
    (added : heap.Live p { newRel with id := registry.slots.length })
    (others : ∀ q schema, s.heap.Live q schema → heap.Live q schema) :
    Represents ⟨heap, { s.database with
        relVec := s.database.relVec ++ [some p]
        relMap := s.database.relMap.insert (toLower newRel.name) p }⟩
      (registry.add newRel fresh room) where
  name := rep.name
  gaps := by
    rw [List.map_append, rep.gaps, Registry.add, List.map_append]
    rfl
  live i q schema element slot := by
    rcases getElem?_append_singleton.mp element with before | ⟨rfl, last⟩
    · rcases getElem?_append_singleton.mp slot with before' | ⟨rfl, _⟩
      · exact others q schema (rep.live i q schema before before')
      · have inside := (List.getElem?_eq_some_iff.mp before).1
        rw [rep.length_eq] at inside
        exact absurd inside (Nat.lt_irrefl _)
    · rcases getElem?_append_singleton.mp slot with before' | ⟨_, last'⟩
      · have inside := (List.getElem?_eq_some_iff.mp before').1
        rw [rep.length_eq] at inside
        exact absurd inside (Nat.lt_irrefl _)
      · cases last
        cases last'
        exact added
  map lower := by
    rw [Registry.find_add]
    by_cases same : lower = toLower newRel.name
    · rw [if_pos same, same, AList.lookup_insert, Option.bind_some, ← rep.length_eq,
        List.getElem?_concat_length]
      rfl
    · rw [if_neg same, AList.lookup_insert_ne same, rep.map]
      cases found : registry.find lower with
      | none => rfl
      | some i =>
        obtain ⟨q, _, _, element, _⟩ := rep.lookup_of_find found
        rw [Option.bind_some, Option.bind_some, element,
          getElem?_append_singleton.mpr (.inl element)]
  size := by
    have absent : toLower newRel.name ∉ s.database.relMap :=
      AList.lookup_eq_none.mp (rep.lookup_of_not_find fresh)
    have size := rep.size
    unfold CatalogDatabase.size at size ⊢
    rw [AList.entries_insert_of_notMem absent, List.length_cons, size]
    simp [Registry.live, Registry.add]

end Adding

/-! ## Dropping -/

/-- One element fewer is not NULL. -/
theorem length_filterMap_set_none {α : Type} {xs : List (Option α)} {a : α} {i : Nat}
    (found : xs[i]? = some (some a)) :
    ((xs.set i none).filterMap id).length + 1 = (xs.filterMap id).length := by
  induction xs generalizing i with
  | nil => cases found
  | cons x xs ih =>
    cases i with
    | zero =>
      obtain rfl : x = some a := by simpa using found
      simp
    | succ i =>
      have rest := ih (by simpa using found)
      cases x with
      | none => simpa using rest
      | some b => simpa using rest

/-- The state after the relation at an index was deleted. -/
theorem drop {p : Pointer} {schema : CatalogRelationSchema} {heap : Heap CatalogRelationSchema}
    (rep : Represents s registry) (element : s.database.relVec[i]? = some (some p))
    (slot : registry.slots[i]? = some (some schema))
    (freed : ∀ q other, heap.Live q other ↔ q ≠ p ∧ s.heap.Live q other) :
    Represents ⟨heap, { s.database with
        relVec := s.database.relVec.set i none
        relMap := s.database.relMap.erase (toLower schema.name) }⟩ (registry.drop i) where
  name := rep.name
  gaps := by
    show (s.database.relVec.set i none).map _ = (registry.slots.set i none).map _
    rw [List.map_set, List.map_set, rep.gaps]
    rfl
  live j q other element' slot' := by
    rcases getElem?_set_none.mp element' with ⟨_, _, gap⟩ | ⟨different, before⟩
    · cases gap
    · rcases getElem?_set_none.mp slot' with ⟨_, _, gap⟩ | ⟨_, before'⟩
      · cases gap
      · refine (freed q other).mpr ⟨?_, rep.live j q other before before'⟩
        rintro rfl
        exact different (rep.index_unique before element)
  map lower := by
    have taken := Registry.find_of_slot slot
    rw [Registry.find_drop]
    by_cases same : lower = toLower schema.name
    · rw [same, taken, if_pos rfl, AList.lookup_erase]
      rfl
    · have different : registry.find lower ≠ some i := by
        intro found
        obtain ⟨_, schema', _, _, _, slot', isNamed⟩ := rep.lookup_of_find found
        rw [slot] at slot'
        cases slot'
        exact same isNamed.symm
      rw [if_neg different, AList.lookup_erase_ne same, rep.map]
      cases found : registry.find lower with
      | none => rfl
      | some j =>
        obtain ⟨q, _, _, element', _⟩ := rep.lookup_of_find found
        have other : j ≠ i := fun eq => different (eq ▸ found)
        rw [Option.bind_some, Option.bind_some, element', getElem?_set_none.mpr (.inr ⟨other, element'⟩)]
  size := by
    have taken : toLower schema.name ∈ s.database.relMap := by
      obtain ⟨_, _, found, _⟩ := rep.lookup_of_find (Registry.find_of_slot slot)
      rw [← AList.lookup_isSome, found]
      rfl
    have size : s.database.relMap.keys.length = registry.live.length := by
      rw [← rep.size]
      exact List.length_map _
    have fewer : (registry.drop i).live.length + 1 = registry.live.length :=
      length_filterMap_set_none slot
    have erased : ((s.database.relMap.erase (toLower schema.name)).keys).length + 1 =
        s.database.relMap.keys.length := by
      have mem : toLower schema.name ∈ s.database.relMap.keys := taken
      rw [AList.keys_erase, @List.length_erase_of_mem Str instBEqOfDecidableEq _ _ _ mem]
      have nonempty := List.length_pos_of_mem taken
      omega
    have entries : ((s.database.relMap.erase (toLower schema.name)).keys).length =
        (s.database.relMap.erase (toLower schema.name)).entries.length := List.length_map _
    show (s.database.relMap.erase (toLower schema.name)).entries.length = _
    omega

/-- Deleting through the vector. -/
theorem deleteElement {p : Pointer} {schema : CatalogRelationSchema} (rep : Represents s registry)
    (element : s.database.relVec[i]? = some (some p)) (slot : registry.slots[i]? = some (some schema)) :
    ∃ heap, s.database.relVec.deleteElement i s.heap = .ok (s.database.relVec.set i none, heap) ∧
      Represents ⟨heap, { s.database with
        relVec := s.database.relVec.set i none
        relMap := s.database.relMap.erase (toLower schema.name) }⟩ (registry.drop i) := by
  obtain ⟨heap, free, freed⟩ := Heap.free_spec (rep.live i p schema element slot)
  exact ⟨heap, PtrVector.deleteElement_of_free element free, rep.drop element slot freed⟩

end Represents

/-! ## Calls -/

/-- After a call the database represents the registry after the call, an exception changes nothing, and
an element of the vector stays or becomes NULL. -/
structure Answers (s s' : CatalogState) (registry : Registry) (next : Call) : Prop where
  represents : Represents s' (registry.call next).2
  unchanged : ∀ exception, (registry.call next).1 = .error exception →
    s'.database = s.database ∧ ∀ p schema, s.heap.Live p schema → s'.heap.Live p schema
  kept : ∀ i < s.database.relVec.length, s'.database.relVec[i]? = s.database.relVec[i]? ∨
    s'.database.relVec[i]? = some none

section Calls

variable {s : CatalogState} {registry : Registry}

theorem Represents.alloc (rep : Represents s registry) (newRel : CatalogRelationSchema) :
    Represents { s with heap := s.heap.alloc newRel } registry where
  name := rep.name
  gaps := rep.gaps
  live i p schema element slot := (rep.live i p schema element slot).alloc newRel
  map := rep.map
  size := rep.size

theorem hasRelationWithNameUnsafe_iff (rep : Represents s registry) (relName : Str) :
    s.database.hasRelationWithNameUnsafe relName = true ↔ registry.find (toLower relName) ≠ none := by
  unfold CatalogDatabase.hasRelationWithNameUnsafe
  cases found : registry.find (toLower relName) with
  | none => simp [rep.lookup_of_not_find found]
  | some i =>
    obtain ⟨p, _, lookup, _⟩ := rep.lookup_of_find found
    simp [lookup]

/-- A call that throws. -/
theorem Answers.of_error {s' : CatalogState} {next : Call} {exception : CatalogException}
    (answer : registry.call next = (.error exception, registry)) (rep : Represents s' registry)
    (database : s'.database = s.database)
    (heap : ∀ p schema, s.heap.Live p schema → s'.heap.Live p schema) : Answers s s' registry next where
  represents := by
    rw [answer]
    exact rep
  unchanged _ _ := ⟨database, heap⟩
  kept i _ := .inl (by rw [database])

/-- A call that deletes the element at an index. -/
theorem Answers.of_drop {s' : CatalogState} {next : Call} {i : Nat}
    (answer : registry.call next = (.ok none, registry.drop i)) (rep : Represents s' (registry.drop i))
    (relVec : s'.database.relVec = s.database.relVec.set i none) : Answers s s' registry next where
  represents := by
    rw [answer]
    exact rep
  unchanged exception thrown := by
    rw [answer] at thrown
    cases thrown
  kept j inside := by
    rw [relVec]
    by_cases same : j = i
    · exact .inr (getElem?_set_none.mpr (.inl ⟨inside, same, rfl⟩))
    · exact .inl (List.getElem?_set_ne (Ne.symm same))

theorem addRelation_answers (rep : Represents s registry) (newRel : CatalogRelationSchema) :
    ∃ s', CatalogState.call (.addRelation newRel) s = .ok ((registry.call (.addRelation newRel)).1, s') ∧
      Answers s s' registry (.addRelation newRel) := by
  have rep' := rep.alloc newRel
  have allocated := Heap.live_alloc_next s.heap newRel
  have taken := hasRelationWithNameUnsafe_iff rep (toLower newRel.name)
  rw [toLower_toLower] at taken
  simp only [CatalogState.call, CatalogState.addRelation, Heap.load_of_live allocated, Exec.ok_bind]
  by_cases fresh : registry.find (toLower newRel.name) = none
  · rw [if_neg (fun found => taken.mp found fresh)]
    by_cases room : registry.slots.length ≤ kCatalogMaxID
    · have answer := Registry.call_addRelation fresh room
      have id : toInt ((s.database.relVec ++ [some s.heap.next]).length - 1) = registry.slots.length := by
        rw [List.length_append, List.length_singleton, Nat.add_sub_cancel, rep.length_eq]
        exact toInt_of_le room
      obtain ⟨heap, store, added, others⟩ := Heap.store_spec allocated
        { newRel with id := registry.slots.length }
      have others' : ∀ q schema, s.heap.Live q schema → heap.Live q schema := fun q schema live =>
        (others q schema live.ne_next).mpr (live.alloc newRel)
      rw [if_neg (by rw [rep.length_eq]; omega), id, store, answer]
      simp only [Exec.ok_bind, Heap.load_of_live added]
      refine ⟨_, rfl, ⟨?_, ?_, ?_⟩⟩
      · rw [answer]
        exact rep.add fresh room added others'
      · rw [answer]
        exact fun exception thrown => nomatch thrown
      · exact fun i inside => .inl (List.getElem?_append_left inside)
    · have answer : registry.call (.addRelation newRel) =
          (.error (.catalogIDOverflow (.ofText "relation")), registry) := by
        simp only [Registry.call, dif_pos fresh, dif_neg room]
      rw [if_pos (by rw [rep.length_eq]; omega), answer]
      exact ⟨_, rfl, .of_error answer rep' rfl fun p schema live => live.alloc newRel⟩
  · have answer : registry.call (.addRelation newRel) =
        (.error (.relationNameCollision registry.name newRel.name), registry) := by
      simp only [Registry.call, dif_neg fresh]
    rw [if_pos (taken.mpr fresh), answer, rep.name]
    exact ⟨_, rfl, .of_error answer rep' rfl fun p schema live => live.alloc newRel⟩

theorem dropRelationByName_answers (rep : Represents s registry) (relName : Str) :
    ∃ s', CatalogState.call (.dropRelationByName relName) s =
        .ok ((registry.call (.dropRelationByName relName)).1, s') ∧
      Answers s s' registry (.dropRelationByName relName) := by
  simp only [CatalogState.call, CatalogState.dropRelationByName]
  cases found : registry.find (toLower relName) with
  | none =>
    have answer : registry.call (.dropRelationByName relName) =
        (.error (.relationNameNotFound registry.name relName), registry) := by
      simp only [Registry.call, found]
    simp only [rep.lookup_of_not_find found]
    rw [answer, rep.name]
    exact ⟨s, rfl, .of_error answer rep rfl fun _ _ live => live⟩
  | some i =>
    have answer := Registry.call_dropRelationByName found
    obtain ⟨p, schema, lookup, element, live, slot, isNamed⟩ := rep.lookup_of_find found
    have index : toSize schema.id = i := by
      have id := registry.ids i schema slot
      have inside := (List.getElem?_eq_some_iff.mp slot).1
      have bounded := registry.bounded
      unfold kCatalogMaxID at bounded
      unfold toSize
      omega
    obtain ⟨heap, delete, rep'⟩ := rep.deleteElement element slot
    rw [isNamed] at rep'
    simp only [lookup, Heap.load_of_live live, Exec.ok_bind, index, delete]
    rw [answer]
    exact ⟨_, rfl, .of_drop answer rep' rfl⟩

/-- What the vector has for an id. -/
theorem hasRelationWithIdUnsafe_eq (rep : Represents s registry) {id : Int} (small : id ≤ kCatalogMaxID) :
    s.database.hasRelationWithIdUnsafe id = .ok (registry.hasId id) := by
  unfold kCatalogMaxID at small
  unfold CatalogDatabase.hasRelationWithIdUnsafe CatalogDatabase.idInRange Registry.hasId
  by_cases nonneg : 0 ≤ id
  · have index : toSize id = id.toNat := by
      unfold toSize
      omega
    have length := rep.length_eq
    have gap := rep.gap id.toNat
    rw [index, decide_eq_true nonneg, Bool.true_and, List.getD_eq_getElem?_getD]
    by_cases inside : id.toNat < s.database.relVec.length
    · rw [List.getElem?_eq_getElem inside, List.getElem?_eq_getElem (length ▸ inside), Option.map_some,
        Option.map_some] at gap
      rw [if_pos (decide_eq_true ⟨nonneg, inside⟩),
        PtrVector.elementIsNull_of_getElem? (List.getElem?_eq_getElem inside), Exec.ok_bind,
        List.getElem?_eq_getElem (length ▸ inside), Option.getD_some, ← Option.some.inj gap]
      exact congrArg Except.ok (Option.not_isNone _)
    · rw [if_neg (by simp [inside]), List.getElem?_eq_none (by omega)]
      rfl
  · rw [if_neg (by simp [nonneg]), decide_eq_false nonneg]
    rfl

theorem dropRelationById_answers (rep : Represents s registry) (id : BitVec 32) :
    ∃ s', CatalogState.call (.dropRelationById id) s =
        .ok ((registry.call (.dropRelationById id)).1, s') ∧
      Answers s s' registry (.dropRelationById id) := by
  have small : id.toInt ≤ kCatalogMaxID := by
    have bound := BitVec.toInt_lt (x := id)
    unfold kCatalogMaxID
    omega
  simp only [CatalogState.call, CatalogState.dropRelationById, hasRelationWithIdUnsafe_eq rep small,
    Exec.ok_bind]
  cases found : registry.hasId id.toInt with
  | false =>
    have answer : registry.call (.dropRelationById id) =
        (.error (.relationIdNotFound registry.name id.toInt), registry) := by
      simp only [Registry.call, found]
      rfl
    rw [answer, rep.name]
    exact ⟨s, rfl, .of_error answer rep rfl fun _ _ live => live⟩
  | true =>
    have answer : registry.call (.dropRelationById id) =
        (.ok none, registry.drop id.toInt.toNat) := by
      simp only [Registry.call, found]
      rfl
    obtain ⟨nonneg, schema, slot⟩ := Registry.hasId_iff.mp found
    obtain ⟨p, element, live⟩ := rep.pointer slot
    have index : toSize id.toInt = id.toInt.toNat := by
      unfold kCatalogMaxID at small
      unfold toSize
      omega
    obtain ⟨heap, delete, rep'⟩ := rep.deleteElement element slot
    simp only [if_true, index, PtrVector.elementAt_of_getElem? element, Exec.ok_bind,
      Heap.load_of_live live, delete]
    rw [answer]
    exact ⟨_, rfl, .of_drop answer rep' rfl⟩

/-- Every call. -/
theorem call_answers (rep : Represents s registry) (next : Call) :
    ∃ s', CatalogState.call next s = .ok ((registry.call next).1, s') ∧ Answers s s' registry next := by
  cases next with
  | addRelation newRel => exact addRelation_answers rep newRel
  | dropRelationByName relName => exact dropRelationByName_answers rep relName
  | dropRelationById id => exact dropRelationById_answers rep id

end Calls

/-! ## Runs -/

/-- The ids that calls have returned. -/
def givenOut (results : List CallResult) : List Int :=
  results.filterMap fun result => match result with
    | .ok returned => returned
    | .error _ => none

section Runs

variable {s : CatalogState} {registry : Registry}

/-- Every sequence of calls. -/
theorem run_answers (rep : Represents s registry) (calls : List Call) :
    ∃ s', CatalogState.run calls s = .ok ((registry.run calls).1, s') ∧
      Represents s' (registry.run calls).2 ∧
      ∀ i < s.database.relVec.length, s'.database.relVec[i]? = s.database.relVec[i]? ∨
        s'.database.relVec[i]? = some none := by
  induction calls generalizing s registry with
  | nil => exact ⟨s, rfl, rep, fun i _ => .inl rfl⟩
  | cons next calls ih =>
    obtain ⟨mid, first, answers⟩ := call_answers rep next
    obtain ⟨s', rest, rep', kept⟩ := ih answers.represents
    refine ⟨s', ?_, rep', fun i inside => ?_⟩
    · simp only [CatalogState.run, first, Exec.ok_bind, rest]
      rfl
    · rcases answers.kept i inside with same | gap
      · have inside' := (List.getElem?_eq_some_iff.mp (same.trans (List.getElem?_eq_getElem inside))).1
        rw [← same]
        exact kept i inside'
      · have inside' := (List.getElem?_eq_some_iff.mp gap).1
        exact .inr ((kept i inside').elim (fun same => same.trans gap) fun none => none)

/-- The ids that a registry gives out are one after the other. -/
theorem givenOut_call (registry : Registry) (next : Call) :
    (List.range registry.slots.length).map Int.ofNat ++ givenOut [(registry.call next).1] =
      (List.range (registry.call next).2.slots.length).map Int.ofNat := by
  cases next with
  | addRelation newRel =>
    simp only [Registry.call]
    split
    next fresh =>
      split
      next room => simp [givenOut, Registry.add, List.range_succ]
      next full => simp [givenOut]
    next taken => simp [givenOut]
  | dropRelationByName relName =>
    simp only [Registry.call]
    cases registry.find (toLower relName) with
    | none => simp [givenOut]
    | some i => simp [givenOut, Registry.drop]
  | dropRelationById id =>
    simp only [Registry.call]
    split
    next found => simp [givenOut, Registry.drop]
    next missing => simp [givenOut]

theorem givenOut_run (registry : Registry) (calls : List Call) :
    (List.range registry.slots.length).map Int.ofNat ++ givenOut (registry.run calls).1 =
      (List.range (registry.run calls).2.slots.length).map Int.ofNat := by
  induction calls generalizing registry with
  | nil => exact List.append_nil _
  | cons next calls ih =>
    have first := givenOut_call registry next
    have split : givenOut (registry.run (next :: calls)).1 =
        givenOut [(registry.call next).1] ++ givenOut ((registry.call next).2.run calls).1 :=
      List.filterMap_append (l := [(registry.call next).1])
    rw [split, ← List.append_assoc, first]
    exact ih (registry.call next).2

/-! ## What holds after every run -/

/-- The two containers of a database describe the same relations. -/
structure Consistent (s : CatalogState) : Prop where
  /-- A relation is at the index that is its id, and the map has it under its lower-cased name. -/
  vector : ∀ (i : Nat) p, s.database.relVec[i]? = some (some p) → ∃ schema, s.heap.Live p schema ∧
    schema.id = i ∧ s.database.relMap.lookup (toLower schema.name) = some p
  map : ∀ lower p, s.database.relMap.lookup lower = some p →
    ∃ (i : Nat) (schema : CatalogRelationSchema), s.database.relVec[i]? = some (some p) ∧
      s.heap.Live p schema ∧ toLower schema.name = lower
  names : ∀ (i j : Nat) p q schema schema', s.database.relVec[i]? = some (some p) →
    s.database.relVec[j]? = some (some q) → s.heap.Live p schema → s.heap.Live q schema' →
    toLower schema.name = toLower schema'.name → i = j
  size : s.database.size = (s.database.relVec.filterMap id).length
  /-- The iteration visits the relations, in the order of their ids. -/
  iteration : ∃ visited schemas, s.database.relVec.Visits visited ∧
    List.Forall₂ s.heap.Live visited schemas ∧ schemas.Pairwise (fun first later => first.id < later.id) ∧
    ∀ p, p ∈ visited ↔ ∃ i : Nat, s.database.relVec[i]? = some (some p)

/-- Two lists with the same gaps, element by element. -/
theorem forall₂_of_gaps {α β : Type} {R : α → β → Prop} {xs : List (Option α)} {ys : List (Option β)}
    (gaps : xs.map Option.isSome = ys.map Option.isSome)
    (related : ∀ (i : Nat) a b, xs[i]? = some (some a) → ys[i]? = some (some b) → R a b) :
    List.Forall₂ (Option.Rel R) xs ys := by
  induction xs generalizing ys with
  | nil =>
    obtain rfl := List.map_eq_nil_iff.mp gaps.symm
    exact .nil
  | cons x xs ih =>
    obtain ⟨y, ys, rfl, present, rest⟩ := List.map_eq_cons_iff.mp gaps.symm
    refine .cons ?_ (ih rest.symm fun i a b first second => related (i + 1) a b first second)
    cases x with
    | none =>
      obtain rfl := Option.isSome_eq_false_iff.mp present |> Option.isNone_iff_eq_none.mp
      exact .none
    | some a =>
      obtain ⟨b, rfl⟩ := Option.isSome_iff_exists.mp present
      exact .some (related 0 a b rfl rfl)

theorem forall₂_filterMap {α β : Type} {R : α → β → Prop} {xs : List (Option α)} {ys : List (Option β)}
    (related : List.Forall₂ (Option.Rel R) xs ys) :
    List.Forall₂ R (xs.filterMap id) (ys.filterMap id) := by
  induction related with
  | nil => exact .nil
  | cons first rest ih =>
    cases first with
    | none => exact ih
    | some here => exact .cons here ih

/-- The elements of the vector and the slots. -/
theorem Represents.forall₂ (rep : Represents s registry) :
    List.Forall₂ (Option.Rel s.heap.Live) s.database.relVec registry.slots :=
  forall₂_of_gaps rep.gaps rep.live

theorem Registry.live_pairwise (registry : Registry) :
    registry.live.Pairwise fun first later => first.id < later.id := by
  unfold live
  rw [List.pairwise_filterMap, List.pairwise_iff_getElem]
  rintro i j inside inside' before first here later there
  have id := registry.ids i first (by rw [List.getElem?_eq_getElem inside]; exact congrArg some here)
  have id' := registry.ids j later (by rw [List.getElem?_eq_getElem inside']; exact congrArg some there)
  omega

theorem Represents.consistent (rep : Represents s registry) : Consistent s where
  vector i p element := by
    obtain ⟨schema, slot, live⟩ := rep.schema element
    refine ⟨schema, live, registry.ids i schema slot, ?_⟩
    rw [rep.map, Registry.find_of_slot slot, Option.bind_some, element]
    rfl
  map lower p lookup := by
    cases found : registry.find lower with
    | none =>
      rw [rep.lookup_of_not_find found] at lookup
      cases lookup
    | some i =>
      obtain ⟨q, schema, lookup', element, live, _, isNamed⟩ := rep.lookup_of_find found
      obtain rfl := Option.some.inj (lookup.symm.trans lookup')
      exact ⟨i, schema, element, live, isNamed⟩
  names i j p q schema schema' first second live live' same := by
    obtain ⟨_, slot, here⟩ := rep.schema first
    obtain ⟨_, slot', there⟩ := rep.schema second
    obtain rfl := live.unique here
    obtain rfl := live'.unique there
    exact registry.distinct _ i j _ _ slot slot' (decide_eq_true rfl) (decide_eq_true same.symm)
  size := by
    rw [rep.size]
    exact (forall₂_filterMap rep.forall₂).length_eq.symm
  iteration := by
    refine ⟨s.database.relVec.filterMap id, registry.live, PtrVector.visits _,
      forall₂_filterMap rep.forall₂, registry.live_pairwise, fun p => ?_⟩
    rw [List.mem_filterMap]
    constructor
    · rintro ⟨element, mem, rfl⟩
      exact List.getElem?_of_mem mem
    · rintro ⟨i, element⟩
      exact ⟨some p, List.mem_of_getElem? element, rfl⟩

/-- **The database invariant.** After every sequence of calls the map and the vector describe the same
relations; the ids given out so far are one after the other; a call that throws changes nothing; and
whatever is called later, the relation at an id stays or is dropped. -/
theorem run_consistent (name : Str) (calls later : List Call) (next : Call) :
    ∃ results s, CatalogState.run calls (.create name) = .ok (results, s) ∧ Consistent s ∧
      givenOut results = (List.range s.database.relVec.length).map Int.ofNat ∧
      (∃ result after, CatalogState.call next s = .ok (result, after) ∧
        ∀ exception, result = .error exception → after.database = s.database ∧
          ∀ p schema, s.heap.Live p schema → after.heap.Live p schema) ∧
      ∃ results' after, CatalogState.run later s = .ok (results', after) ∧
        ∀ i < s.database.relVec.length, after.database.relVec[i]? = s.database.relVec[i]? ∨
          after.database.relVec[i]? = some none := by
  obtain ⟨s, run, rep, _⟩ := run_answers (Represents.create name) calls
  obtain ⟨after, call, answers⟩ := call_answers rep next
  obtain ⟨after', run', _, kept⟩ := run_answers rep later
  refine ⟨_, s, run, rep.consistent, ?_, ⟨_, after, call, answers.unchanged⟩, ⟨_, after', run', kept⟩⟩
  rw [rep.length_eq]
  exact givenOut_run (.create name) calls

end Runs

end Quickstep.Catalog
