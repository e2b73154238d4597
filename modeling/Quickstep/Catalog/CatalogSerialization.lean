import Quickstep.Catalog.CatalogDatabaseRefinement

/-!
# Databases as messages

The message of a database has its relations in one list and the ids of its gaps in another. The loops on
both sides count slots in an `int`.
-/

namespace Quickstep.Catalog
open Quickstep.Lib Quickstep.Utility

structure CatalogDatabaseProto where
  name : Option Str := none
  relations : List CatalogRelationSchemaProto := []
  nullRelations : List Int := []

def CatalogDatabaseProto.isInitialized (proto : CatalogDatabaseProto) : Bool :=
  proto.name.isSome && proto.relations.all CatalogRelationSchemaProto.isInitialized

/-- A sum of two sizes as an `int`. -/
def addInt (m n : Nat) : Exec Int :=
  if m + n ≤ kCatalogMaxID then .ok (m + n) else .error .undefinedBehaviour

namespace CatalogDatabase

def protoIsValid (proto : CatalogDatabaseProto) : Bool :=
  proto.isInitialized && proto.relations.all CatalogRelationSchema.protoIsValid

/-- The body of the loop of `getProto`. -/
def addElement (heap : Heap CatalogRelationSchema) (proto : CatalogDatabaseProto) (i : Int) :
    Option Pointer → Exec CatalogDatabaseProto
  | none => pure { proto with nullRelations := proto.nullRelations ++ [i] }
  | some p => do
    let schema ← heap.load p
    pure { proto with relations := proto.relations ++ [schema.getProto] }

/-- One round of the loop, with `++i`. -/
def serializeElement (heap : Heap CatalogRelationSchema) (state : CatalogDatabaseProto × Int)
    (element : Option Pointer) : Exec (CatalogDatabaseProto × Int) := do
  let proto ← addElement heap state.1 state.2 element
  pure (proto, ← succInt state.2)

def getProto (s : CatalogState) : Exec CatalogDatabaseProto := do
  let (proto, _) ← s.database.relVec.foldlM (serializeElement s.heap) ({ name := some s.database.name }, 0)
  pure proto

/-- One round of the loop of the constructor: the next slot is a gap, or the next relation is added.
`indexNullRelations` is the number of gaps so far. -/
def reconstructSlot (proto : CatalogDatabaseProto) (indexNullRelations : Nat) (s : CatalogState)
    (indexRelations : Nat) : Exec (Except CatalogException (Nat × CatalogState)) :=
  if proto.nullRelations[indexNullRelations]? = some (indexRelations : Int) then
    pure (.ok (indexNullRelations + 1,
      { s with database := { s.database with relVec := s.database.relVec ++ [none] } }))
  else do
    let relation ← readAt proto.relations (indexRelations - indexNullRelations)
    match ← CatalogRelationSchema.fromProto relation with
    | .error exception => pure (.error exception)
    | .ok schema =>
      let (result, s) ← CatalogState.call (.addRelation schema) s
      pure (result.map fun _ => (indexNullRelations, s))

def reconstructSlots (proto : CatalogDatabaseProto) (indexNullRelations : Nat) (s : CatalogState) :
    List Nat → Exec (Except CatalogException CatalogState)
  | [] => pure (.ok s)
  | indexRelations :: rest => do
    match ← reconstructSlot proto indexNullRelations s indexRelations with
    | .error exception => pure (.error exception)
    | .ok (indexNullRelations, s) => reconstructSlots proto indexNullRelations s rest

/-- The constructor from a message. -/
def fromProto (proto : CatalogDatabaseProto) : Exec (Except CatalogException CatalogState) := do
  let size ← addInt proto.nullRelations.length proto.relations.length
  reconstructSlots proto 0 (.create (proto.name.getD [])) (List.range size.toNat)

end CatalogDatabase

/-! ## The message of a registry -/

/-- The indices of the gaps, when the first slot has index `i`. -/
def nullsFrom {α : Type} (i : Nat) : List (Option α) → List Int
  | [] => []
  | none :: slots => (i : Int) :: nullsFrom (i + 1) slots
  | some _ :: slots => nullsFrom (i + 1) slots

def Registry.toProto (registry : Registry) : CatalogDatabaseProto where
  name := some registry.name
  relations := registry.live.map CatalogRelationSchema.getProto
  nullRelations := nullsFrom 0 registry.slots

section Streams

variable {α : Type} {i : Nat}

theorem nullsFrom_append (slots later : List (Option α)) :
    nullsFrom i (slots ++ later) = nullsFrom i slots ++ nullsFrom (i + slots.length) later := by
  induction slots generalizing i with
  | nil => rfl
  | cons slot slots ih =>
    have index : i + 1 + slots.length = i + (slots.length + 1) := by omega
    cases slot with
    | none => simp only [List.cons_append, nullsFrom, ih, List.length_cons, index]
    | some a => simp only [List.cons_append, nullsFrom, ih, List.length_cons, index]

/-- Every slot is a gap or not. -/
theorem length_nullsFrom_add (slots : List (Option α)) :
    (nullsFrom i slots).length + (slots.filterMap id).length = slots.length := by
  induction slots generalizing i with
  | nil => rfl
  | cons slot slots ih =>
    have rest := @ih (i + 1)
    cases slot with
    | none =>
      show (nullsFrom (i + 1) slots).length + 1 + (slots.filterMap id).length = slots.length + 1
      omega
    | some a =>
      show (nullsFrom (i + 1) slots).length + ((slots.filterMap id).length + 1) = slots.length + 1
      omega

/-- The indices are not below the first. -/
theorem le_of_mem_nullsFrom {slots : List (Option α)} {index : Int} (mem : index ∈ nullsFrom i slots) :
    (i : Int) ≤ index := by
  induction slots generalizing i with
  | nil => cases mem
  | cons slot slots ih =>
    cases slot with
    | none =>
      rcases List.mem_cons.mp mem with rfl | later
      · exact Int.le_refl _
      · have le := ih later
        omega
    | some a =>
      have le := ih mem
      omega

end Streams

/-! ## Encoding -/

section Encoding

variable {heap : Heap CatalogRelationSchema} {state : CatalogDatabaseProto × Int}

theorem serializeElement_spec {element : Option Pointer} {slot : Option CatalogRelationSchema}
    (related : Option.Rel heap.Live element slot) (proto : CatalogDatabaseProto) {i : Nat}
    (room : i < kCatalogMaxID) :
    CatalogDatabase.serializeElement heap (proto, i) element = .ok
      ({ proto with
          relations := proto.relations ++ ([slot].filterMap id).map CatalogRelationSchema.getProto
          nullRelations := proto.nullRelations ++ nullsFrom i [slot] }, (i + 1 : Nat)) := by
  have next : succInt i = .ok ((i + 1 : Nat) : Int) := if_pos room
  unfold CatalogDatabase.serializeElement
  cases related with
  | none =>
    simp [next, nullsFrom, CatalogDatabase.addElement]
  | some live =>
    simp [next, nullsFrom, CatalogDatabase.addElement, Heap.load_of_live live]
    rfl

/-- The loop of `getProto` over the elements of some slots. -/
theorem serialize_spec {elements : List (Option Pointer)} {slots : List (Option CatalogRelationSchema)}
    (related : List.Forall₂ (Option.Rel heap.Live) elements slots) (proto : CatalogDatabaseProto) {i : Nat}
    (room : i + slots.length ≤ kCatalogMaxID) :
    elements.foldlM (CatalogDatabase.serializeElement heap) (proto, (i : Int)) = .ok
      ({ proto with
          relations := proto.relations ++ (slots.filterMap id).map CatalogRelationSchema.getProto
          nullRelations := proto.nullRelations ++ nullsFrom i slots }, (i + slots.length : Nat)) := by
  induction related generalizing proto i with
  | nil =>
    simp [nullsFrom]
    rfl
  | @cons element slot elements slots first rest ih =>
    rw [List.length_cons] at room
    have split : nullsFrom i (slot :: slots) = nullsFrom i [slot] ++ nullsFrom (i + 1) slots :=
      nullsFrom_append [slot] slots
    have split' : (slot :: slots).filterMap id = [slot].filterMap id ++ slots.filterMap id :=
      List.filterMap_append (l := [slot])
    have index : i + 1 + slots.length = i + (slots.length + 1) := by omega
    rw [List.foldlM_cons, serializeElement_spec first proto (by omega), Exec.ok_bind, ih _ (by omega),
      split, split', List.map_append, List.append_assoc, List.append_assoc, List.length_cons, index]

theorem serializeElement_room {element : Option Pointer} {i : Int} {proto : CatalogDatabaseProto}
    {state : CatalogDatabaseProto × Int}
    (run : CatalogDatabase.serializeElement heap (proto, i) element = .ok state) :
    i < kCatalogMaxID ∧ state.2 = i + 1 := by
  obtain ⟨_, _, rest⟩ := Exec.bind_ok run
  obtain ⟨next, counted, rest⟩ := Exec.bind_ok rest
  cases rest
  unfold succInt at counted
  split at counted
  next room =>
    cases counted
    exact ⟨room, rfl⟩
  next full => cases counted

/-- The loop counts past the last slot. -/
theorem serialize_room {elements : List (Option Pointer)} {i : Int} {proto : CatalogDatabaseProto}
    {state : CatalogDatabaseProto × Int} (start : i ≤ kCatalogMaxID)
    (run : elements.foldlM (CatalogDatabase.serializeElement heap) (proto, i) = .ok state) :
    i + elements.length ≤ kCatalogMaxID := by
  induction elements generalizing i proto with
  | nil => simpa using start
  | cons element elements ih =>
    rw [List.foldlM_cons] at run
    obtain ⟨⟨proto', next⟩, first, rest⟩ := Exec.bind_ok run
    obtain ⟨room, counted⟩ := serializeElement_room first
    obtain rfl : next = i + 1 := counted
    have later := ih (by omega) rest
    rw [List.length_cons]
    omega

end Encoding

variable {s : CatalogState} {registry : Registry}

/-- **Encoding.** There is a message exactly while the slots can be counted, and it is that of the
registry. -/
theorem getProto_eq (rep : Represents s registry) (room : registry.slots.length ≤ kCatalogMaxID) :
    CatalogDatabase.getProto s = .ok registry.toProto := by
  have loop := serialize_spec rep.forall₂ { name := some s.database.name } (i := 0) (by omega)
  unfold CatalogDatabase.getProto
  rw [show ((0 : Nat) : Int) = 0 from rfl] at loop
  rw [loop, rep.name]
  rfl

theorem room_of_getProto {proto : CatalogDatabaseProto} (rep : Represents s registry)
    (run : CatalogDatabase.getProto s = .ok proto) : registry.slots.length ≤ kCatalogMaxID := by
  obtain ⟨state, loop, _⟩ := Exec.bind_ok run
  have room := serialize_room (by decide) loop
  rw [rep.length_eq] at room
  omega

/-! ## Decoding -/

theorem getElem?_take_eq_some_iff {α : Type} {xs : List α} {i k : Nat} {x : α} :
    (xs.take k)[i]? = some x ↔ i < k ∧ xs[i]? = some x := by
  rw [List.getElem?_take]
  by_cases before : i < k <;> simp [before]

/-- The first slots of a registry. -/
def Registry.take (registry : Registry) (k : Nat) : Registry where
  name := registry.name
  slots := registry.slots.take k
  ids i schema found := registry.ids i schema (getElem?_take_eq_some_iff.mp found).2
  distinct lower i j slot slot' found found' :=
    registry.distinct lower i j slot slot' (getElem?_take_eq_some_iff.mp found).2
      (getElem?_take_eq_some_iff.mp found').2
  bounded := by
    have bounded := registry.bounded
    have shorter := List.length_take_le' k registry.slots
    omega

section Decoding

variable {k : Nat}

/-- The number of gaps among the first slots. -/
def Registry.gapsBefore (registry : Registry) (k : Nat) : Nat := (nullsFrom 0 (registry.slots.take k)).length

theorem Registry.slots_take_succ {slot : Option CatalogRelationSchema}
    (here : registry.slots[k]? = some slot) :
    registry.slots.take (k + 1) = registry.slots.take k ++ [slot] := by
  rw [List.take_add_one, here]
  rfl

theorem Registry.gapsBefore_succ {slot : Option CatalogRelationSchema}
    (here : registry.slots[k]? = some slot) :
    registry.gapsBefore (k + 1) = registry.gapsBefore k + (nullsFrom k [slot]).length := by
  have inside := (List.getElem?_eq_some_iff.mp here).1
  unfold gapsBefore
  rw [slots_take_succ here, nullsFrom_append, List.length_append, Nat.zero_add,
    List.length_take_of_le (Nat.le_of_lt inside)]

/-- What the two lists of the message have left before slot `k`. -/
theorem Registry.toProto_split (inside : k ≤ registry.slots.length) :
    registry.toProto.nullRelations.drop (registry.gapsBefore k) = nullsFrom k (registry.slots.drop k) ∧
      registry.toProto.relations.drop (k - registry.gapsBefore k) =
        ((registry.slots.drop k).filterMap id).map CatalogRelationSchema.getProto := by
  have whole : registry.slots.take k ++ registry.slots.drop k = registry.slots := List.take_append_drop _ _
  have length := List.length_take_of_le inside
  have sizes := @length_nullsFrom_add _ 0 (registry.slots.take k)
  have gaps : registry.toProto.nullRelations =
      nullsFrom 0 (registry.slots.take k) ++ nullsFrom k (registry.slots.drop k) := by
    show nullsFrom 0 registry.slots = _
    nth_rewrite 1 [← whole]
    rw [nullsFrom_append, Nat.zero_add, length]
  have relations : registry.toProto.relations =
      ((registry.slots.take k).filterMap id).map CatalogRelationSchema.getProto ++
        ((registry.slots.drop k).filterMap id).map CatalogRelationSchema.getProto := by
    show (registry.slots.filterMap id).map CatalogRelationSchema.getProto = _
    nth_rewrite 1 [← whole]
    rw [List.filterMap_append, List.map_append]
  have before : k - registry.gapsBefore k =
      (((registry.slots.take k).filterMap id).map CatalogRelationSchema.getProto).length := by
    rw [List.length_map]
    unfold gapsBefore
    omega
  constructor
  · rw [gaps]
    exact List.drop_left
  · rw [relations, before]
    exact List.drop_left

/-- A gap is added. -/
theorem Represents.push_null (rep : Represents s (registry.take k))
    (gap : registry.slots[k]? = some none) :
    Represents { s with database := { s.database with relVec := s.database.relVec ++ [none] } }
      (registry.take (k + 1)) where
  name := rep.name
  gaps := by
    show (s.database.relVec ++ [none]).map _ = (registry.slots.take (k + 1)).map _
    rw [Registry.slots_take_succ gap, List.map_append, List.map_append]
    exact congrArg (· ++ [false]) rep.gaps
  live i p schema element slot := by
    rcases getElem?_append_singleton.mp element with before | ⟨_, last⟩
    · obtain ⟨schema', slot', live⟩ := rep.schema before
      have slot'' := (getElem?_take_eq_some_iff.mp slot').2
      rw [(getElem?_take_eq_some_iff.mp slot).2] at slot''
      cases slot''
      exact live
    · cases last
  map lower := by
    have same : (registry.take (k + 1)).find lower = (registry.take k).find lower := by
      show (registry.slots.take (k + 1)).findIdx? _ = (registry.slots.take k).findIdx? _
      rw [Registry.slots_take_succ gap, List.findIdx?_append]
      simp [named]
    rw [same, rep.map]
    cases found : (registry.take k).find lower with
    | none => rfl
    | some i =>
      obtain ⟨q, _, _, element, _⟩ := rep.lookup_of_find found
      rw [Option.bind_some, Option.bind_some, element, getElem?_append_singleton.mpr (.inl element)]
  size := by
    have same : (registry.take (k + 1)).live = (registry.take k).live := by
      show (registry.slots.take (k + 1)).filterMap id = (registry.slots.take k).filterMap id
      rw [Registry.slots_take_succ gap, List.filterMap_append]
      exact List.append_nil _
    rw [same]
    exact rep.size

/-- Adding the relation of slot `k` to the registry of the slots before it. -/
theorem Registry.call_take {schema : CatalogRelationSchema}
    (slot : registry.slots[k]? = some (some schema)) :
    (registry.take k).call (.addRelation schema) = (.ok (some (k : Int)), registry.take (k + 1)) := by
  have inside := (List.getElem?_eq_some_iff.mp slot).1
  have length : (registry.take k).slots.length = k := List.length_take_of_le (Nat.le_of_lt inside)
  have fresh : (registry.take k).find (toLower schema.name) = none := by
    rw [find_eq_none_iff]
    intro i slot' found
    obtain ⟨before, found'⟩ := getElem?_take_eq_some_iff.mp found
    cases isNamed : named (toLower schema.name) slot' with
    | false => rfl
    | true =>
      have same := registry.distinct _ i k slot' _ found' slot isNamed (decide_eq_true rfl)
      omega
  have room : (registry.take k).slots.length ≤ kCatalogMaxID := by
    have bounded := registry.bounded
    omega
  have id : { schema with id := (k : Int) } = schema := by rw [← registry.ids k schema slot]
  have added : (registry.take k).add schema fresh room = registry.take (k + 1) := by
    refine Registry.ext (by rfl) ?_
    show registry.slots.take k ++ [some { schema with id := ((registry.take k).slots.length : Int) }] =
      registry.slots.take (k + 1)
    rw [length, id, slots_take_succ slot]
  rw [call_addRelation fresh room, added, length]

theorem reconstructSlot_spec (rep : Represents s (registry.take k)) (inside : k < registry.slots.length)
    (built : ∀ schema ∈ registry.live, schema.Built) :
    ∃ s', CatalogDatabase.reconstructSlot registry.toProto (registry.gapsBefore k) s k =
        .ok (.ok (registry.gapsBefore (k + 1), s')) ∧ Represents s' (registry.take (k + 1)) := by
  obtain ⟨gaps, relations⟩ := Registry.toProto_split (Nat.le_of_lt inside)
  have here : registry.slots[k]? = some registry.slots[k] := List.getElem?_eq_getElem inside
  have nextGap : registry.toProto.nullRelations[registry.gapsBefore k]? =
      (nullsFrom k (registry.slots.drop k)).head? := by
    rw [← gaps, List.head?_drop]
  have nextRelation : registry.toProto.relations[k - registry.gapsBefore k]? =
      (((registry.slots.drop k).filterMap id).map CatalogRelationSchema.getProto).head? := by
    rw [← relations, List.head?_drop]
  rw [List.drop_eq_getElem_cons inside] at nextGap nextRelation
  rw [Registry.gapsBefore_succ here]
  unfold CatalogDatabase.reconstructSlot
  cases slot : registry.slots[k] with
  | none =>
    rw [slot] at here nextGap
    have isGap : registry.toProto.nullRelations[registry.gapsBefore k]? = some (k : Int) := nextGap
    rw [if_pos isGap]
    exact ⟨_, rfl, rep.push_null here⟩
  | some schema =>
    rw [slot] at here nextGap nextRelation
    have notGap : registry.toProto.nullRelations[registry.gapsBefore k]? ≠ some (k : Int) := by
      rw [nextGap]
      intro isGap
      have later : (k : Int) ∈ nullsFrom (k + 1) (registry.slots.drop (k + 1)) := List.mem_of_head? isGap
      have le := le_of_mem_nullsFrom later
      omega
    have isBuilt := built schema (List.mem_filterMap.mpr ⟨some schema, List.mem_of_getElem? here, rfl⟩)
    have read : readAt registry.toProto.relations (k - registry.gapsBefore k) = .ok schema.getProto := by
      unfold readAt
      rw [nextRelation]
      rfl
    obtain ⟨s', call, answers⟩ := addRelation_answers rep schema
    have rep' := answers.represents
    rw [Registry.call_take here] at call rep'
    rw [if_neg notGap]
    simp only [read, isBuilt.fromProto_getProto, call, Exec.ok_bind]
    exact ⟨s', rfl, rep'⟩

/-- The loop of the constructor over the slots from the `k`-th on. -/
theorem reconstructSlots_spec (built : ∀ schema ∈ registry.live, schema.Built) {n : Nat}
    (rep : Represents s (registry.take k)) (all : k + n = registry.slots.length) :
    ∃ s', CatalogDatabase.reconstructSlots registry.toProto (registry.gapsBefore k) s
        (List.range' k n) = .ok (.ok s') ∧ Represents s' registry := by
  induction n generalizing k s with
  | zero =>
    have whole : registry.take k = registry := Registry.ext rfl (List.take_of_length_le (by omega))
    rw [whole] at rep
    exact ⟨s, rfl, rep⟩
  | succ n ih =>
    obtain ⟨mid, first, rep'⟩ := reconstructSlot_spec rep (by omega) built
    obtain ⟨s', rest, rep''⟩ := ih rep' (by omega)
    refine ⟨s', ?_, rep''⟩
    rw [List.range'_succ]
    unfold CatalogDatabase.reconstructSlots
    rw [first]
    exact rest

end Decoding

/-- **Decoding.** The message of a registry gives a database that represents it. -/
theorem fromProto_toProto (built : ∀ schema ∈ registry.live, schema.Built)
    (room : registry.slots.length ≤ kCatalogMaxID) :
    ∃ s', CatalogDatabase.fromProto registry.toProto = .ok (.ok s') ∧ Represents s' registry := by
  have sizes : registry.toProto.nullRelations.length + registry.toProto.relations.length =
      registry.slots.length := by
    show (nullsFrom 0 registry.slots).length + (registry.live.map _).length = _
    rw [List.length_map]
    exact length_nullsFrom_add registry.slots
  have start : Represents (.create registry.name) (registry.take 0) := .create registry.name
  obtain ⟨s', run, rep⟩ := reconstructSlots_spec built start (Nat.zero_add registry.slots.length)
  refine ⟨s', ?_, rep⟩
  unfold CatalogDatabase.fromProto addInt
  rw [if_pos (by omega), Exec.ok_bind, List.range_eq_range']
  have size : ((registry.toProto.nullRelations.length : Int) + registry.toProto.relations.length).toNat =
      registry.slots.length := by omega
  rw [size]
  exact run

/-! ## Relations that were built -/

/-- The relations of a call were made by the constructor and `addAttribute`. -/
def Call.Built : Call → Prop
  | addRelation newRel => newRel.Built
  | dropRelationByName _ | dropRelationById _ => True

theorem Registry.live_drop {i : Nat} {schema : CatalogRelationSchema}
    (mem : schema ∈ (registry.drop i).live) : schema ∈ registry.live := by
  obtain ⟨slot, isSlot, here⟩ := List.mem_filterMap.mp mem
  rcases List.mem_or_eq_of_mem_set isSlot with before | rfl
  · exact List.mem_filterMap.mpr ⟨slot, before, here⟩
  · cases here

theorem Registry.call_built (built : ∀ schema ∈ registry.live, schema.Built) {next : Call}
    (isBuilt : next.Built) : ∀ schema ∈ (registry.call next).2.live, schema.Built := by
  cases next with
  | addRelation newRel =>
    simp only [call]
    split
    next fresh =>
      split
      next room =>
        have live : (registry.add newRel fresh room).live =
            registry.live ++ [{ newRel with id := registry.slots.length }] :=
          List.filterMap_append
        intro schema mem
        rw [live] at mem
        rcases List.mem_append.mp mem with before | last
        · exact built schema before
        · rw [List.mem_singleton.mp last]
          exact .setID isBuilt _
      next full => exact built
    next taken => exact built
  | dropRelationByName relName =>
    simp only [call]
    cases registry.find (toLower relName) with
    | none => exact built
    | some i => exact fun schema mem => built schema (live_drop mem)
  | dropRelationById id =>
    simp only [call]
    split
    next found => exact fun schema mem => built schema (live_drop mem)
    next missing => exact built

theorem Registry.run_built (built : ∀ schema ∈ registry.live, schema.Built) {calls : List Call}
    (isBuilt : ∀ next ∈ calls, next.Built) : ∀ schema ∈ (registry.run calls).2.live, schema.Built := by
  induction calls generalizing registry with
  | nil => exact built
  | cons next calls ih =>
    rw [List.forall_mem_cons] at isBuilt
    exact ih (call_built built isBuilt.1) isBuilt.2

/-- The messages of built relations with ids make up a valid message. -/
theorem protoIsValid_toProto (built : ∀ schema ∈ registry.live, schema.Built) :
    CatalogDatabase.protoIsValid registry.toProto = true := by
  have valid : ∀ proto ∈ registry.toProto.relations, CatalogRelationSchema.protoIsValid proto = true := by
    intro proto mem
    obtain ⟨schema, isLive, rfl⟩ := List.mem_map.mp mem
    apply (built schema isLive).protoIsValid_getProto
    obtain ⟨slot, isSlot, here⟩ := List.mem_filterMap.mp isLive
    obtain ⟨i, found⟩ := List.getElem?_of_mem isSlot
    have id := registry.ids i schema (found.trans (congrArg some here))
    omega
  have initialized : ∀ proto ∈ registry.toProto.relations, proto.isInitialized = true := by
    intro proto mem
    have both := valid proto mem
    unfold CatalogRelationSchema.protoIsValid at both
    simp only [Bool.and_eq_true] at both
    exact both.1.1
  unfold CatalogDatabase.protoIsValid CatalogDatabaseProto.isInitialized
  rw [List.all_eq_true.mpr initialized, List.all_eq_true.mpr valid]
  rfl

/-! ## Round trip -/

/-- Two databases have the same name, gaps, relations by id and by name, and answer alike from now on. -/
structure SameDatabase (s s' : CatalogState) : Prop where
  name : s.database.name = s'.database.name
  gaps : s.database.relVec.map Option.isSome = s'.database.relVec.map Option.isSome
  relations : ∀ (i : Nat) p q schema schema', s.database.relVec[i]? = some (some p) →
    s'.database.relVec[i]? = some (some q) → s.heap.Live p schema → s'.heap.Live q schema' →
    schema = schema'
  map : ∀ lower schema, (∃ p, s.database.relMap.lookup lower = some p ∧ s.heap.Live p schema) ↔
    ∃ q, s'.database.relMap.lookup lower = some q ∧ s'.heap.Live q schema
  calls : ∀ calls, ∃ results after after', CatalogState.run calls s = .ok (results, after) ∧
    CatalogState.run calls s' = .ok (results, after')

theorem Represents.lookup_iff (rep : Represents s registry) (lower : Str)
    (schema : CatalogRelationSchema) :
    (∃ p, s.database.relMap.lookup lower = some p ∧ s.heap.Live p schema) ↔
      ∃ i, registry.find lower = some i ∧ registry.slots[i]? = some (some schema) := by
  constructor
  · rintro ⟨p, lookup, live⟩
    cases found : registry.find lower with
    | none =>
      rw [rep.lookup_of_not_find found] at lookup
      cases lookup
    | some i =>
      obtain ⟨q, schema', lookup', _, live', slot, _⟩ := rep.lookup_of_find found
      obtain rfl := Option.some.inj (lookup.symm.trans lookup')
      obtain rfl := live.unique live'
      exact ⟨i, rfl, slot⟩
  · rintro ⟨i, found, slot⟩
    obtain ⟨q, schema', lookup, _, live, slot', _⟩ := rep.lookup_of_find found
    rw [slot] at slot'
    cases slot'
    exact ⟨q, lookup, live⟩

theorem Represents.same {s' : CatalogState} (rep : Represents s registry)
    (rep' : Represents s' registry) : SameDatabase s s' where
  name := rep.name.trans rep'.name.symm
  gaps := rep.gaps.trans rep'.gaps.symm
  relations i p q schema schema' element element' live live' := by
    obtain ⟨schema₁, slot, here⟩ := rep.schema element
    obtain ⟨schema₂, slot', here'⟩ := rep'.schema element'
    obtain rfl := live.unique here
    obtain rfl := live'.unique here'
    rw [slot] at slot'
    exact Option.some.inj (Option.some.inj slot')
  map lower schema := (rep.lookup_iff lower schema).trans (rep'.lookup_iff lower schema).symm
  calls calls := by
    obtain ⟨after, run, _⟩ := run_answers rep calls
    obtain ⟨after', run', _⟩ := run_answers rep' calls
    exact ⟨_, after, after', run, run'⟩

/-- The message of a database is valid, and the database made from it is the same. -/
def RoundTrips (s : CatalogState) : Prop :=
  ∃ proto s', CatalogDatabase.getProto s = .ok proto ∧ CatalogDatabase.protoIsValid proto = true ∧
    CatalogDatabase.fromProto proto = .ok (.ok s') ∧ Consistent s' ∧ SameDatabase s s'

/-- **Databases survive** exactly while an `int` can count their slots: a database that has given out the
last id has one slot too many. -/
theorem roundTrips_iff (name : Str) {calls : List Call} (built : ∀ next ∈ calls, next.Built) :
    ∃ results s, CatalogState.run calls (.create name) = .ok (results, s) ∧
      (RoundTrips s ↔ s.database.relVec.length ≤ kCatalogMaxID) := by
  obtain ⟨s, run, rep, _⟩ := run_answers (Represents.create name) calls
  have empty : ∀ schema ∈ (Registry.create name).live, schema.Built :=
    fun schema mem => absurd mem List.not_mem_nil
  have built' := Registry.run_built empty built
  refine ⟨_, s, run, ?_⟩
  rw [rep.length_eq]
  constructor
  · rintro ⟨proto, _, serialized, _⟩
    exact room_of_getProto rep serialized
  · intro room
    obtain ⟨s', reconstructed, rep'⟩ := fromProto_toProto built' room
    exact ⟨_, s', getProto_eq rep room, protoIsValid_toProto built', reconstructed, rep'.consistent,
      rep.same rep'⟩

/-- A relation "A" with one attribute "x", an empty relation "b" and a gap in front of it. -/
def gapCalls : List Call :=
  [.addRelation ((CatalogRelationSchema.create [65] (-1) false).withAttribute
      ⟨0, [120], [], .varChar 5 true⟩ 1),
    .addRelation (.create [98] (-1) true), .dropRelationByName [97]]

theorem roundTrips_iff_gap : ∃ results s, CatalogState.run gapCalls (.create []) = .ok (results, s) ∧
    (RoundTrips s ↔ s.database.relVec.length ≤ kCatalogMaxID) := by
  apply roundTrips_iff
  have room : ((CatalogRelationSchema.create [65] (-1) false).attrVec.length : Int) < kCatalogMaxID := by
    decide
  have oneAttribute := CatalogRelationSchema.Built.addAttribute (.create [65] (-1) false)
    (@CatalogRelationSchema.addAttribute_of_lt _ ⟨0, [120], [], .varChar 5 true⟩ room)
  simp only [gapCalls, List.forall_mem_cons]
  exact ⟨oneAttribute, .create _ _ _, trivial, fun next mem => absurd mem List.not_mem_nil⟩

/-! ## The last id -/

/-- A relation "t" without attributes. -/
def addT : Call := .addRelation (.create [116] (-1) false)

/-- Relations that are added and dropped, and one that stays. -/
def gapsThenT (n : Nat) : List Call :=
  (List.replicate n [addT, .dropRelationByName [116]]).flatten ++ [addT]

section LastId

variable {k : Nat}

theorem Registry.run_append (registry : Registry) (calls later : List Call) :
    (registry.run (calls ++ later)).2 = ((registry.run calls).2.run later).2 := by
  induction calls generalizing registry with
  | nil => rfl
  | cons next calls ih => exact ih (registry.call next).2

theorem Registry.find_replicate (gaps : registry.slots = List.replicate k none) (lower : Str) :
    registry.find lower = none := by
  rw [find_eq_none_iff]
  intro i slot found
  rw [gaps] at found
  rw [List.eq_of_mem_replicate (List.mem_of_getElem? found)]
  rfl

theorem Registry.call_addT (gaps : registry.slots = List.replicate k none) (room : k ≤ kCatalogMaxID) :
    ∃ schema, toLower schema.name = [116] ∧
      (registry.call addT).2.slots = List.replicate k none ++ [some schema] := by
  let t := CatalogRelationSchema.create [116] (-1) false
  have fresh : registry.find (toLower t.name) = none := find_replicate gaps _
  have room' : registry.slots.length ≤ kCatalogMaxID := by rwa [gaps, List.length_replicate]
  have added : registry.call addT = _ := call_addRelation fresh room'
  refine ⟨{ t with id := registry.slots.length }, ?_, ?_⟩
  · show toLower [116] = [116]
    decide
  · rw [added, ← gaps]
    rfl

theorem Registry.run_gaps (gaps : registry.slots = List.replicate k none) {n : Nat}
    (room : k + n ≤ kCatalogMaxID + 1) :
    (registry.run (List.replicate n [addT, .dropRelationByName [116]]).flatten).2.slots =
      List.replicate (k + n) none := by
  induction n generalizing registry k with
  | zero => exact gaps
  | succ n ih =>
    obtain ⟨schema, name, added⟩ := call_addT gaps (by omega)
    have slot : (registry.call addT).2.slots[k]? = some (some schema) := by
      rw [added, List.getElem?_append_right (by rw [List.length_replicate]), List.length_replicate,
        Nat.sub_self]
      rfl
    have found : (registry.call addT).2.find (toLower [116]) = some k := by
      have found := find_of_slot slot
      rw [name] at found
      exact found
    have dropped : ((registry.call addT).2.call (.dropRelationByName [116])).2 =
        (registry.call addT).2.drop k := congrArg Prod.snd (call_dropRelationByName found)
    have gaps' : ((registry.call addT).2.drop k).slots = List.replicate (k + 1) none := by
      show (registry.call addT).2.slots.set k none = _
      rw [added, List.set_append_right _ _ (by rw [List.length_replicate]), List.length_replicate,
        Nat.sub_self, List.replicate_succ']
      rfl
    rw [← dropped] at gaps'
    have rest := ih gaps' (by omega)
    rw [show k + (n + 1) = k + 1 + n by omega]
    exact rest

/-- After all these calls every id has been given out. -/
theorem Registry.run_gapsThenT (name : Str) {n : Nat} (room : n ≤ kCatalogMaxID) :
    ((Registry.create name).run (gapsThenT n)).2.slots.length = n + 1 := by
  have gaps := @run_gaps (Registry.create name) 0 rfl n (by omega)
  rw [Nat.zero_add] at gaps
  obtain ⟨schema, _, added⟩ := call_addT gaps room
  unfold gapsThenT
  rw [run_append]
  show ((_ : Registry).call addT).2.slots.length = n + 1
  rw [added, List.length_append, List.length_replicate]
  rfl

theorem gapsThenT_built (n : Nat) : ∀ next ∈ gapsThenT n, next.Built := by
  intro next mem
  have cases : next = addT ∨ next = .dropRelationByName [116] := by
    unfold gapsThenT at mem
    simp only [List.mem_append, List.mem_flatten, List.mem_replicate, List.mem_singleton] at mem
    rcases mem with ⟨pair, ⟨_, rfl⟩, mem⟩ | rfl
    · simpa using mem
    · exact .inl rfl
  rcases cases with rfl | rfl
  · exact .create _ _ _
  · trivial

/-- The loop of `getProto` counts on to one more than the last id. -/
theorem run_gapsThenT (name : Str) {n : Nat} (last : n = kCatalogMaxID) :
    ∃ results s, CatalogState.run (gapsThenT n) (.create name) = .ok (results, s) ∧ ¬ RoundTrips s := by
  obtain ⟨s, run, rep, _⟩ := run_answers (Represents.create name) (gapsThenT n)
  refine ⟨_, s, run, ?_⟩
  rintro ⟨proto, _, serialized, _⟩
  have room := room_of_getProto rep serialized
  rw [Registry.run_gapsThenT name (Int.le_of_eq last)] at room
  omega

end LastId

/-- Every id but the last has a gap. -/
theorem not_roundTrips_lastId : (∀ next ∈ gapsThenT 2147483647, next.Built) ∧
    ∃ results s, CatalogState.run (gapsThenT 2147483647) (.create []) = .ok (results, s) ∧
      ¬ RoundTrips s :=
  ⟨gapsThenT_built _, run_gapsThenT [] (by decide)⟩

end Quickstep.Catalog
