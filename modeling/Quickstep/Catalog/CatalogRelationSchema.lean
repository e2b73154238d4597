import Mathlib.Data.List.AList
import Quickstep.Lib.WhileLoop
import Quickstep.Types.Serialization

/-!
# Relation schemas

`CatalogAttribute` and `CatalogRelationSchema` of `catalog/`, with their messages. A schema is built by
adding attributes one after the other, and its layout is kept up to date on the way. Parents are left
out, and the map of a schema has positions in the vector of attributes in place of pointers.
-/

namespace Quickstep.Catalog
open Quickstep.Lib Quickstep.Types

/-! ## Names -/

/-- The bytes of a `std::string`. -/
abbrev Str := List (BitVec 8)

def Str.ofText (text : String) : Str := text.toList.map fun c => BitVec.ofNat 8 c.toNat

/-- `tolower`, in the C locale. -/
def toLowerByte (byte : BitVec 8) : BitVec 8 := if 65#8 ≤ byte ∧ byte ≤ 90#8 then byte + 32#8 else byte

def toLower (str : Str) : Str := str.map toLowerByte

theorem toLower_toLower (str : Str) : toLower (toLower str) = toLower str := by
  have twice : ∀ byte, toLowerByte (toLowerByte byte) = toLowerByte byte := by decide
  unfold toLower
  rw [List.map_map]
  exact List.map_congr_left fun byte _ => twice byte

abbrev UnorderedMap (κ ν : Type) [DecidableEq κ] := AList (fun _ : κ => ν)

/-! ## Ids and exceptions -/

/-- `INT_MAX`. -/
def kCatalogMaxID : Int := 2147483647

def kInvalidCatalogId : Int := -1

/-- `static_cast<int>` of a size. -/
def toInt (size : Nat) : Int := (size : Int).bmod (2 ^ 32)

theorem toInt_of_le {size : Nat} (small : (size : Int) ≤ kCatalogMaxID) : toInt size = size := by
  unfold kCatalogMaxID at small
  apply Int.bmod_eq_of_le <;> omega

/-- One more than an `int`: past the largest one it is undefined behaviour. -/
def succInt (i : Int) : Exec Int :=
  if i < kCatalogMaxID then .ok (i + 1) else .error .undefinedBehaviour

inductive CatalogException where
  | relationNameCollision (dbName relName : Str)
  | relationNameNotFound (dbName relName : Str)
  | relationIdNotFound (dbName : Str) (id : Int)
  | catalogIDOverflow (itemType : Str)
  deriving DecidableEq

def CatalogException.what : CatalogException → Str
  | relationNameCollision dbName relName =>
    .ofText "RelationNameCollision: database " ++ dbName ++ .ofText " already has a relation " ++ relName
  | relationNameNotFound dbName relName =>
    .ofText "RelationNameNotFound: database " ++ dbName ++ .ofText " has no relation named " ++ relName
  | relationIdNotFound dbName id =>
    .ofText "RelationIdNotFound: database " ++ dbName ++ .ofText " has no relation with ID " ++
      .ofText (toString id)
  | catalogIDOverflow itemType =>
    .ofText "CatalogIDOverflow: Exceeded the maximum number of " ++ itemType ++ .ofText "s in catalog."

/-! ## Attributes -/

structure CatalogAttribute where
  id : Int
  name : Str
  displayName : Str
  type : DataType
  deriving DecidableEq

structure CatalogAttributeProto where
  name : Option Str := none
  type : Option TypeProto := none
  displayName : Option Str := none
  deriving DecidableEq

def CatalogAttributeProto.isInitialized (proto : CatalogAttributeProto) : Bool :=
  proto.name.isSome && proto.type.any TypeProto.isInitialized

namespace CatalogAttribute

def getProto (attr : CatalogAttribute) : CatalogAttributeProto where
  name := some attr.name
  type := some attr.type.getProto
  displayName := if attr.displayName = [] then none else some attr.displayName

def protoIsValid (proto : CatalogAttributeProto) : Bool :=
  proto.isInitialized && TypeFactory.protoIsValid (proto.type.getD {})

def fromProto (proto : CatalogAttributeProto) : CatalogAttribute where
  id := -1
  name := proto.name.getD []
  displayName := proto.displayName.getD []
  type := TypeFactory.reconstructFromProto (proto.type.getD {})

theorem isInitialized_getProto (attr : CatalogAttribute) : attr.getProto.isInitialized = true := by
  obtain ⟨id, name, displayName, type⟩ := attr
  cases type <;> rfl

theorem protoIsValid_getProto (attr : CatalogAttribute) : protoIsValid attr.getProto = true := by
  unfold protoIsValid
  rw [attr.isInitialized_getProto]
  exact TypeFactory.protoIsValid_getProto attr.type

/-- The id is not part of the message. -/
theorem fromProto_getProto (attr : CatalogAttribute) :
    fromProto attr.getProto = { attr with id := -1 } := by
  have displayName : attr.getProto.displayName.getD [] = attr.displayName := by
    unfold getProto
    split
    next empty => exact empty.symm
    next => rfl
  have type : TypeFactory.reconstructFromProto (attr.getProto.type.getD {}) = attr.type :=
    TypeFactory.reconstruct_getProto attr.type
  unfold fromProto
  rw [displayName, type]
  rfl

end CatalogAttribute

/-! ## Schemas -/

structure CatalogRelationSchema where
  id : Int
  name : Str
  temporary : Bool
  attrVec : List (Option CatalogAttribute) := []
  attrMap : UnorderedMap Str Nat := ∅
  numNullableAttributes : BitVec 32 := 0
  numVariableLengthAttributes : BitVec 32 := 0
  maxByteLength : BitVec 64 := 0
  minByteLength : BitVec 64 := 0
  estimatedByteLength : BitVec 64 := 0
  fixedByteLength : BitVec 64 := 0
  maxVariableByteLength : BitVec 64 := 0
  minVariableByteLength : BitVec 64 := 0
  minVariableByteLengthExcludingNullable : BitVec 64 := 0
  estimatedVariableByteLength : BitVec 64 := 0
  fixedLengthAttributeOffsets : List (BitVec 64) := []
  maxByteLengths : List (BitVec 64) := []
  nullableAttributeIndices : List Int := []
  currentNullableAttributeIndex : Int := -1
  variableLengthAttributeIndices : List Int := []
  currentVariableLengthAttributeIndex : Int := -1

structure CatalogRelationSchemaProto where
  relationId : Option Int := none
  name : Option Str := none
  temporary : Option Bool := none
  attributes : List CatalogAttributeProto := []
  deriving DecidableEq

def CatalogRelationSchemaProto.isInitialized (proto : CatalogRelationSchemaProto) : Bool :=
  proto.relationId.isSome && proto.name.isSome && proto.temporary.isSome &&
    proto.attributes.all CatalogAttributeProto.isInitialized

/-- `std::vector::resize`. -/
def resize {α : Type} (xs : List α) (size : Nat) (value : α) : List α :=
  xs.take size ++ List.replicate (size - xs.length) value

namespace CatalogRelationSchema

def create (name : Str) (id : Int) (temporary : Bool) : CatalogRelationSchema where
  id := id
  name := name
  temporary := temporary

/-- The part of `addAttribute` about attributes of variable length. -/
def addVariableLength (schema : CatalogRelationSchema) (attrType : DataType) (size : Nat) :
    CatalogRelationSchema :=
  if attrType.isVariableLength then
    { schema with
      numVariableLengthAttributes := schema.numVariableLengthAttributes + 1
      currentVariableLengthAttributeIndex := schema.currentVariableLengthAttributeIndex + 1
      variableLengthAttributeIndices :=
        schema.variableLengthAttributeIndices ++ [schema.currentVariableLengthAttributeIndex + 1]
      maxVariableByteLength := schema.maxVariableByteLength + attrType.maximumByteLength
      minVariableByteLength := schema.minVariableByteLength + attrType.minimumByteLength
      minVariableByteLengthExcludingNullable :=
        if attrType.isNullable then schema.minVariableByteLengthExcludingNullable
        else schema.minVariableByteLengthExcludingNullable + attrType.minimumByteLength
      estimatedVariableByteLength :=
        schema.estimatedVariableByteLength + attrType.estimateAverageByteLength }
  else
    { schema with
      variableLengthAttributeIndices := schema.variableLengthAttributeIndices ++ [kInvalidCatalogId]
      fixedLengthAttributeOffsets :=
        resize schema.fixedLengthAttributeOffsets size schema.fixedByteLength
      fixedByteLength := schema.fixedByteLength + attrType.maximumByteLength }

def addNullable (schema : CatalogRelationSchema) (attrType : DataType) : CatalogRelationSchema :=
  if attrType.isNullable then
    { schema with
      numNullableAttributes := schema.numNullableAttributes + 1
      currentNullableAttributeIndex := schema.currentNullableAttributeIndex + 1
      nullableAttributeIndices :=
        schema.nullableAttributeIndices ++ [schema.currentNullableAttributeIndex + 1] }
  else
    { schema with nullableAttributeIndices := schema.nullableAttributeIndices ++ [kInvalidCatalogId] }

def addByteLengths (schema : CatalogRelationSchema) (attrType : DataType) (size : Nat) :
    CatalogRelationSchema :=
  { schema with
    maxByteLength := schema.maxByteLength + attrType.maximumByteLength
    minByteLength := schema.minByteLength + attrType.minimumByteLength
    estimatedByteLength := schema.estimatedByteLength + attrType.estimateAverageByteLength
    maxByteLengths := (resize schema.maxByteLengths size 0).set (size - 1) attrType.maximumByteLength }

/-- What `addAttribute` does to the schema, where `size` is one more than the new id. -/
def withAttribute (schema : CatalogRelationSchema) (newAttr : CatalogAttribute) (size : Nat) :
    CatalogRelationSchema :=
  let added :=
    { schema with
      attrMap := schema.attrMap.insert (toLower newAttr.name) schema.attrVec.length
      attrVec := schema.attrVec ++ [some newAttr] }
  ((added.addVariableLength newAttr.type size).addNullable newAttr.type).addByteLengths newAttr.type size

/-- The id of the attribute or the exception, and the schema. The vectors are resized to `getID() + 1`
elements. -/
def addAttribute (schema : CatalogRelationSchema) (newAttr : CatalogAttribute) :
    Exec (Except CatalogException Int × CatalogRelationSchema) :=
  if kCatalogMaxID < schema.attrVec.length then
    pure (.error (.catalogIDOverflow (.ofText "attribute")), schema)
  else do
    let attrId := toInt schema.attrVec.length
    let size ← succInt attrId
    pure (.ok attrId, schema.withAttribute { newAttr with id := attrId } size.toNat)

/-- Schemas that the constructor and `addAttribute` make; a database sets the id. -/
inductive Built : CatalogRelationSchema → Prop
  | create (name : Str) (id : Int) (temporary : Bool) : Built (create name id temporary)
  | addAttribute {schema schema' : CatalogRelationSchema} {newAttr : CatalogAttribute} {attrId : Int}
      (built : Built schema) (added : schema.addAttribute newAttr = .ok (.ok attrId, schema')) :
      Built schema'
  | setID {schema : CatalogRelationSchema} (built : Built schema) (id : Int) :
      Built { schema with id := id }

/-! ## Messages -/

/-- An attribute that is NULL gives an empty message. -/
def getProto (schema : CatalogRelationSchema) : CatalogRelationSchemaProto where
  relationId := some schema.id
  name := some schema.name
  temporary := some schema.temporary
  attributes := schema.attrVec.map fun attr => attr.elim {} CatalogAttribute.getProto

def protoIsValid (proto : CatalogRelationSchemaProto) : Bool :=
  proto.isInitialized && proto.relationId.getD 0 ≠ -1 &&
    proto.attributes.all CatalogAttribute.protoIsValid

/-- One round of the loop of the constructor over the messages of the attributes. -/
def addProtoAttribute (schema : CatalogRelationSchema) (proto : CatalogAttributeProto) :
    Exec (Except CatalogException CatalogRelationSchema) :=
  if proto.isInitialized then do
    let (attrId, schema) ← schema.addAttribute (.fromProto proto)
    pure (attrId.map fun _ => schema)
  else pure (.ok { schema with attrVec := schema.attrVec ++ [none] })

def addProtoAttributes (schema : CatalogRelationSchema) :
    List CatalogAttributeProto → Exec (Except CatalogException CatalogRelationSchema)
  | [] => pure (.ok schema)
  | proto :: protos => do
    match ← schema.addProtoAttribute proto with
    | .ok schema => schema.addProtoAttributes protos
    | .error exception => pure (.error exception)

/-- The constructor from a message: `max_byte_lengths_` has its size from the start. -/
def fromProto (proto : CatalogRelationSchemaProto) :
    Exec (Except CatalogException CatalogRelationSchema) :=
  addProtoAttributes
    { create (proto.name.getD []) (proto.relationId.getD 0) (proto.temporary.getD false) with
      maxByteLengths := List.replicate proto.attributes.length 0 }
    proto.attributes

/-! ## Round trip -/

section RoundTrip

variable {schema schema' : CatalogRelationSchema} {newAttr : CatalogAttribute} {attrId : Int}

/-- Past the guard of `addAttribute` there may be one attribute too many for `getID() + 1`. -/
theorem addAttribute_of_lt (room : schema.attrVec.length < kCatalogMaxID) :
    schema.addAttribute newAttr = .ok (.ok schema.attrVec.length,
      schema.withAttribute { newAttr with id := schema.attrVec.length } (schema.attrVec.length + 1)) := by
  unfold addAttribute
  rw [if_neg (by omega), toInt_of_le (Int.le_of_lt room)]
  simp only [succInt, if_pos room]
  rfl

/-- What `addAttribute` has done when it returns an id. -/
theorem addAttribute_cases (added : schema.addAttribute newAttr = .ok (.ok attrId, schema')) :
    schema.attrVec.length < kCatalogMaxID ∧ attrId = schema.attrVec.length ∧
      schema' = schema.withAttribute { newAttr with id := attrId } (schema.attrVec.length + 1) := by
  have room : schema.attrVec.length < kCatalogMaxID := by
    unfold addAttribute at added
    by_cases full : kCatalogMaxID < schema.attrVec.length
    · rw [if_pos full] at added
      cases added
    · rw [if_neg full, toInt_of_le (Int.not_lt.mp full)] at added
      by_cases last : (schema.attrVec.length : Int) < kCatalogMaxID
      · exact last
      · simp only [succInt, if_neg last] at added
        cases added
  rw [addAttribute_of_lt room] at added
  cases added
  exact ⟨room, rfl, rfl⟩

theorem withAttribute_setID (schema : CatalogRelationSchema) (id : Int) (size : Nat) :
    { schema with id := id }.withAttribute newAttr size =
      { schema.withAttribute newAttr size with id := id } := by
  unfold withAttribute addByteLengths addNullable addVariableLength
  dsimp only
  split <;> split <;> rfl

/-- The fields of a schema that `addAttribute` does not compute. -/
theorem withAttribute_fields (schema : CatalogRelationSchema) (newAttr : CatalogAttribute) (size : Nat) :
    (schema.withAttribute newAttr size).id = schema.id ∧
      (schema.withAttribute newAttr size).name = schema.name ∧
      (schema.withAttribute newAttr size).temporary = schema.temporary ∧
      (schema.withAttribute newAttr size).attrVec = schema.attrVec ++ [some newAttr] := by
  unfold withAttribute addByteLengths addNullable addVariableLength
  dsimp only
  split <;> split <;> exact ⟨rfl, rfl, rfl, rfl⟩

theorem addAttribute_setID (added : schema.addAttribute newAttr = .ok (.ok attrId, schema')) (id : Int) :
    { schema with id := id }.addAttribute newAttr = .ok (.ok attrId, { schema' with id := id }) := by
  obtain ⟨room, rfl, rfl⟩ := addAttribute_cases added
  rw [← withAttribute_setID]
  exact addAttribute_of_lt room

theorem addProtoAttribute_setID {proto : CatalogAttributeProto}
    (added : schema.addProtoAttribute proto = .ok (.ok schema')) (id : Int) :
    { schema with id := id }.addProtoAttribute proto = .ok (.ok { schema' with id := id }) := by
  unfold addProtoAttribute at added ⊢
  split at added
  next initialized =>
    obtain ⟨⟨attrId, mid⟩, first, rest⟩ := Exec.bind_ok added
    cases attrId with
    | error exception => cases rest
    | ok attrId =>
      cases rest
      rw [if_pos initialized, addAttribute_setID first]
      rfl
  next missing =>
    cases added
    rw [if_neg missing]
    rfl

theorem addProtoAttributes_cons {proto : CatalogAttributeProto} {protos : List CatalogAttributeProto} :
    schema.addProtoAttributes (proto :: protos) = .ok (.ok schema') ↔
      ∃ mid, schema.addProtoAttribute proto = .ok (.ok mid) ∧
        mid.addProtoAttributes protos = .ok (.ok schema') := by
  constructor
  · intro run
    obtain ⟨mid, first, rest⟩ := Exec.bind_ok run
    cases mid with
    | error exception => cases rest
    | ok mid => exact ⟨mid, first, rest⟩
  · rintro ⟨mid, first, rest⟩
    unfold addProtoAttributes
    rw [first]
    exact rest

theorem addProtoAttributes_setID {protos : List CatalogAttributeProto}
    (added : schema.addProtoAttributes protos = .ok (.ok schema')) (id : Int) :
    { schema with id := id }.addProtoAttributes protos = .ok (.ok { schema' with id := id }) := by
  induction protos generalizing schema with
  | nil =>
    cases added
    rfl
  | cons proto protos ih =>
    obtain ⟨mid, first, rest⟩ := addProtoAttributes_cons.mp added
    exact addProtoAttributes_cons.mpr ⟨_, addProtoAttribute_setID first id, ih rest⟩

theorem addProtoAttributes_append {protos later : List CatalogAttributeProto} {mid : CatalogRelationSchema}
    (first : schema.addProtoAttributes protos = .ok (.ok mid))
    (rest : mid.addProtoAttributes later = .ok (.ok schema')) :
    schema.addProtoAttributes (protos ++ later) = .ok (.ok schema') := by
  induction protos generalizing schema with
  | nil =>
    cases first
    exact rest
  | cons proto protos ih =>
    obtain ⟨mid', here, before⟩ := addProtoAttributes_cons.mp first
    exact addProtoAttributes_cons.mpr ⟨mid', here, ih before⟩

theorem getProto_addAttribute (added : schema.addAttribute newAttr = .ok (.ok attrId, schema')) :
    schema'.id = schema.id ∧ schema'.name = schema.name ∧ schema'.temporary = schema.temporary ∧
      schema'.getProto.attributes = schema.getProto.attributes ++ [newAttr.getProto] := by
  obtain ⟨_, rfl, rfl⟩ := addAttribute_cases added
  obtain ⟨sameId, sameName, sameTemporary, attrVec⟩ := withAttribute_fields schema
    { newAttr with id := schema.attrVec.length } (schema.attrVec.length + 1)
  refine ⟨sameId, sameName, sameTemporary, ?_⟩
  simp only [getProto, attrVec, List.map_append]
  rfl

/-- The attribute of a message is the attribute that was serialised, up to its id. -/
theorem addProtoAttribute_getProto (added : schema.addAttribute newAttr = .ok (.ok attrId, schema')) :
    schema.addProtoAttribute newAttr.getProto = .ok (.ok schema') := by
  have same : schema.addAttribute { newAttr with id := -1 } = schema.addAttribute newAttr := rfl
  unfold addProtoAttribute
  rw [if_pos newAttr.isInitialized_getProto, newAttr.fromProto_getProto, same, added]
  rfl

/-- **Replaying the attributes** of a schema gives the schema. -/
theorem Built.replay (built : Built schema) :
    (CatalogRelationSchema.create schema.name schema.id schema.temporary).addProtoAttributes
      schema.getProto.attributes = .ok (.ok schema) := by
  induction built with
  | create name id temporary => rfl
  | addAttribute built added ih =>
    obtain ⟨sameId, sameName, sameTemporary, attributes⟩ := getProto_addAttribute added
    rw [sameId, sameName, sameTemporary, attributes]
    apply addProtoAttributes_append ih
    exact addProtoAttributes_cons.mpr ⟨_, addProtoAttribute_getProto added, rfl⟩
  | setID built id ih => exact addProtoAttributes_setID ih id

theorem withAttribute_maxByteLengths {maxByteLengths : List (BitVec 64)} {size : Nat}
    (same : resize maxByteLengths size 0 = resize schema.maxByteLengths size 0) :
    { schema with maxByteLengths := maxByteLengths }.withAttribute newAttr size =
      schema.withAttribute newAttr size := by
  unfold withAttribute addByteLengths addNullable addVariableLength
  dsimp only
  split <;> split <;> simp only [same]

/-- The size that `max_byte_lengths_` has at first is lost with the first attribute. -/
theorem addAttribute_presized (name : Str) (id : Int) (temporary : Bool) (size : Nat) :
    { create name id temporary with maxByteLengths := List.replicate (size + 1) 0 }.addAttribute newAttr =
      (create name id temporary).addAttribute newAttr := by
  have room : ((create name id temporary).attrVec.length : Int) < kCatalogMaxID := by
    show (0 : Int) < kCatalogMaxID
    decide
  have same : resize (List.replicate (size + 1) 0) 1 (0 : BitVec 64) = resize [] 1 0 := by simp [resize]
  have presized := @addAttribute_of_lt
    { create name id temporary with maxByteLengths := List.replicate (size + 1) 0 } newAttr room
  have unsized := @addAttribute_of_lt (create name id temporary) newAttr room
  rw [presized, unsized]
  exact congrArg (fun schema => Except.ok (Except.ok ((0 : Nat) : Int), schema))
    (withAttribute_maxByteLengths same)

theorem addProtoAttributes_presized {protos : List CatalogAttributeProto}
    (initialized : ∀ proto ∈ protos, proto.isInitialized = true)
    (name : Str) (id : Int) (temporary : Bool) :
    { create name id temporary with maxByteLengths := List.replicate protos.length 0 }.addProtoAttributes
      protos = (create name id temporary).addProtoAttributes protos := by
  cases protos with
  | nil => rfl
  | cons proto protos =>
    have first : { create name id temporary with
        maxByteLengths := List.replicate (protos.length + 1) 0 }.addProtoAttribute proto =
        (create name id temporary).addProtoAttribute proto := by
      unfold addProtoAttribute
      rw [if_pos (initialized proto List.mem_cons_self), if_pos (initialized proto List.mem_cons_self),
        addAttribute_presized]
    unfold addProtoAttributes
    rw [List.length_cons, first]

theorem Built.isInitialized (built : Built schema) :
    ∀ proto ∈ schema.getProto.attributes, ∃ attr : CatalogAttribute, proto = attr.getProto := by
  induction built with
  | create name id temporary => exact fun proto mem => absurd mem List.not_mem_nil
  | addAttribute built added ih =>
    rw [(getProto_addAttribute added).2.2.2]
    intro proto mem
    rcases List.mem_append.mp mem with mem | last
    · exact ih proto mem
    · exact ⟨_, List.mem_singleton.mp last⟩
  | setID built id ih => exact ih

/-- The message of a schema with an id is valid. -/
theorem Built.protoIsValid_getProto (built : Built schema) (id : schema.id ≠ -1) :
    protoIsValid schema.getProto = true := by
  have attributes := built.isInitialized
  unfold protoIsValid CatalogRelationSchemaProto.isInitialized
  simp only [getProto, Option.isSome_some, Bool.and_true, Bool.true_and, Option.getD_some,
    Bool.and_eq_true, List.all_eq_true] at attributes ⊢
  refine ⟨⟨fun proto mem => ?_, decide_eq_true id⟩, fun proto mem => ?_⟩
  · obtain ⟨attr, rfl⟩ := attributes proto mem
    exact attr.isInitialized_getProto
  · obtain ⟨attr, rfl⟩ := attributes proto mem
    exact attr.protoIsValid_getProto

/-- **A schema survives**: attributes, names, flags and the whole layout. -/
theorem Built.fromProto_getProto (built : Built schema) : fromProto schema.getProto = .ok (.ok schema) := by
  rw [← built.replay]
  apply addProtoAttributes_presized
  intro proto mem
  obtain ⟨attr, rfl⟩ := built.isInitialized proto mem
  exact attr.isInitialized_getProto

end RoundTrip

end CatalogRelationSchema

end Quickstep.Catalog
