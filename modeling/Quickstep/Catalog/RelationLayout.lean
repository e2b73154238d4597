import Quickstep.Catalog.CatalogRelationSchema
import Quickstep.Lib.PackedFields

/-!
# The layout of relations

`addAttribute` keeps offsets, indices and totals of a schema up to date. They are what the types of
its attributes say as long as the totals can be represented: lengths are added without a check.
-/

namespace Quickstep.Catalog
open Quickstep.Lib Quickstep.Types PackedFields

namespace CatalogRelationSchema

/-- Schemas that are created and to which attributes are added, with detours over their messages. -/
inductive LaidOut : CatalogRelationSchema → Prop
  | create (name : Str) (id : Int) (temporary : Bool) : LaidOut (create name id temporary)
  | addAttribute {schema schema' : CatalogRelationSchema} {newAttr : CatalogAttribute} {attrId : Int}
      (laidOut : LaidOut schema) (added : schema.addAttribute newAttr = .ok (.ok attrId, schema')) :
      LaidOut schema'
  | rebuilt {schema schema' : CatalogRelationSchema} (laidOut : LaidOut schema)
      (read : fromProto schema.getProto = .ok (.ok schema')) : LaidOut schema'

/-- The types of the attributes, in the order of their ids. -/
def attributeTypes (schema : CatalogRelationSchema) : List DataType :=
  schema.attrVec.filterMap fun attr => attr.map CatalogAttribute.type

def isFixedLength (type : DataType) : Bool := !type.isVariableLength

def maximum (type : DataType) : Nat := type.maximumByteLength.toNat

def minimum (type : DataType) : Nat := type.minimumByteLength.toNat

def estimated (type : DataType) : Nat := type.estimateAverageByteLength.toNat

/-- The layout of attributes of these types. -/
structure HasLayout (schema : CatalogRelationSchema) (types : List DataType) : Prop where
  offset : ∀ i type, types[i]? = some type → isFixedLength type = true →
    ∃ offset, schema.fixedLengthAttributeOffsets[i]? = some offset ∧
      offset.toNat = total isFixedLength maximum (types.take i)
  filled : ∀ b < schema.fixedByteLength.toNat, ∃! i : Nat, ∃ (type : DataType) (offset : BitVec 64),
    types[i]? = some type ∧ isFixedLength type = true ∧ schema.fixedLengthAttributeOffsets[i]? = some offset ∧
      offset.toNat ≤ b ∧ b < offset.toNat + maximum type
  within : ∀ (i : Nat) (type : DataType) (offset : BitVec 64), types[i]? = some type → isFixedLength type = true →
    schema.fixedLengthAttributeOffsets[i]? = some offset →
      offset.toNat + maximum type ≤ schema.fixedByteLength.toNat
  nullable : ∀ i type, types[i]? = some type →
    schema.nullableAttributeIndices[i]? = some (number DataType.isNullable types i type)
  variableLength : ∀ i type, types[i]? = some type →
    schema.variableLengthAttributeIndices[i]? =
      some (number DataType.isVariableLength types i type)
  numNullable : schema.numNullableAttributes.toNat = types.countP DataType.isNullable
  numVariableLength :
    schema.numVariableLengthAttributes.toNat = types.countP DataType.isVariableLength
  maxLength : schema.maxByteLength.toNat = total (fun _ => true) maximum types
  minLength : schema.minByteLength.toNat = total (fun _ => true) minimum types
  estimatedLength : schema.estimatedByteLength.toNat = total (fun _ => true) estimated types
  fixedLength : schema.fixedByteLength.toNat = total isFixedLength maximum types
  maxVariable : schema.maxVariableByteLength.toNat = total DataType.isVariableLength maximum types
  minVariable : schema.minVariableByteLength.toNat = total DataType.isVariableLength minimum types
  minVariableExcludingNullable : schema.minVariableByteLengthExcludingNullable.toNat =
    total (fun type => type.isVariableLength && !type.isNullable) minimum types
  estimatedVariable :
    schema.estimatedVariableByteLength.toNat = total DataType.isVariableLength estimated types
  maxLengths : schema.maxByteLengths = types.map DataType.maximumByteLength

/-- The totals over all attributes can be represented. -/
structure TotalsFit (types : List DataType) : Prop where
  max : total (fun _ => true) maximum types < 2 ^ 64
  min : total (fun _ => true) minimum types < 2 ^ 64
  estimated : total (fun _ => true) estimated types < 2 ^ 64

/-! ## What `addAttribute` keeps up to date -/

/-- The layout in the arithmetic of the machine. -/
structure Layout (schema : CatalogRelationSchema) (types : List DataType) : Prop where
  few : types.length ≤ 2147483647
  attributes : schema.attrVec.length = types.length
  attributeTypes : schema.attributeTypes = types
  offsetsLength : schema.fixedLengthAttributeOffsets.length ≤ types.length
  offset : ∀ i type, types[i]? = some type → isFixedLength type = true →
    schema.fixedLengthAttributeOffsets[i]? =
      some (BitVec.ofNat 64 (total isFixedLength maximum (types.take i)))
  nullable : Numbered DataType.isNullable types schema.nullableAttributeIndices
    schema.currentNullableAttributeIndex
  variableLength : Numbered DataType.isVariableLength types schema.variableLengthAttributeIndices
    schema.currentVariableLengthAttributeIndex
  numNullable : schema.numNullableAttributes = BitVec.ofNat 32 (types.countP DataType.isNullable)
  numVariableLength :
    schema.numVariableLengthAttributes = BitVec.ofNat 32 (types.countP DataType.isVariableLength)
  maxLength : schema.maxByteLength = BitVec.ofNat 64 (total (fun _ => true) maximum types)
  minLength : schema.minByteLength = BitVec.ofNat 64 (total (fun _ => true) minimum types)
  estimatedLength :
    schema.estimatedByteLength = BitVec.ofNat 64 (total (fun _ => true) estimated types)
  fixedLength : schema.fixedByteLength = BitVec.ofNat 64 (total isFixedLength maximum types)
  maxVariable :
    schema.maxVariableByteLength = BitVec.ofNat 64 (total DataType.isVariableLength maximum types)
  minVariable :
    schema.minVariableByteLength = BitVec.ofNat 64 (total DataType.isVariableLength minimum types)
  minVariableExcludingNullable : schema.minVariableByteLengthExcludingNullable =
    BitVec.ofNat 64 (total (fun type => type.isVariableLength && !type.isNullable) minimum types)
  estimatedVariable : schema.estimatedVariableByteLength =
    BitVec.ofNat 64 (total DataType.isVariableLength estimated types)
  maxLengths : schema.maxByteLengths = types.map DataType.maximumByteLength

section Maintenance

theorem layout_create (name : Str) (id : Int) (temporary : Bool) :
    Layout (create name id temporary) [] where
  few := by decide
  attributes := rfl
  attributeTypes := rfl
  offsetsLength := le_rfl
  offset := nofun
  nullable := numbered_nil
  variableLength := numbered_nil
  numNullable := rfl
  numVariableLength := rfl
  maxLength := rfl
  minLength := rfl
  estimatedLength := rfl
  fixedLength := rfl
  maxVariable := rfl
  minVariable := rfl
  minVariableExcludingNullable := rfl
  estimatedVariable := rfl
  maxLengths := rfl

/-- A total with one more element. -/
theorem ofNat_total_append {chosen : DataType → Bool} {size : DataType → BitVec 64}
    {types : List DataType} {type : DataType} :
    BitVec.ofNat 64 (total chosen (fun t : DataType => (size t).toNat) (types ++ [type])) =
      BitVec.ofNat 64 (total chosen (fun t : DataType => (size t).toNat) types) +
        if chosen type then size type else 0 := by
  rw [total_append_singleton, BitVec.ofNat_add]
  cases chosen type with
  | true => rw [if_pos rfl, if_pos rfl, BitVec.ofNat_toNat, BitVec.setWidth_eq]
  | false => rfl

theorem ofNat_countP_append {chosen : DataType → Bool} {types : List DataType} {type : DataType} :
    BitVec.ofNat 32 ((types ++ [type]).countP chosen) =
      BitVec.ofNat 32 (types.countP chosen) + if chosen type then 1 else 0 := by
  rw [List.countP_append, BitVec.ofNat_add, List.countP_singleton]
  cases chosen type <;> rfl

/-- What `addAttribute` changes in the layout. -/
structure Extended (schema : CatalogRelationSchema) (type : DataType) (size : Nat)
    (schema' : CatalogRelationSchema) : Prop where
  offsets : schema'.fixedLengthAttributeOffsets =
    if isFixedLength type then resize schema.fixedLengthAttributeOffsets size schema.fixedByteLength
    else schema.fixedLengthAttributeOffsets
  nullableIndices : schema'.nullableAttributeIndices = schema.nullableAttributeIndices ++
    [if type.isNullable then schema.currentNullableAttributeIndex + 1 else -1]
  currentNullable : schema'.currentNullableAttributeIndex =
    if type.isNullable then schema.currentNullableAttributeIndex + 1
    else schema.currentNullableAttributeIndex
  variableIndices : schema'.variableLengthAttributeIndices = schema.variableLengthAttributeIndices ++
    [if type.isVariableLength then schema.currentVariableLengthAttributeIndex + 1 else -1]
  currentVariable : schema'.currentVariableLengthAttributeIndex =
    if type.isVariableLength then schema.currentVariableLengthAttributeIndex + 1
    else schema.currentVariableLengthAttributeIndex
  numNullable : schema'.numNullableAttributes =
    schema.numNullableAttributes + if type.isNullable then 1 else 0
  numVariableLength : schema'.numVariableLengthAttributes =
    schema.numVariableLengthAttributes + if type.isVariableLength then 1 else 0
  maxLength : schema'.maxByteLength = schema.maxByteLength + type.maximumByteLength
  minLength : schema'.minByteLength = schema.minByteLength + type.minimumByteLength
  estimatedLength : schema'.estimatedByteLength =
    schema.estimatedByteLength + type.estimateAverageByteLength
  fixedLength : schema'.fixedByteLength =
    schema.fixedByteLength + if isFixedLength type then type.maximumByteLength else 0
  maxVariable : schema'.maxVariableByteLength =
    schema.maxVariableByteLength + if type.isVariableLength then type.maximumByteLength else 0
  minVariable : schema'.minVariableByteLength =
    schema.minVariableByteLength + if type.isVariableLength then type.minimumByteLength else 0
  minVariableExcludingNullable : schema'.minVariableByteLengthExcludingNullable =
    schema.minVariableByteLengthExcludingNullable +
      if type.isVariableLength && !type.isNullable then type.minimumByteLength else 0
  estimatedVariable : schema'.estimatedVariableByteLength = schema.estimatedVariableByteLength +
    if type.isVariableLength then type.estimateAverageByteLength else 0
  maxLengths : schema'.maxByteLengths =
    (resize schema.maxByteLengths size 0).set (size - 1) type.maximumByteLength

theorem withAttribute_extended (schema : CatalogRelationSchema) (newAttr : CatalogAttribute)
    (size : Nat) : Extended schema newAttr.type size (schema.withAttribute newAttr size) := by
  unfold withAttribute addByteLengths addNullable addVariableLength
  cases isVariable : newAttr.type.isVariableLength <;> cases isNullable : newAttr.type.isNullable <;>
    constructor <;> simp [isFixedLength, isVariable, isNullable, kInvalidCatalogId]

theorem getElem?_resize {α : Type} {xs : List α} {n : Nat} (short : xs.length ≤ n) (value : α) :
    (∀ i < xs.length, (resize xs (n + 1) value)[i]? = xs[i]?) ∧
      (resize xs (n + 1) value)[n]? = some value := by
  unfold resize
  rw [List.take_of_length_le (by omega)]
  refine ⟨fun i inside => List.getElem?_append_left inside, ?_⟩
  rw [List.getElem?_append_right short, List.getElem?_replicate, if_pos (by omega)]

/-- The offset of the new attribute, and those that were there. -/
theorem Layout.offset_append {schema : CatalogRelationSchema} {types : List DataType}
    (layout : Layout schema types) {type : DataType} {schema' : CatalogRelationSchema}
    (extended : Extended schema type (types.length + 1) schema') :
    schema'.fixedLengthAttributeOffsets.length ≤ (types ++ [type]).length ∧
      ∀ i other, (types ++ [type])[i]? = some other → isFixedLength other = true →
        schema'.fixedLengthAttributeOffsets[i]? =
          some (BitVec.ofNat 64 (total isFixedLength maximum ((types ++ [type]).take i))) := by
  have short := layout.offsetsLength
  obtain ⟨before, here⟩ := getElem?_resize short schema.fixedByteLength
  have old : ∀ (i : Nat) (other : DataType), types[i]? = some other → isFixedLength other = true →
      schema'.fixedLengthAttributeOffsets[i]? = schema.fixedLengthAttributeOffsets[i]? := by
    intro i other found isFixed
    rw [extended.offsets]
    split
    · apply before i
      by_contra outside
      have none := List.getElem?_eq_none (Nat.le_of_not_lt outside)
      exact absurd (none.symm.trans (layout.offset i other found isFixed)) nofun
    · rfl
  refine ⟨?_, fun i other found isFixed => ?_⟩
  · rw [extended.offsets, List.length_append, List.length_singleton]
    split
    · unfold resize
      simp only [List.length_append, List.length_take, List.length_replicate]
      omega
    · exact short.trans (Nat.le_succ _)
  · rcases Nat.lt_trichotomy i types.length with inside | rfl | beyond
    · rw [List.getElem?_append_left inside] at found
      rw [old i other found isFixed, layout.offset i other found isFixed,
        List.take_append_of_le_length inside.le]
    · rw [List.getElem?_append_right le_rfl, Nat.sub_self] at found
      obtain rfl : type = other := Option.some.inj found
      rw [extended.offsets, if_pos isFixed, here, layout.fixedLength,
        List.take_append_of_le_length le_rfl, List.take_length]
    · rw [List.getElem?_eq_none (by simp only [List.length_append, List.length_singleton]; omega)] at found
      cases found

/-- **One attribute more**: `addAttribute` keeps the layout. -/
theorem Layout.addAttribute {schema schema' : CatalogRelationSchema} {types : List DataType}
    (layout : Layout schema types) {newAttr : CatalogAttribute} {attrId : Int}
    (added : schema.addAttribute newAttr = .ok (.ok attrId, schema')) :
    Layout schema' (types ++ [newAttr.type]) := by
  obtain ⟨room, rfl, rfl⟩ := addAttribute_cases added
  rw [layout.attributes] at room ⊢
  have extended := withAttribute_extended schema { newAttr with id := (types.length : Int) }
    (types.length + 1)
  obtain ⟨offsetsLength, offset⟩ := layout.offset_append extended
  obtain ⟨-, -, -, attrVec⟩ := withAttribute_fields schema { newAttr with id := (types.length : Int) }
    (types.length + 1)
  unfold kCatalogMaxID at room
  exact {
    few := by
      rw [List.length_append, List.length_singleton]
      omega
    attributes := by
      rw [attrVec, List.length_append, List.length_append, layout.attributes]
      rfl
    attributeTypes := by
      unfold CatalogRelationSchema.attributeTypes
      rw [attrVec, List.filterMap_append]
      exact congrArg (· ++ [newAttr.type]) layout.attributeTypes
    offsetsLength := offsetsLength
    offset := offset
    nullable := by
      rw [extended.nullableIndices, extended.currentNullable]
      exact layout.nullable.append newAttr.type
    variableLength := by
      rw [extended.variableIndices, extended.currentVariable]
      exact layout.variableLength.append newAttr.type
    numNullable := by
      rw [extended.numNullable, layout.numNullable, ofNat_countP_append]
    numVariableLength := by
      rw [extended.numVariableLength, layout.numVariableLength, ofNat_countP_append]
    maxLength := by
      rw [extended.maxLength, layout.maxLength]
      exact ofNat_total_append.symm
    minLength := by
      rw [extended.minLength, layout.minLength]
      exact ofNat_total_append.symm
    estimatedLength := by
      rw [extended.estimatedLength, layout.estimatedLength]
      exact ofNat_total_append.symm
    fixedLength := by
      rw [extended.fixedLength, layout.fixedLength]
      exact ofNat_total_append.symm
    maxVariable := by
      rw [extended.maxVariable, layout.maxVariable]
      exact ofNat_total_append.symm
    minVariable := by
      rw [extended.minVariable, layout.minVariable]
      exact ofNat_total_append.symm
    minVariableExcludingNullable := by
      rw [extended.minVariableExcludingNullable, layout.minVariableExcludingNullable]
      exact ofNat_total_append.symm
    estimatedVariable := by
      rw [extended.estimatedVariable, layout.estimatedVariable]
      exact ofNat_total_append.symm
    maxLengths := by
      have length : schema.maxByteLengths.length = types.length := by
        rw [layout.maxLengths, List.length_map]
      rw [extended.maxLengths, List.map_append, ← layout.maxLengths]
      unfold resize
      rw [List.take_of_length_le (by omega), length, Nat.add_sub_cancel_left, Nat.add_sub_cancel,
        ← length, List.set_append_right _ _ le_rfl, Nat.sub_self]
      rfl }

/-- Every schema has the layout of its attributes. -/
theorem LaidOut.layout {schema : CatalogRelationSchema} (laidOut : LaidOut schema) :
    Built schema ∧ Layout schema schema.attributeTypes := by
  induction laidOut with
  | create name id temporary => exact ⟨.create name id temporary, layout_create name id temporary⟩
  | addAttribute _ added ih =>
    have layout := ih.2.addAttribute added
    exact ⟨.addAttribute ih.1 added, layout.attributeTypes.symm ▸ layout⟩
  | rebuilt _ read ih =>
    obtain ⟨built, layout⟩ := ih
    rw [built.fromProto_getProto] at read
    cases read
    exact ⟨built, layout⟩

end Maintenance

/-! ## What the totals say -/

section Totals

variable {schema : CatalogRelationSchema} {types : List DataType}

theorem toNat_ofNat_of_lt {n w : Nat} (fits : n < 2 ^ w) : (BitVec.ofNat w n).toNat = n := by
  rw [BitVec.toNat_ofNat, Nat.mod_eq_of_lt fits]

/-- Totals that fit are as they should be. -/
theorem Layout.hasLayout (layout : Layout schema types) (fit : TotalsFit types) :
    HasLayout schema types := by
  have fixed := (total_le isFixedLength maximum types).trans_lt fit.max
  have offsetEq : ∀ i, (BitVec.ofNat 64 (total isFixedLength maximum (types.take i))).toNat =
      total isFixedLength maximum (types.take i) := fun i =>
    toNat_ofNat_of_lt ((total_take_le ..).trans_lt fixed)
  have fixedLength : schema.fixedByteLength.toNat = total isFixedLength maximum types := by
    rw [layout.fixedLength, toNat_ofNat_of_lt fixed]
  have counts : ∀ chosen : DataType → Bool, types.countP chosen < 2 ^ 32 := fun chosen =>
    lt_of_le_of_lt (List.countP_le_length.trans layout.few) (by decide)
  have covers : ∀ b i, Covers isFixedLength maximum types b i ↔
      ∃ (type : DataType) (offset : BitVec 64), types[i]? = some type ∧ isFixedLength type = true ∧
        schema.fixedLengthAttributeOffsets[i]? = some offset ∧
          offset.toNat ≤ b ∧ b < offset.toNat + maximum type := by
    intro b i
    constructor
    · rintro ⟨type, here, isFixed, lower, upper⟩
      refine ⟨type, _, here, isFixed, layout.offset i type here isFixed, ?_⟩
      rw [offsetEq]
      exact ⟨lower, upper⟩
    · rintro ⟨type, offset, here, isFixed, found, lower, upper⟩
      rw [layout.offset i type here isFixed] at found
      cases found
      rw [offsetEq] at lower upper
      exact ⟨type, here, isFixed, lower, upper⟩
  exact {
    offset := fun i type here isFixed =>
      ⟨_, layout.offset i type here isFixed, offsetEq i⟩
    filled := fun b below => by
      obtain ⟨i, covered, unique⟩ :=
        @existsUnique_covers _ isFixedLength maximum types b (fixedLength ▸ below)
      exact ⟨i, (covers b i).mp covered, fun j covered' => unique j ((covers b j).mpr covered')⟩
    within := fun i type offset here isFixed found => by
      rw [layout.offset i type here isFixed] at found
      cases found
      have behind := @total_take_succ _ isFixedLength maximum _ _ _ here
      rw [if_pos isFixed] at behind
      rw [offsetEq, fixedLength, ← behind]
      exact total_take_le ..
    nullable := layout.nullable.number
    variableLength := layout.variableLength.number
    numNullable := by rw [layout.numNullable, toNat_ofNat_of_lt (counts _)]
    numVariableLength := by rw [layout.numVariableLength, toNat_ofNat_of_lt (counts _)]
    maxLength := by rw [layout.maxLength, toNat_ofNat_of_lt fit.max]
    minLength := by rw [layout.minLength, toNat_ofNat_of_lt fit.min]
    estimatedLength := by rw [layout.estimatedLength, toNat_ofNat_of_lt fit.estimated]
    fixedLength := fixedLength
    maxVariable := by
      rw [layout.maxVariable, toNat_ofNat_of_lt ((total_le ..).trans_lt fit.max)]
    minVariable := by
      rw [layout.minVariable, toNat_ofNat_of_lt ((total_le ..).trans_lt fit.min)]
    minVariableExcludingNullable := by
      rw [layout.minVariableExcludingNullable, toNat_ofNat_of_lt ((total_le ..).trans_lt fit.min)]
    estimatedVariable := by
      rw [layout.estimatedVariable, toNat_ofNat_of_lt ((total_le ..).trans_lt fit.estimated)]
    maxLengths := layout.maxLengths }

/-- **The layout of a relation** is what the types of its attributes say exactly if their total
lengths can be represented. -/
theorem hasLayout_iff (laidOut : LaidOut schema) :
    HasLayout schema schema.attributeTypes ↔ TotalsFit schema.attributeTypes := by
  constructor
  · intro hasLayout
    exact ⟨hasLayout.maxLength ▸ BitVec.isLt _, hasLayout.minLength ▸ BitVec.isLt _,
      hasLayout.estimatedLength ▸ BitVec.isLt _⟩
  · exact laidOut.layout.2.hasLayout

/-- A relation with two attributes. -/
def twoAttributes (first second : DataType) : CatalogRelationSchema :=
  ((create [114] 0 false).withAttribute ⟨0, [97], [], first⟩ 1).withAttribute ⟨1, [98], [], second⟩ 2

theorem laidOut_twoAttributes (first second : DataType) : LaidOut (twoAttributes first second) := by
  have one : LaidOut ((create [114] 0 false).withAttribute ⟨0, [97], [], first⟩ 1) :=
    .addAttribute (.create [114] 0 false)
      (@addAttribute_of_lt (create [114] 0 false) ⟨-1, [97], [], first⟩ (by decide))
  have length : ((create [114] 0 false).withAttribute ⟨0, [97], [], first⟩ 1).attrVec.length = 1 := by
    rw [(withAttribute_fields ..).2.2.2]
    rfl
  have added := @addAttribute_of_lt
    ((create [114] 0 false).withAttribute ⟨0, [97], [], first⟩ 1) ⟨-1, [98], [], second⟩
    (by rw [length]; decide)
  rw [length] at added
  exact .addAttribute one added

theorem attributeTypes_twoAttributes (first second : DataType) :
    (twoAttributes first second).attributeTypes = [first, second] := by
  unfold twoAttributes attributeTypes
  rw [(withAttribute_fields ..).2.2.2, (withAttribute_fields ..).2.2.2]
  rfl

/-- A nullable VARCHAR before an INT. -/
theorem hasLayout_iff_varCharInt :
    HasLayout (twoAttributes (.varChar 20 true) (.int false)) [.varChar 20 true, .int false] := by
  rw [← attributeTypes_twoAttributes]
  refine (hasLayout_iff (laidOut_twoAttributes _ _)).mpr ?_
  rw [attributeTypes_twoAttributes]
  exact ⟨by decide, by decide, by decide⟩

/-- The total length of two CHARs wraps to zero. -/
theorem not_hasLayout :
    ¬∀ schema : CatalogRelationSchema, LaidOut schema → HasLayout schema schema.attributeTypes := by
  intro hasLayout
  have layout := hasLayout _
    (laidOut_twoAttributes (.char (BitVec.allOnes 64) false) (.char 1 false))
  rw [attributeTypes_twoAttributes] at layout
  have bound := BitVec.isLt
    (twoAttributes (.char (BitVec.allOnes 64) false) (.char 1 false)).maxByteLength
  rw [layout.maxLength] at bound
  exact absurd bound (by decide)

end Totals

end CatalogRelationSchema

end Quickstep.Catalog
