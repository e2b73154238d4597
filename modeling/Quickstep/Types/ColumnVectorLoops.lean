import Quickstep.Lib.WhileLoop
import Quickstep.Types.ColumnVectorRefinement
import Quickstep.Types.UnaryOperations

/-!
# Loops that append to a column vector

The vectorised operators append one value after the other to a native column vector that they have
reserved some length for. The checks of the appending functions make sure that it is not exceeded.
-/

namespace Quickstep.Types
open Quickstep.Lib Quickstep.Utility Bytes

namespace NativeColumnVector

variable {type : DataType} {reserved_length_ : Nat}

/-- A value appended, with the check that there is room for it. -/
def appendChecked (column : NativeColumnVector type reserved_length_) (value : Value) :
    Exec (NativeColumnVector type reserved_length_) :=
  if column.actual_length_ < reserved_length_ then .ok (column.write (.append value))
  else .error .undefinedBehaviour

def appendAll (column : NativeColumnVector type reserved_length_) (values : List Value) :
    Exec (NativeColumnVector type reserved_length_) :=
  values.foldlM appendChecked column

/-- Wherever there is room, the value can be put there. -/
def Placeable (type : DataType) (value : Value) : Prop :=
  (value.isNull = true → value.meaning type = type.makeNullValue) ∧
    ∀ (reserved_length_ : Nat) (column : NativeColumnVector type reserved_length_) (position : Nat),
      column.null_bitmap_.isSome = type.isNullable →
        WritesAt column (column.place position value) position value

/-- Every checked value can be put. -/
theorem Value.Checked.placeable (usable : usableForType type = true) {value : Value}
    (checked : value.Checked type) : Placeable type value :=
  ⟨checked.meant, fun _ _ position bitmap => writesAt_place usable bitmap checked position⟩

variable {column : NativeColumnVector type reserved_length_} {values : List Value}

/-- One append, where there is room. -/
theorem Holds.append {done : List Value} (h : Holds ⟨done.map some, false⟩ column) {value : Value}
    (placeable : Placeable type value) (room : done.length < reserved_length_) :
    Holds ⟨(done ++ [value]).map some, false⟩ (column.write (.append value)) := by
  have length : (done.map some).length < reserved_length_ := by
    rwa [List.length_map]
  have allowed : Written.append reserved_length_ ⟨done.map some, false⟩ value =
      some ⟨(done ++ [value]).map some, false⟩ := by
    unfold Written.append
    rw [if_pos ⟨rfl, length⟩, List.map_append]
    rfl
  obtain ⟨_, longer, unwritten, entries⟩ := Written.append_eq_some allowed
  have writes := (placeable.2 _ column column.actual_length_ h.bitmap).grow
  rw [write_append]
  rw [← h.size] at unwritten entries
  apply h.writeAt writes placeable.1 unwritten entries
  · show (column.place column.actual_length_ value).actual_length_ + 1 = _
    rw [place_actual_length, h.size, longer]
  · omega

/-- **The loop with enough room** leaves the list of the values. -/
theorem appendAll_holds (values_ : WordMemory 8) (bits : BitVector false reserved_length_)
    (placeable : ∀ value ∈ values, Placeable type value) (room : values.length ≤ reserved_length_) :
    ∃ column, (create type reserved_length_ values_ bits).appendAll values = .ok column ∧
      Holds ⟨values.map some, false⟩ column := by
  have general (done rest : List Value) (column : NativeColumnVector type reserved_length_)
      (h : Holds ⟨done.map some, false⟩ column) (placeable : ∀ value ∈ rest, Placeable type value)
      (room : done.length + rest.length ≤ reserved_length_) :
      ∃ column', column.appendAll rest = .ok column' ∧ Holds ⟨(done ++ rest).map some, false⟩ column' := by
    induction rest generalizing done column with
    | nil =>
      rw [List.append_nil]
      exact ⟨column, rfl, h⟩
    | cons value rest ih =>
      obtain ⟨first, others⟩ := List.forall_mem_cons.mp placeable
      rw [List.length_cons] at room
      have holds := h.append first (by omega)
      have size : column.actual_length_ = done.length := h.size.trans (List.length_map _)
      have step : column.appendChecked value = .ok (column.write (.append value)) := if_pos (by omega)
      obtain ⟨column', run, holds'⟩ := ih (done ++ [value]) _ holds others (by
        rw [List.length_append, List.length_singleton]
        omega)
      refine ⟨column', ?_, ?_⟩
      · unfold appendAll
        rw [List.foldlM_cons, step]
        exact run
      · rwa [List.append_assoc, List.singleton_append] at holds'
  exact general [] values _ (Holds.create type values_ bits) placeable (by
    rwa [List.length_nil, Nat.zero_add])

/-- **The loop without enough room** exceeds it. -/
theorem appendAll_fault (within : column.actual_length_ ≤ reserved_length_)
    (tooMany : reserved_length_ < column.actual_length_ + values.length) :
    column.appendAll values = .error .undefinedBehaviour := by
  induction values generalizing column with
  | nil =>
    rw [List.length_nil] at tooMany
    omega
  | cons value values ih =>
    rw [List.length_cons] at tooMany
    unfold appendAll
    rw [List.foldlM_cons]
    by_cases room : column.actual_length_ < reserved_length_
    · have step : column.appendChecked value = .ok (column.write (.append value)) := if_pos room
      have longer : (column.write (.append value)).actual_length_ = column.actual_length_ + 1 := by
        rw [write_append]
        exact congrArg (· + 1) (place_actual_length column column.actual_length_ value)
      rw [step]
      apply ih
      · omega
      · omega
    · have step : column.appendChecked value = .error .undefinedBehaviour := if_neg room
      rw [step]
      rfl

/-- The loop runs exactly when there is enough room. -/
theorem appendAll_ok_iff (values_ : WordMemory 8) (bits : BitVector false reserved_length_)
    (placeable : ∀ value ∈ values, Placeable type value) :
    (∃ column, (create type reserved_length_ values_ bits).appendAll values = .ok column) ↔
      values.length ≤ reserved_length_ := by
  constructor
  · rintro ⟨column, run⟩
    by_contra tooMany
    have fault := @appendAll_fault _ _ (create type reserved_length_ values_ bits) values
      (Nat.zero_le _) (by
        show reserved_length_ < 0 + values.length
        omega)
    rw [fault] at run
    cases run
  · intro room
    obtain ⟨column, run, -⟩ := appendAll_holds values_ bits placeable room
    exact ⟨column, run⟩

/-- What is read at a position of the list that a loop leaves. -/
theorem Holds.getTypedValue_of_getElem? (h : Holds ⟨values.map some, false⟩ column) {k : Nat}
    {value : Value} (found : values[k]? = some value) :
    (column.getTypedValue k).getTypeID = type.getTypeID ∧
      (value.meaning type).SameValue (column.getTypedValue k) := by
  apply h.getTypedValue
  unfold Written.entry
  rw [List.getElem?_map, found]
  rfl

/-! ## The values that a loop leaves -/

/-- A loop has not exceeded what is reserved, and its column vector has the values expected. -/
def Exactly (run : Exec (NativeColumnVector type reserved_length_)) (expected : List TypedValue) : Prop :=
  ∃ column, run = .ok column ∧ column.size = expected.length ∧
    ∀ (k : Nat) (value : TypedValue), expected[k]? = some value →
      value.SameValue (column.getTypedValue k)

/-- A column vector that holds values has them. -/
theorem Holds.exactly (h : Holds ⟨values.map some, false⟩ column) {expected : List TypedValue}
    (length : values.length = expected.length)
    (meant : ∀ (k : Nat) (value : Value) (result : TypedValue), values[k]? = some value →
      expected[k]? = some result → ∀ read, (value.meaning type).SameValue read →
        result.SameValue read) :
    Exactly (.ok column) expected := by
  refine ⟨column, rfl, ?_, fun k result found => ?_⟩
  · have size : column.size = _ := h.size
    simpa [length] using size
  · obtain ⟨within, -⟩ := List.getElem?_eq_some_iff.mp found
    rw [← length] at within
    have value := List.getElem?_eq_getElem within
    exact meant k _ result value found _ (h.getTypedValue_of_getElem? value).2

variable {α : Type} {items : List α} {appended : α → Value} {expected : α → TypedValue}

/-- **A loop that appends a value for each item** leaves these values if and only if there is room. -/
theorem appendAll_exactly_iff (placeable : ∀ item ∈ items, Placeable type (appended item))
    (meant : ∀ item ∈ items, ∀ read, ((appended item).meaning type).SameValue read →
      (expected item).SameValue read)
    (values_ : WordMemory 8) (bits : BitVector false reserved_length_) :
    Exactly ((create type reserved_length_ values_ bits).appendAll (items.map appended))
        (items.map expected) ↔
      items.length ≤ reserved_length_ := by
  have allPlaceable : ∀ value ∈ items.map appended, Placeable type value := by
    intro value mem
    obtain ⟨item, itemMem, rfl⟩ := List.mem_map.mp mem
    exact placeable item itemMem
  constructor
  · rintro ⟨column, run, -⟩
    have room := (appendAll_ok_iff values_ bits allPlaceable).mp ⟨column, run⟩
    rwa [List.length_map] at room
  · intro room
    obtain ⟨column, run, holds⟩ := appendAll_holds values_ bits allPlaceable (by
      rwa [List.length_map])
    rw [run]
    apply holds.exactly
    · simp
    · intro k value result isValue isResult
      rw [List.getElem?_map, Option.map_eq_some_iff] at isValue isResult
      obtain ⟨item, found, rfl⟩ := isValue
      obtain ⟨other, otherFound, rfl⟩ := isResult
      obtain rfl : item = other := Option.some.inj (found.symm.trans otherFound)
      exact meant item (List.mem_of_getElem? found)

/-- A loop whose body appends a value for each item. -/
theorem foldlM_eq_appendAll
    {body : NativeColumnVector type reserved_length_ → α → Exec (NativeColumnVector type reserved_length_)}
    (step : ∀ item ∈ items, ∀ column, body column item = column.appendChecked (appended item))
    (column : NativeColumnVector type reserved_length_) :
    items.foldlM body column = column.appendAll (items.map appended) := by
  induction items generalizing column with
  | nil => rfl
  | cons item items ih =>
    obtain ⟨first, others⟩ := List.forall_mem_cons.mp step
    unfold appendAll
    rw [List.foldlM_cons, List.map_cons, List.foldlM_cons, first]
    congr 1
    funext column
    exact ih others column

/-- A vector filled with NULLs has a NULL at every position. -/
theorem fillWithNulls_exactly (usable : usableForType type = true) (nullable : type.isNullable = true)
    (values_ : WordMemory 8) (bits : BitVector false reserved_length_) :
    Exactly (.ok (create type reserved_length_ values_ bits).fillWithNulls)
      (List.replicate reserved_length_ type.makeNullValue) := by
  have holds : Holds ⟨(List.replicate reserved_length_ Value.null).map some, false⟩
      (create type reserved_length_ values_ bits).fillWithNulls := by
    rw [List.map_replicate]
    have filled := (Holds.create type values_ bits).write usable (.fill .null) ⟨nullable, .inl rfl⟩ rfl
    exact filled
  apply holds.exactly
  · simp
  · intro k value result isValue isResult read same
    rw [List.getElem?_replicate] at isValue isResult
    split at isValue
    · next within =>
      rw [if_pos within] at isResult
      cases isValue
      cases isResult
      exact same
    · cases isValue

end NativeColumnVector

end Quickstep.Types
