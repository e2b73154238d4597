import Quickstep.Types.LiteralComparators
import Quickstep.Types.StringComparison

/-!
# Coercion of strings

`coerceValue` between CHAR and VARCHAR cuts a string to the length of the target type. It copies the
data or only relabels it. Relabelled data keeps its size, which is the size of the string only where
the source was a VARCHAR or had no padding.
-/

namespace Quickstep.Types
open Quickstep.Lib CString

/-- A VARCHAR has no data behind its terminator. -/
def TypedValue.Tight (value : TypedValue) : Prop :=
  value.getTypeID = .varChar → value.getOutOfLineData.length = value.characters.length + 1

/-- The valid instances of a string type. -/
structure DataType.IsInstance (type : DataType) (value : TypedValue) : Prop where
  stores : type.Stores value
  tight : value.Tight

/-- What coercion to a string type is to return. -/
structure CoercedExactly (type originalType : DataType) (original coerced : TypedValue) : Prop where
  typeId : coerced.getTypeID = type.getTypeID
  fits : coerced.getOutOfLineData.length ≤ type.maximumByteLength.toNat
  tight : coerced.Tight
  terminated : type.getTypeID = .char → coerced.characters.length < type.getStringLength.toNat →
    0 ∈ coerced.getOutOfLineData
  characters : coerced.characters = original.characters.take type.getStringLength.toNat
  safe : type.isSafelyCoercibleFrom originalType = true → coerced.characters = original.characters

/-- Coercion to a string type has a result, and it is as it should be. -/
def CoercesExactly (platform : Platform) (type originalType : DataType) (original : TypedValue) :
    Prop :=
  ∃ coerced, type.coerceValue platform original originalType = some coerced ∧
    CoercedExactly type originalType original coerced

/-- The length of a VARCHAR and its terminator can be added up, as its type does. -/
def DataType.LengthFits (type : DataType) : Prop :=
  type.getTypeID = .varChar → type.getStringLength.toNat + 1 < 2 ^ 64

/-- A CHAR that is only relabelled as a VARCHAR has no padding: its data ends at its terminator. -/
def RelabelsTightly (type : DataType) (original : TypedValue) : Prop :=
  original.getTypeID = .char → type.getTypeID = .varChar →
    original.characters.length ≤ type.getStringLength.toNat →
      original.getOutOfLineData.length ≤ original.characters.length + 1

/-- A VARCHAR of the type whose length does not fit is not longer than the target, if it seems to be
safe to coerce it. -/
def WrapsSafely (type originalType : DataType) (original : TypedValue) : Prop :=
  originalType.LengthFits ∨ type.getTypeID = .char ∨
    type.isSafelyCoercibleFrom originalType = false ∨
      original.characters.length ≤ type.getStringLength.toNat

/-! ## Coercion to CHAR -/

section ToChar

variable {originalType : DataType} {original : TypedValue}

/-- The data that coercion to CHAR returns. -/
theorem coerceToChar_spec (length : BitVec 64) (stores : originalType.Stores original) :
    ∃ data, coerceToChar length originalType original.getOutOfLineData = .char data ∧
      data.length ≤ length.toNat ∧
        ((CString.characters data).length < length.toNat → 0 ∈ data) ∧
          CString.characters data = original.characters.take length.toNat := by
  have cut : ∀ data : List (BitVec 8), length.toNat ≤ data.length →
      ((data.take length.toNat).length ≤ length.toNat ∧
        ((CString.characters (data.take length.toNat)).length < length.toNat →
          0 ∈ data.take length.toNat) ∧
        CString.characters (data.take length.toNat) =
          (CString.characters data).take length.toNat) := by
    intro data long
    have size : (data.take length.toNat).length = length.toNat := by
      rw [List.length_take, Nat.min_eq_left long]
    refine ⟨size.le, fun short => terminated_of_length_characters_lt (size.symm ▸ short), ?_⟩
    exact characters_take_eq data length.toNat
  unfold coerceToChar
  simp only
  by_cases fits : original.getOutOfLineData.length ≤ length.toNat
  · have whole : (CString.characters original.getOutOfLineData).take length.toNat =
        CString.characters original.getOutOfLineData :=
      List.take_of_length_le ((length_characters_le _).trans fits)
    have kept : ∀ data : List (BitVec 8), data.length ≤ length.toNat →
        (CString.characters data).length < length.toNat → data.length = length.toNat ∨ 0 ∈ data →
          0 ∈ data := by
      rintro data - short (full | ends)
      · exact terminated_of_length_characters_lt (full.symm ▸ short)
      · exact ends
    rw [if_pos fits]
    split
    · rename_i asIs
      refine ⟨_, rfl, fits, fun short => kept _ fits short ?_, whole.symm⟩
      rcases asIs with terminated | full
      · right
        cases stores with
        | varChar ends _ => exact ends
        | char _ ends =>
          rcases terminated with isVarChar | shorter | ends'
          · cases isVarChar
          · exact ends.resolve_left shorter.ne
          · exact ends'
      · exact .inl full
    · rename_i copied
      have smaller := lt_of_le_of_ne fits fun full => copied (.inr full)
      refine ⟨_, rfl, ?_, fun _ => by simp, ?_⟩
      · rw [List.length_append, List.length_singleton]
        exact smaller
      · exact (characters_append_zero _).trans whole.symm
  · rw [if_neg fits]
    obtain ⟨size, ends, characters⟩ := cut original.getOutOfLineData (Nat.le_of_not_le fits)
    exact ⟨_, rfl, size, ends, characters⟩

end ToChar

/-! ## Coercion to VARCHAR -/

section ToVarChar

/-- The copy that coercion to VARCHAR makes of `n` characters. -/
theorem varCharCopy_spec {data : List (BitVec 8)} {n : Nat}
    (covered : n ≤ (CString.characters data).length) :
    0 ∈ data.take n ++ [0] ∧
      CString.characters (data.take n ++ [0]) = (CString.characters data).take n ∧
        (data.take n ++ [0]).length = n + 1 := by
  refine ⟨by simp, (characters_append_zero _).trans (characters_take_eq data n), ?_⟩
  rw [List.length_append, List.length_take,
    Nat.min_eq_left (covered.trans (length_characters_le data)), List.length_singleton]

/-- The length that `VarCharType::coerceValue` takes for a string. -/
theorem originalLength_eq {originalType : DataType} {original : TypedValue}
    (stores : originalType.Stores original) (tight : original.Tight) :
    (if originalType.getTypeID = .varChar then original.getOutOfLineData.length - 1
      else strnlen original.getOutOfLineData original.getOutOfLineData.length) =
        original.characters.length := by
  cases stores with
  | char _ _ =>
    refine (if_neg fun isVarChar => nomatch isVarChar).trans ((strnlen_eq _ _).trans ?_)
    exact Nat.min_eq_right (length_characters_le _)
  | varChar _ _ =>
    refine (if_pos rfl).trans ?_
    rw [tight rfl, Nat.add_sub_cancel]

/-- The data that coercion to VARCHAR returns: the original data, or a copy without padding. -/
theorem coerceToVarChar_spec (length : BitVec 64) {originalType : DataType} {original : TypedValue}
    (stores : originalType.Stores original) (tight : original.Tight) :
    ∃ data, coerceToVarChar length originalType original.getOutOfLineData = .varChar data ∧
      0 ∈ data ∧ CString.characters data = original.characters.take length.toNat ∧
        data.length =
          if original.characters.length ≤ length.toNat ∧
            original.characters.length < original.getOutOfLineData.length then
              original.getOutOfLineData.length
          else min original.characters.length length.toNat + 1 := by
  unfold coerceToVarChar
  rw [originalLength_eq stores tight]
  simp only
  split
  · rename_i kept
    refine ⟨_, rfl, terminated_of_length_characters_lt kept.2, ?_, rfl⟩
    exact (List.take_of_length_le kept.1).symm
  · obtain ⟨ends, characters, size⟩ :=
      @varCharCopy_spec original.getOutOfLineData (min original.characters.length length.toNat)
        (Nat.min_le_left _ _)
    refine ⟨_, rfl, ends, characters.trans ?_, size⟩
    rw [Nat.min_comm, ← List.take_take]
    exact congrArg (List.take _) (List.take_of_length_le (le_refl original.characters.length))

end ToVarChar

/-! ## Safe coercion -/

section Safe

variable {type originalType : DataType} {original : TypedValue}

/-- The NULL check of two types that are not `NullType` leaves the answer to the method. -/
theorem DataType.otherwise_of_nullCoercibilityCheck {otherwise : Bool}
    (isString : originalType.getSuperTypeID = .asciiString)
    (check : type.nullCoercibilityCheck originalType otherwise = true) : otherwise = true := by
  have notNullType : originalType.getTypeID ≠ .nullType := by
    rintro isNullType
    cases originalType <;> cases isNullType
    cases isString
  unfold nullCoercibilityCheck at check
  rw [if_neg notNullType] at check
  split at check
  · cases check
  · exact check

/-- What safe coercion of strings promises of the lengths. -/
theorem DataType.Stores.length_le_of_isSafelyCoercibleFrom (stores : originalType.Stores original)
    (isString : type.getSuperTypeID = .asciiString)
    (safe : type.isSafelyCoercibleFrom originalType = true)
    (wraps : WrapsSafely type originalType original) (fits : type.LengthFits) :
    original.characters.length ≤ type.getStringLength.toNat := by
  cases type with
  | char n _ =>
    cases stores with
    | @char m _ data short _ =>
      have lengths := of_decide_eq_true (otherwise_of_nullCoercibilityCheck rfl safe)
      exact ((length_characters_le data).trans short).trans lengths
    | @varChar m _ data _ short =>
      have lengths := of_decide_eq_true (otherwise_of_nullCoercibilityCheck rfl safe)
      have lengths : m + 1 - 1 ≤ n := lengths
      rw [BitVec.add_sub_cancel] at lengths
      exact short.trans lengths
  | varChar n _ =>
    cases stores with
    | @char m _ data short _ =>
      have lengths := of_decide_eq_true (otherwise_of_nullCoercibilityCheck rfl safe)
      exact ((length_characters_le data).trans short).trans lengths
    | @varChar m _ data _ short =>
      rcases wraps with sourceFits | isChar | unsafely | short
      · have lengths := of_decide_eq_true (otherwise_of_nullCoercibilityCheck rfl safe)
        have lengths : (m + 1).toNat ≤ (n + 1).toNat := lengths
        have sourceFits : m.toNat + 1 < 2 ^ 64 := sourceFits rfl
        have fits : n.toNat + 1 < 2 ^ 64 := fits rfl
        have noWrap : ∀ k : BitVec 64, k.toNat + 1 < 2 ^ 64 → (k + 1).toNat = k.toNat + 1 := by
          intro k small
          rw [BitVec.toNat_add]
          exact Nat.mod_eq_of_lt small
        rw [noWrap m sourceFits, noWrap n fits] at lengths
        exact short.trans (Nat.le_of_succ_le_succ lengths)
      · cases isChar
      · rw [safe] at unsafely
        cases unsafely
      · exact short
  | int _ | long _ | float _ | double _ | date _ | datetime _ | datetimeInterval _
  | yearMonthInterval _ | nullType => cases isString

end Safe

/-! ## Coercion of valid instances -/

section Coercion

variable {type originalType : DataType} {original : TypedValue}

theorem DataType.Stores.coerceValue_eq (platform : Platform) (stores : originalType.Stores original)
    (length : BitVec 64) (nullable : Bool) :
    (DataType.char length nullable).coerceValue platform original originalType =
        some (coerceToChar length originalType original.getOutOfLineData) ∧
      (DataType.varChar length nullable).coerceValue platform original originalType =
        some (coerceToVarChar length originalType original.getOutOfLineData) := by
  cases stores <;> exact ⟨rfl, rfl⟩

/-- Coercion to CHAR is as it should be. -/
theorem DataType.IsInstance.coercesExactly_char (platform : Platform)
    (isInstance : originalType.IsInstance original) (length : BitVec 64) (nullable : Bool) :
    CoercesExactly platform (.char length nullable) originalType original := by
  obtain ⟨data, coerced, fits, terminated, characters⟩ :=
    coerceToChar_spec length isInstance.stores
  refine ⟨.char data, ?_, rfl, fits, nofun, fun _ => terminated, characters, fun safe => ?_⟩
  · rw [(isInstance.stores.coerceValue_eq platform length nullable).1, coerced]
  · refine characters.trans (List.take_of_length_le ?_)
    exact isInstance.stores.length_le_of_isSafelyCoercibleFrom rfl safe (.inr (.inl rfl)) nofun

/-- Coercion to VARCHAR is as it should be exactly if data is only kept where it is tight, and no
length wraps. -/
theorem DataType.IsInstance.coercesExactly_varChar_iff (platform : Platform)
    (isInstance : originalType.IsInstance original) (length : BitVec 64) (nullable : Bool) :
    CoercesExactly platform (.varChar length nullable) originalType original ↔
      (DataType.varChar length nullable).LengthFits ∧
        RelabelsTightly (.varChar length nullable) original ∧
          WrapsSafely (.varChar length nullable) originalType original := by
  obtain ⟨data, coerced, ends, characters, size⟩ :=
    coerceToVarChar_spec length isInstance.stores isInstance.tight
  have returned : (DataType.varChar length nullable).coerceValue platform original originalType =
      some (.varChar data) := by
    rw [(isInstance.stores.coerceValue_eq platform length nullable).2, coerced]
  have shown : (CString.characters data).length = min original.characters.length length.toNat := by
    rw [characters, List.length_take, Nat.min_comm]
  constructor
  · rintro ⟨result, isResult, exact⟩
    rw [returned] at isResult
    cases isResult
    have fits : data.length ≤ (length + 1).toNat := exact.fits
    have tight : data.length = (CString.characters data).length + 1 := exact.tight rfl
    have bound := length.isLt
    refine ⟨fun _ => ?_, fun _ _ short => ?_, ?_⟩
    · change length.toNat + 1 < 2 ^ 64
      by_contra wraps
      have zero : (length + 1).toNat = 0 := by
        rw [BitVec.toNat_add]
        change (length.toNat + 1) % 2 ^ 64 = 0
        rw [show length.toNat + 1 = 2 ^ 64 by omega, Nat.mod_self]
      omega
    · have short : original.characters.length ≤ length.toNat := short
      by_contra padded
      rw [if_pos ⟨short, by omega⟩] at size
      rw [Nat.min_eq_left short] at shown
      omega
    · by_cases sourceFits : originalType.LengthFits
      · exact .inl sourceFits
      · cases safe : (DataType.varChar length nullable).isSafelyCoercibleFrom originalType with
        | false => exact .inr (.inr (.inl safe))
        | true =>
          have same : CString.characters data = original.characters := exact.safe safe
          rw [same] at shown
          exact .inr (.inr (.inr (by rw [shown]; exact Nat.min_le_right _ _)))
  · rintro ⟨fits, relabels, wraps⟩
    have tight : data.length = (CString.characters data).length + 1 := by
      rw [shown, size]
      split
      · rename_i kept
        obtain ⟨short, notFull⟩ := kept
        rw [Nat.min_eq_left short]
        cases isInstance.stores with
        | char _ _ => exact Nat.le_antisymm (relabels rfl rfl short) notFull
        | varChar _ _ => exact isInstance.tight rfl
      · rfl
    have noWrap : (length + 1).toNat = length.toNat + 1 := by
      rw [BitVec.toNat_add]
      exact Nat.mod_eq_of_lt (fits rfl)
    refine ⟨.varChar data, returned, rfl, ?_, fun _ => tight, nofun, characters, fun safe => ?_⟩
    · change data.length ≤ (length + 1).toNat
      rw [noWrap, tight, shown]
      exact Nat.succ_le_succ (Nat.min_le_right _ _)
    · refine characters.trans (List.take_of_length_le ?_)
      exact isInstance.stores.length_le_of_isSafelyCoercibleFrom rfl safe wraps fits

/-- **Coercion of strings** returns a valid instance of the target type with the characters that fit
exactly if a CHAR that is only relabelled has no padding, and the length of no VARCHAR wraps. -/
theorem stringCoercion_exact_iff (platform : Platform) {type originalType : DataType}
    (isString : type.getSuperTypeID = .asciiString) {original : TypedValue}
    (isInstance : originalType.IsInstance original) :
    CoercesExactly platform type originalType original ↔
      type.LengthFits ∧ RelabelsTightly type original ∧ WrapsSafely type originalType original := by
  cases type with
  | char length nullable =>
    refine iff_of_true (isInstance.coercesExactly_char platform length nullable) ⟨nofun, ?_, ?_⟩
    · exact fun _ => nofun
    · exact .inr (.inl rfl)
  | varChar length nullable => exact isInstance.coercesExactly_varChar_iff platform length nullable
  | int _ | long _ | float _ | double _ | date _ | datetime _ | datetimeInterval _
  | yearMonthInterval _ | nullType => cases isString

/-- A CHAR whose data fills its type. -/
theorem stringCoercion_exact_iff_full :
    CoercesExactly integerPlatform (.varChar 1 false) (.char 2 false) (.char [104, 105]) := by
  refine (stringCoercion_exact_iff integerPlatform rfl ?_).mpr ⟨fun _ => by decide, ?_, ?_⟩
  · exact ⟨.char (by decide) (.inl rfl), nofun⟩
  · exact fun _ _ short => absurd short (by decide)
  · exact .inl nofun

/-- A padded CHAR keeps its size as a VARCHAR. -/
theorem not_stringCoercion_exact :
    ¬∀ (platform : Platform) (type originalType : DataType) (original : TypedValue),
      type.getSuperTypeID = .asciiString → originalType.IsInstance original →
      CoercesExactly platform type originalType original := by
  intro exact
  obtain ⟨coerced, returned, coercedExactly⟩ :=
    exact integerPlatform (.varChar 2 false) (.char 4 false) (.char [97, 0, 0, 0]) rfl
      ⟨.char (by decide) (.inl rfl), nofun⟩
  have kept : coerced = .varChar [97, 0, 0, 0] := by
    have isKept : (DataType.varChar 2 false).coerceValue integerPlatform (.char [97, 0, 0, 0])
        (.char 4 false) = some (.varChar [97, 0, 0, 0]) := by decide
    exact Option.some.inj (returned.symm.trans isKept)
  subst kept
  exact absurd coercedExactly.fits (by decide)

end Coercion

end Quickstep.Types
