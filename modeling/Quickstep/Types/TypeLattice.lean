import Quickstep.Types.Coercion

/-!
# The lattice of types

Safe coercibility orders the types, up to the NULL check and up to types that are coercible both
ways, and `GetUnifyingType` returns a least upper bound. The order is not transitive around the
VARCHAR whose length and terminator cannot be added up.
-/

namespace Quickstep.Types

/-- Safe coercibility of two types other than `NullType`, apart from the NULL check. -/
inductive DataType.Widens : DataType → DataType → Prop where
  | int {m n : Bool} : Widens (.int m) (.int n)
  | longInt {m n : Bool} : Widens (.long m) (.int n)
  | long {m n : Bool} : Widens (.long m) (.long n)
  | floatInt {m n : Bool} : Widens (.float m) (.int n)
  | float {m n : Bool} : Widens (.float m) (.float n)
  | doubleInt {m n : Bool} : Widens (.double m) (.int n)
  | doubleLong {m n : Bool} : Widens (.double m) (.long n)
  | doubleFloat {m n : Bool} : Widens (.double m) (.float n)
  | double {m n : Bool} : Widens (.double m) (.double n)
  | charChar {length original : BitVec 64} {m n : Bool} : original ≤ length →
    Widens (.char length m) (.char original n)
  | charVarChar {length original : BitVec 64} {m n : Bool} : original ≤ length →
    Widens (.char length m) (.varChar original n)
  | varCharChar {length original : BitVec 64} {m n : Bool} : original ≤ length →
    Widens (.varChar length m) (.char original n)
  | varCharVarChar {length original : BitVec 64} {m n : Bool} : original + 1 ≤ length + 1 →
    Widens (.varChar length m) (.varChar original n)
  | date {m n : Bool} : Widens (.date m) (.date n)
  | datetime {m n : Bool} : Widens (.datetime m) (.datetime n)
  | datetimeInterval {m n : Bool} : Widens (.datetimeInterval m) (.datetimeInterval n)
  | yearMonthInterval {m n : Bool} : Widens (.yearMonthInterval m) (.yearMonthInterval n)

/-- Coercion from `original` to `type` by way of `between` is safe step by step, but not as a whole:
the maximum byte length of the longest VARCHAR wraps to zero, so it counts as shorter than all
others. -/
def WrapsAround (type between original : DataType) : Prop :=
  (original.isNullable = true → between.isNullable = true) ∧
    (between.isNullable = true → type.isNullable = true) ∧
    match type, between, original with
    | .varChar length _, .varChar middle _, .char source _ =>
      middle = BitVec.allOnes 64 ∧ length < source
    | .char length _, .varChar middle _, .varChar source _ =>
      source = BitVec.allOnes 64 ∧ middle ≤ length ∧ length ≠ BitVec.allOnes 64
    | .varChar length _, .char middle _, .varChar source _ =>
      length = BitVec.allOnes 64 ∧ source ≤ middle ∧ source ≠ BitVec.allOnes 64
    | _, _, _ => False

/-- The laws of the lattice, for two types that are unified and a third one. -/
structure LatticeLaws (first second third : DataType) : Prop where
  refl : first.isSafelyCoercibleFrom first = true
  trans : first.isSafelyCoercibleFrom second = true → second.isSafelyCoercibleFrom third = true →
    first.isSafelyCoercibleFrom third = true
  unifies : (TypeFactory.getUnifyingType first second).isSome ↔
    ∃ type : DataType, type.isSafelyCoercibleFrom first = true ∧
      type.isSafelyCoercibleFrom second = true
  upper : ∀ unifier, TypeFactory.getUnifyingType first second = some unifier →
    unifier.isSafelyCoercibleFrom first = true ∧ unifier.isSafelyCoercibleFrom second = true
  least : ∀ unifier, TypeFactory.getUnifyingType first second = some unifier →
    third.isSafelyCoercibleFrom first = true → third.isSafelyCoercibleFrom second = true →
      third.isSafelyCoercibleFrom unifier = true
  symmetric : ∀ unifier swapped, TypeFactory.getUnifyingType first second = some unifier →
    TypeFactory.getUnifyingType second first = some swapped →
      unifier.isSafelyCoercibleFrom swapped = true ∧ swapped.isSafelyCoercibleFrom unifier = true

namespace DataType

/-! ## Safe coercibility -/

section Order

variable {type original : DataType}

theorem widens_char_char_iff {length source : BitVec 64} {m n : Bool} :
    (char length m).Widens (char source n) ↔ source ≤ length := by
  refine ⟨fun wider => ?_, .charChar⟩
  cases wider with
  | charChar short => exact short

theorem widens_char_varChar_iff {length source : BitVec 64} {m n : Bool} :
    (char length m).Widens (varChar source n) ↔ source ≤ length := by
  refine ⟨fun wider => ?_, .charVarChar⟩
  cases wider with
  | charVarChar short => exact short

theorem widens_varChar_char_iff {length source : BitVec 64} {m n : Bool} :
    (varChar length m).Widens (char source n) ↔ source ≤ length := by
  refine ⟨fun wider => ?_, .varCharChar⟩
  cases wider with
  | varCharChar short => exact short

theorem widens_varChar_varChar_iff {length source : BitVec 64} {m n : Bool} :
    (varChar length m).Widens (varChar source n) ↔ source + 1 ≤ length + 1 := by
  refine ⟨fun wider => ?_, .varCharVarChar⟩
  cases wider with
  | varCharVarChar short => exact short

/-- The NULL check, and then `NullType` or a wider type. -/
theorem isSafelyCoercibleFrom_iff :
    type.isSafelyCoercibleFrom original = true ↔
      (original.isNullable = true → type.isNullable = true) ∧
        (original = .nullType ∨ type.Widens original) := by
  have check : ∀ otherwise : Bool, type.nullCoercibilityCheck original otherwise = true ↔
      (original.isNullable = true → type.isNullable = true) ∧
        (original = .nullType ∨ otherwise = true) := by
    intro otherwise
    have isNullType : original.getTypeID = .nullType ↔ original = .nullType := by
      cases original <;> simp [getTypeID]
    unfold nullCoercibilityCheck
    simp only [isNullType]
    cases original.isNullable <;> cases type.isNullable <;> by_cases null : original = .nullType <;>
      simp [null]
  have widens : ∀ {otherwise : Bool}, (otherwise = true ↔ type.Widens original) →
      (type.nullCoercibilityCheck original otherwise = true ↔
        (original.isNullable = true → type.isNullable = true) ∧
          (original = .nullType ∨ type.Widens original)) := by
    intro otherwise same
    rw [check, same]
  cases type with
  | nullType =>
    have noWider : ¬nullType.Widens original := fun wider => nomatch wider
    have isNullType : original.getTypeID = .nullType ↔ original = .nullType := by
      cases original <;> simp [getTypeID]
    change decide (original.getTypeID = .nullType) = true ↔ _
    rw [decide_eq_true_eq, isNullType, or_iff_left noWider]
    exact (and_iff_right fun _ => rfl).symm
  | int _ | long _ | float _ | double _ =>
    refine widens ?_
    cases original <;> simp <;> first | constructor | exact fun wider => nomatch wider
  | char length _ =>
    refine widens ?_
    cases original with
    | char source _ =>
      exact ⟨fun short => .charChar (of_decide_eq_true short), fun wider =>
        decide_eq_true (widens_char_char_iff.mp wider)⟩
    | varChar source _ =>
      have minusOne : source + 1 - 1 = source := BitVec.add_sub_cancel _ _
      simp only [maximumByteLength, minusOne]
      exact ⟨fun short => .charVarChar (of_decide_eq_true short), fun wider =>
        decide_eq_true (widens_char_varChar_iff.mp wider)⟩
    | int _ | long _ | float _ | double _ | date _ | datetime _ | datetimeInterval _
    | yearMonthInterval _ | nullType => exact ⟨nofun, nofun⟩
  | varChar length _ =>
    refine widens ?_
    cases original with
    | char source _ =>
      exact ⟨fun short => .varCharChar (of_decide_eq_true short), fun wider =>
        decide_eq_true (widens_varChar_char_iff.mp wider)⟩
    | varChar source _ =>
      exact ⟨fun short => .varCharVarChar (of_decide_eq_true short), fun wider =>
        decide_eq_true (widens_varChar_varChar_iff.mp wider)⟩
    | int _ | long _ | float _ | double _ | date _ | datetime _ | datetimeInterval _
    | yearMonthInterval _ | nullType => exact ⟨nofun, nofun⟩
  | date _ | datetime _ | datetimeInterval _ | yearMonthInterval _ =>
    refine widens ?_
    cases original <;> simp [getTypeID] <;> first | constructor | exact fun wider => nomatch wider

theorem Widens.ne_nullType (wider : type.Widens original) :
    type ≠ .nullType ∧ original ≠ .nullType := by
  cases wider <;> exact ⟨nofun, nofun⟩

/-- A type with another nullability is as wide. -/
theorem widens_getNullableVersion_right :
    type.Widens original.getNullableVersion ↔ type.Widens original := by
  cases original <;> constructor <;> intro wider <;> cases wider <;> constructor <;> assumption

theorem isNullable_getNullableVersion (type : DataType) :
    type.getNullableVersion.isNullable = true := by
  cases type <;> rfl

theorem getNullableVersion_eq_nullType_iff : type.getNullableVersion = .nullType ↔ type = .nullType := by
  cases type <;> simp [getNullableVersion]

theorem Widens.refl (notNullType : type ≠ .nullType) : type.Widens type := by
  cases type with
  | nullType => exact absurd rfl notNullType
  | char _ _ => exact .charChar (BitVec.le_refl _)
  | varChar _ _ => exact .varCharVarChar (BitVec.le_refl _)
  | int _ | long _ | float _ | double _ | date _ | datetime _ | datetimeInterval _
  | yearMonthInterval _ => constructor

theorem isSafelyCoercibleFrom_refl (type : DataType) : type.isSafelyCoercibleFrom type = true := by
  rw [isSafelyCoercibleFrom_iff]
  by_cases isNullType : type = .nullType
  · exact ⟨id, .inl isNullType⟩
  · exact ⟨id, .inr (.refl isNullType)⟩

theorem eq_allOnes_iff {length : BitVec 64} : length = BitVec.allOnes 64 ↔ length.toNat = 2 ^ 64 - 1 := by
  rw [← BitVec.toNat_inj, BitVec.toNat_allOnes]

theorem le_allOnes (length : BitVec 64) : length ≤ BitVec.allOnes 64 := by
  rw [BitVec.le_def, BitVec.toNat_allOnes]
  exact Nat.le_sub_one_of_lt length.isLt

/-- Adding one to a length wraps for the longest only. -/
theorem length_add_one_le_iff {source length : BitVec 64} :
    source + 1 ≤ length + 1 ↔
      source = BitVec.allOnes 64 ∨ (length ≠ BitVec.allOnes 64 ∧ source ≤ length) := by
  have sourceBound := source.isLt
  have lengthBound := length.isLt
  rw [ne_eq, eq_allOnes_iff, eq_allOnes_iff, BitVec.le_def, BitVec.le_def, BitVec.toNat_add, BitVec.toNat_add]
  change (source.toNat + 1) % 2 ^ 64 ≤ (length.toNat + 1) % 2 ^ 64 ↔ _
  omega

/-- **Widening is transitive** except around the longest VARCHAR. -/
theorem Widens.trans_iff {between : DataType} (outer : type.Widens between)
    (inner : between.Widens original)
    (nullable : (original.isNullable = true → between.isNullable = true) ∧
      (between.isNullable = true → type.isNullable = true)) :
    type.Widens original ↔ ¬WrapsAround type between original := by
  unfold WrapsAround
  rw [and_iff_right nullable.1, and_iff_right nullable.2]
  cases outer with
  | @charChar length middle _ _ outer =>
    cases inner with
    | charChar inner => exact iff_of_true (.charChar (BitVec.le_trans inner outer)) id
    | charVarChar inner => exact iff_of_true (.charVarChar (BitVec.le_trans inner outer)) id
  | @charVarChar length middle _ _ outer =>
    cases inner with
    | varCharChar inner => exact iff_of_true (.charChar (BitVec.le_trans inner outer)) id
    | @varCharVarChar _ source _ _ inner =>
      rw [length_add_one_le_iff] at inner
      simp only [widens_char_varChar_iff, ne_eq, eq_allOnes_iff, BitVec.le_def] at inner outer ⊢
      omega
  | @varCharChar length middle _ _ outer =>
    cases inner with
    | charChar inner => exact iff_of_true (.varCharChar (BitVec.le_trans inner outer)) id
    | @charVarChar _ source _ _ inner =>
      rw [widens_varChar_varChar_iff, length_add_one_le_iff]
      simp only [ne_eq, eq_allOnes_iff, BitVec.le_def] at inner outer ⊢
      omega
  | @varCharVarChar length middle _ _ outer =>
    cases inner with
    | @varCharChar _ source _ _ inner =>
      rw [length_add_one_le_iff] at outer
      simp only [widens_varChar_char_iff, ne_eq, eq_allOnes_iff, BitVec.le_def, BitVec.lt_def] at inner outer ⊢
      omega
    | varCharVarChar inner =>
      exact iff_of_true (.varCharVarChar (BitVec.le_trans inner outer)) id
  | int | longInt | long | floatInt | float | doubleInt | doubleLong | doubleFloat | double | date
  | datetime | datetimeInterval | yearMonthInterval =>
    cases inner <;> exact iff_of_true (by constructor) id

end Order

/-! ## Unification -/

section Unification

variable {first second type : DataType}

/-- The types that are coercible both ways from two types which differ in their nullability only. -/
theorem isSafelyCoercibleFrom_getNullableVersion_iff :
    type.isSafelyCoercibleFrom first.getNullableVersion = true ↔
      type.isNullable = true ∧ type.isSafelyCoercibleFrom first = true := by
  rw [isSafelyCoercibleFrom_iff, isSafelyCoercibleFrom_iff, isNullable_getNullableVersion,
    getNullableVersion_eq_nullType_iff, widens_getNullableVersion_right]
  simp only [true_imp_iff]
  exact ⟨fun both => ⟨both.1, fun _ => both.1, both.2⟩, fun both => ⟨both.1, both.2.2⟩⟩

/-- A type that two types widen to is wider than one of them, or they are LONG and FLOAT. -/
theorem Widens.comparable (wider : type.Widens first) (wider' : type.Widens second) :
    first.Widens second ∨ second.Widens first ∨
      ∃ m n, first = .long m ∧ second = .float n ∨ first = .float m ∧ second = .long n := by
  cases wider with
  | @charChar _ m _ _ short =>
    cases wider' with
    | @charChar _ n _ _ short' =>
      rw [widens_char_char_iff, widens_char_char_iff]
      exact (BitVec.le_total n m).imp_right .inl
    | @charVarChar _ n _ _ short' =>
      rw [widens_char_varChar_iff, widens_varChar_char_iff]
      exact (BitVec.le_total n m).imp_right .inl
  | @charVarChar _ m _ _ short =>
    cases wider' with
    | @charChar _ n _ _ short' =>
      rw [widens_varChar_char_iff, widens_char_varChar_iff]
      exact (BitVec.le_total n m).imp_right .inl
    | @charVarChar _ n _ _ short' =>
      rw [widens_varChar_varChar_iff, widens_varChar_varChar_iff]
      exact (BitVec.le_total (n + 1) (m + 1)).imp_right .inl
  | @varCharChar _ m _ _ short =>
    cases wider' with
    | @varCharChar _ n _ _ short' =>
      rw [widens_char_char_iff, widens_char_char_iff]
      exact (BitVec.le_total n m).imp_right .inl
    | @varCharVarChar _ n _ _ short' =>
      rw [widens_char_varChar_iff, widens_varChar_char_iff]
      exact (BitVec.le_total n m).imp_right .inl
  | @varCharVarChar _ m _ _ short =>
    cases wider' with
    | @varCharChar _ n _ _ short' =>
      rw [widens_varChar_char_iff, widens_char_varChar_iff]
      exact (BitVec.le_total n m).imp_right .inl
    | @varCharVarChar _ n _ _ short' =>
      rw [widens_varChar_varChar_iff, widens_varChar_varChar_iff]
      exact (BitVec.le_total (n + 1) (m + 1)).imp_right .inl
  | int | longInt | long | floatInt | float | doubleInt | doubleLong | doubleFloat | double | date
  | datetime | datetimeInterval | yearMonthInterval =>
    cases wider' <;> first
      | exact .inl (by constructor)
      | exact .inr (.inl (by constructor))
      | exact .inr (.inr ⟨_, _, .inl ⟨rfl, rfl⟩⟩)
      | exact .inr (.inr ⟨_, _, .inr ⟨rfl, rfl⟩⟩)

/-- The version of a type that is unified. -/
def withNullability (nullable : Bool) (type : DataType) : DataType :=
  if nullable then type.getNullableVersion else type

theorem eq_long_of_withNullability {nullable m : Bool}
    (isLong : type.withNullability nullable = .long m) : ∃ n, type = .long n := by
  unfold withNullability at isLong
  cases nullable <;> cases type <;> cases isLong <;> exact ⟨_, rfl⟩

theorem eq_float_of_withNullability {nullable m : Bool}
    (isFloat : type.withNullability nullable = .float m) : ∃ n, type = .float n := by
  unfold withNullability at isFloat
  cases nullable <;> cases type <;> cases isFloat <;> exact ⟨_, rfl⟩

/-- Two types have the upper bounds of the versions that are unified. -/
theorem upperBound_iff :
    (type.isSafelyCoercibleFrom first = true ∧ type.isSafelyCoercibleFrom second = true) ↔
      type.isSafelyCoercibleFrom (first.withNullability (first.isNullable || second.isNullable)) =
          true ∧
        type.isSafelyCoercibleFrom (second.withNullability (first.isNullable || second.isNullable)) =
          true := by
  cases nullable : first.isNullable || second.isNullable with
  | false => exact Iff.rfl
  | true =>
    change _ ↔ type.isSafelyCoercibleFrom first.getNullableVersion = true ∧
      type.isSafelyCoercibleFrom second.getNullableVersion = true
    rw [isSafelyCoercibleFrom_getNullableVersion_iff, isSafelyCoercibleFrom_getNullableVersion_iff]
    constructor
    · rintro ⟨fromFirst, fromSecond⟩
      have isNullable : type.isNullable = true := by
        rcases Bool.or_eq_true_iff.mp nullable with firstNullable | secondNullable
        · exact (isSafelyCoercibleFrom_iff.mp fromFirst).1 firstNullable
        · exact (isSafelyCoercibleFrom_iff.mp fromSecond).1 secondNullable
      exact ⟨⟨isNullable, fromFirst⟩, isNullable, fromSecond⟩
    · rintro ⟨⟨-, fromFirst⟩, -, fromSecond⟩
      exact ⟨fromFirst, fromSecond⟩

/-- The versions that are unified have one nullability. -/
theorem isNullable_withNullability (first second : DataType) :
    (first.withNullability (first.isNullable || second.isNullable)).isNullable =
      (first.isNullable || second.isNullable) ∧
    (second.withNullability (first.isNullable || second.isNullable)).isNullable =
      (first.isNullable || second.isNullable) := by
  cases nullable : first.isNullable || second.isNullable with
  | false =>
    rw [Bool.or_eq_false_iff] at nullable
    exact nullable
  | true => exact ⟨isNullable_getNullableVersion first, isNullable_getNullableVersion second⟩

/-- Types of one nullability that have an upper bound are coercible one way, or are LONG and FLOAT. -/
theorem comparable_of_upperBound (nullability : first.isNullable = second.isNullable)
    (fromFirst : type.isSafelyCoercibleFrom first = true)
    (fromSecond : type.isSafelyCoercibleFrom second = true) :
    first.isSafelyCoercibleFrom second = true ∨ second.isSafelyCoercibleFrom first = true ∨
      ∃ m n, first = .long m ∧ second = .float n ∨ first = .float m ∧ second = .long n := by
  rw [isSafelyCoercibleFrom_iff, isSafelyCoercibleFrom_iff, nullability]
  rcases (isSafelyCoercibleFrom_iff.mp fromFirst).2 with firstNull | wider
  · exact .inr (.inl ⟨id, .inl firstNull⟩)
  rcases (isSafelyCoercibleFrom_iff.mp fromSecond).2 with secondNull | wider'
  · exact .inl ⟨id, .inl secondNull⟩
  rcases wider.comparable wider' with firstWider | secondWider | longFloat
  · exact .inl ⟨id, .inr firstWider⟩
  · exact .inr (.inl ⟨id, .inr secondWider⟩)
  · exact .inr (.inr longFloat)

end Unification

end DataType

section GetUnifyingType

open TypeFactory DataType

variable {first second unifier : DataType}

/-- A least upper bound, up to types that are coercible both ways. -/
structure LeastUpperBound (first second unifier : DataType) : Prop where
  upper : unifier.isSafelyCoercibleFrom first = true ∧ unifier.isSafelyCoercibleFrom second = true
  least : ∀ type : DataType, type.isSafelyCoercibleFrom first = true →
    type.isSafelyCoercibleFrom second = true → type.isSafelyCoercibleFrom unifier = true

/-- The more specific of two types is their least upper bound. -/
theorem leastUpperBound_of_getMostSpecificType
    (found : getMostSpecificType first second = some unifier) :
    LeastUpperBound first second unifier := by
  unfold getMostSpecificType at found
  split at found
  · rename_i fromSecond
    cases found
    exact ⟨⟨isSafelyCoercibleFrom_refl _, fromSecond⟩, fun _ fromFirst _ => fromFirst⟩
  · split at found
    · rename_i fromFirst
      cases found
      exact ⟨⟨fromFirst, isSafelyCoercibleFrom_refl _⟩, fun _ _ fromSecond => fromSecond⟩
    · cases found

/-- DOUBLE is the least type that holds a LONG and a FLOAT. -/
theorem leastUpperBound_double (nullable : Bool) :
    LeastUpperBound (.long nullable) (.float nullable) (.double nullable) := by
  refine ⟨?_, fun type fromLong fromFloat => ?_⟩
  · rw [isSafelyCoercibleFrom_iff, isSafelyCoercibleFrom_iff]
    exact ⟨⟨id, .inr .doubleLong⟩, id, .inr .doubleFloat⟩
  · obtain ⟨nulls, wide⟩ := isSafelyCoercibleFrom_iff.mp fromLong
    obtain ⟨-, wide'⟩ := isSafelyCoercibleFrom_iff.mp fromFloat
    refine isSafelyCoercibleFrom_iff.mpr ⟨nulls, .inr ?_⟩
    cases wide.resolve_left nofun with
    | long => cases wide'.resolve_left nofun
    | doubleLong => exact .double

theorem LeastUpperBound.symm (bound : LeastUpperBound first second unifier) :
    LeastUpperBound second first unifier :=
  ⟨bound.upper.symm, fun type fromSecond fromFirst => bound.least type fromFirst fromSecond⟩

/-- What is unified are the versions of one nullability. -/
theorem getUnifyingType_eq (first second : DataType) :
    getUnifyingType first second =
      match getMostSpecificType (first.withNullability (first.isNullable || second.isNullable))
        (second.withNullability (first.isNullable || second.isNullable)), first, second with
      | none, .long _, .float _ | none, .float _, .long _ =>
        some (.double (first.isNullable || second.isNullable))
      | unifier, _, _ => unifier := by
  unfold getUnifyingType withNullability
  cases first.isNullable || second.isNullable <;> rfl

/-- **`GetUnifyingType`** returns a least upper bound. -/
theorem leastUpperBound_of_getUnifyingType (found : getUnifyingType first second = some unifier) :
    LeastUpperBound first second unifier := by
  have versions : ∀ {unifier}, LeastUpperBound
      (first.withNullability (first.isNullable || second.isNullable))
      (second.withNullability (first.isNullable || second.isNullable)) unifier →
      LeastUpperBound first second unifier := by
    intro unifier bound
    refine ⟨upperBound_iff.mpr bound.upper, fun type fromFirst fromSecond => ?_⟩
    obtain ⟨fromFirst, fromSecond⟩ := upperBound_iff.mp ⟨fromFirst, fromSecond⟩
    exact bound.least type fromFirst fromSecond
  rw [getUnifyingType_eq] at found
  apply versions
  split at found
  · rename_i m n _
    cases found
    cases m <;> cases n <;> exact leastUpperBound_double _
  · rename_i m n _
    cases found
    cases m <;> cases n <;> exact (leastUpperBound_double _).symm
  · exact leastUpperBound_of_getMostSpecificType found

/-- There is a unifying type where there is an upper bound. -/
theorem isSome_getUnifyingType_iff :
    (getUnifyingType first second).isSome ↔
      ∃ type : DataType, type.isSafelyCoercibleFrom first = true ∧
        type.isSafelyCoercibleFrom second = true := by
  constructor
  · intro found
    obtain ⟨unifier, found⟩ := Option.isSome_iff_exists.mp found
    exact ⟨unifier, (leastUpperBound_of_getUnifyingType found).upper⟩
  · rintro ⟨type, fromBoth⟩
    obtain ⟨fromFirst, fromSecond⟩ := upperBound_iff.mp fromBoth
    obtain ⟨firstNullable, secondNullable⟩ := isNullable_withNullability first second
    have comparable := comparable_of_upperBound (firstNullable.trans secondNullable.symm) fromFirst
      fromSecond
    rw [getUnifyingType_eq]
    cases specific : getMostSpecificType
        (first.withNullability (first.isNullable || second.isNullable))
        (second.withNullability (first.isNullable || second.isNullable)) with
    | some unifier =>
      split
      · rfl
      · rfl
      · rfl
    | none =>
      unfold getMostSpecificType at specific
      rcases comparable with fromSecond | fromFirst | ⟨m, n, longFloat⟩
      · rw [if_pos fromSecond] at specific
        cases specific
      · rw [if_pos fromFirst] at specific
        split at specific
        · cases specific
        · cases specific
      · rcases longFloat with ⟨isLong, isFloat⟩ | ⟨isFloat, isLong⟩
        · obtain ⟨_, rfl⟩ := eq_long_of_withNullability isLong
          obtain ⟨_, rfl⟩ := eq_float_of_withNullability isFloat
          rfl
        · obtain ⟨_, rfl⟩ := eq_long_of_withNullability isLong
          obtain ⟨_, rfl⟩ := eq_float_of_withNullability isFloat
          rfl

/-- Least upper bounds are coercible both ways. -/
theorem LeastUpperBound.coercible {other : DataType} (bound : LeastUpperBound first second unifier)
    (otherBound : LeastUpperBound first second other) :
    unifier.isSafelyCoercibleFrom other = true :=
  otherBound.least unifier bound.upper.1 bound.upper.2

/-- What wraps around is safe step by step. -/
theorem WrapsAround.steps {type between original : DataType}
    (wraps : WrapsAround type between original) :
    type.isSafelyCoercibleFrom between = true ∧ between.isSafelyCoercibleFrom original = true := by
  obtain ⟨inner, outer, lengths⟩ := wraps
  rw [isSafelyCoercibleFrom_iff, isSafelyCoercibleFrom_iff, and_iff_right outer, and_iff_right inner]
  split at lengths
  · obtain ⟨rfl, -⟩ := lengths
    rw [widens_varChar_varChar_iff, widens_varChar_char_iff, length_add_one_le_iff]
    exact ⟨.inr (.inl rfl), .inr (le_allOnes _)⟩
  · obtain ⟨rfl, short, -⟩ := lengths
    rw [widens_varChar_varChar_iff, widens_char_varChar_iff, length_add_one_le_iff]
    exact ⟨.inr short, .inr (.inl rfl)⟩
  · obtain ⟨rfl, short, -⟩ := lengths
    rw [widens_varChar_char_iff, widens_char_varChar_iff]
    exact ⟨.inr (le_allOnes _), .inr short⟩
  · cases lengths

/-- Safe coercion step by step is safe as a whole except around the longest VARCHAR. -/
theorem isSafelyCoercibleFrom_trans_iff {type between original : DataType}
    (outer : type.isSafelyCoercibleFrom between = true)
    (inner : between.isSafelyCoercibleFrom original = true) :
    type.isSafelyCoercibleFrom original = true ↔ ¬WrapsAround type between original := by
  obtain ⟨outerNulls, outerWide⟩ := isSafelyCoercibleFrom_iff.mp outer
  obtain ⟨innerNulls, innerWide⟩ := isSafelyCoercibleFrom_iff.mp inner
  rw [isSafelyCoercibleFrom_iff, and_iff_right fun isNullable => outerNulls (innerNulls isNullable)]
  rcases innerWide with rfl | innerWide
  · refine iff_of_true (.inl rfl) ?_
    rintro ⟨-, -, lengths⟩
    split at lengths <;> contradiction
  · obtain ⟨betweenNotNull, originalNotNull⟩ := innerWide.ne_nullType
    rw [or_iff_right originalNotNull]
    exact (outerWide.resolve_left betweenNotNull).trans_iff innerWide ⟨innerNulls, outerNulls⟩

/-- **The types form a lattice** for three types exactly if they do not coerce around the longest
VARCHAR. -/
theorem typeLattice_iff (first second third : DataType) :
    LatticeLaws first second third ↔ ¬WrapsAround first second third := by
  constructor
  · intro laws wraps
    obtain ⟨outer, inner⟩ := wraps.steps
    exact (isSafelyCoercibleFrom_trans_iff outer inner).mp (laws.trans outer inner) wraps
  · intro straight
    refine ⟨isSafelyCoercibleFrom_refl first,
      fun outer inner => (isSafelyCoercibleFrom_trans_iff outer inner).mpr straight,
      isSome_getUnifyingType_iff,
      fun unifier found => (leastUpperBound_of_getUnifyingType found).upper,
      fun unifier found => (leastUpperBound_of_getUnifyingType found).least third,
      fun unifier swapped found found' => ?_⟩
    have bound := leastUpperBound_of_getUnifyingType found
    have swappedBound := (leastUpperBound_of_getUnifyingType found').symm
    exact ⟨bound.coercible swappedBound, swappedBound.coercible bound⟩

/-- The longest VARCHAR counts as shorter than all others. -/
theorem not_typeLattice : ¬∀ first second third : DataType, LatticeLaws first second third := by
  intro laws
  have safe := (laws (.varChar 3 false) (.varChar (BitVec.allOnes 64) false) (.char 10 false)).trans
    (by decide) (by decide)
  revert safe
  decide

end GetUnifyingType

end Quickstep.Types
