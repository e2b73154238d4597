import Quickstep.Utility.BitVectorTests

/-!
# TupleIdSequence

The class of `common/TupleIdSequence.hpp`: a set of tuple ids below a fixed length, kept in a
`BitVector<false>`. Zero padding is part of the value, so `empty` and the iterators, which look
at whole words, agree with the bits below the length.
-/

namespace Quickstep.Common
open Quickstep.Utility

/-- The tuple ids below `n` whose bits are set. -/
structure TupleIdSequence (n : Nat) where
  internalBitvector : BitVector false n
  clean : internalBitvector.PaddingZero

namespace TupleIdSequence

variable {n : Nat}

/-- A new sequence is cleared storage. -/
def create (n : Nat) : TupleIdSequence n where
  internalBitvector := (BitVector.regular (BitVector.not_shortVersion_false n) fun _ => 0#64).clear
  clean := Built.paddingZero (Built.cleared _)

def get (s : TupleIdSequence n) (tuple : Fin n) : Bool := s.internalBitvector.getBit tuple

def set (s : TupleIdSequence n) (tuple : Fin n) (value : Bool) : TupleIdSequence n where
  internalBitvector := s.internalBitvector.setBit tuple value
  clean := Call.paddingZero_apply s.clean (.setBit tuple value) tuple.isLt trivial nofun

/-- `setRange` of every slot. -/
def setAll (s : TupleIdSequence n) (value : Bool) : TupleIdSequence n where
  internalBitvector :=
    if 0 < n then s.internalBitvector.setBitRange 0 n value else s.internalBitvector
  clean := by
    split
    · rename_i nonempty
      exact Call.paddingZero_apply s.clean (.setBitRange 0 n value)
        ⟨.inl nonempty, by omega⟩ trivial nofun
    · exact s.clean

def empty (s : TupleIdSequence n) : Bool := !s.internalBitvector.any

def invert (s : TupleIdSequence n) : TupleIdSequence n where
  internalBitvector := s.internalBitvector.flipBits
  clean := Call.paddingZero_apply s.clean .flipBits trivial trivial nofun

def intersectWith (s other : TupleIdSequence n) : TupleIdSequence n where
  internalBitvector := s.internalBitvector.intersectWith other.internalBitvector
  clean := Call.paddingZero_apply s.clean (.intersectWith other.internalBitvector) trivial trivial
    fun _ _ same => by
      cases same
      exact other.clean

def unionWith (s other : TupleIdSequence n) : TupleIdSequence n where
  internalBitvector := s.internalBitvector.unionWith other.internalBitvector
  clean := Call.paddingZero_apply s.clean (.unionWith other.internalBitvector) trivial trivial
    fun _ _ same => by
      cases same
      exact other.clean

def intersectWithComplement (s other : TupleIdSequence n) : TupleIdSequence n where
  internalBitvector := s.internalBitvector.unsetFrom other.internalBitvector
  clean := Call.paddingZero_apply s.clean (.unsetFrom n other.internalBitvector) rfl trivial
    fun _ _ same => by
      cases same
      exact other.clean

/-! ## The set of ids -/

instance : Membership (Fin n) (TupleIdSequence n) where
  mem s tuple := s.get tuple = true

instance (s : TupleIdSequence n) (t : Fin n) : Decidable (t ∈ s) :=
  inferInstanceAs (Decidable (s.get t = true))

theorem mem_iff_get {s : TupleIdSequence n} {t : Fin n} : t ∈ s ↔ s.get t = true := Iff.rfl

theorem get_eq (s : TupleIdSequence n) (t : Fin n) : s.get t = s.internalBitvector.storedBit t :=
  BitVector.getBit_eq _ _

@[simp] theorem not_mem_create (t : Fin n) : ¬ t ∈ create n := by
  rw [mem_iff_get, get_eq, create, BitVector.storedBit_clear (BitVector.lt_storage t.isLt)]
  exact Bool.false_ne_true

@[simp] theorem mem_set {s : TupleIdSequence n} {k t : Fin n} {value : Bool} :
    t ∈ s.set k value ↔ if t = k then value = true else t ∈ s := by
  rw [mem_iff_get, get_eq, set,
    BitVector.storedBit_setBit (BitVector.lt_storage t.isLt), mem_iff_get, get_eq]
  simp only [Fin.ext_iff]
  split <;> rfl

@[simp] theorem mem_setAll {s : TupleIdSequence n} {t : Fin n} {value : Bool} :
    t ∈ s.setAll value ↔ value = true := by
  have nonempty : 0 < n := by have := t.isLt; omega
  rw [mem_iff_get, get_eq, setAll]
  simp only [if_pos nonempty]
  rw [BitVector.storedBit_setBitRange (BitVector.lt_storage t.isLt), if_pos (by omega)]

@[simp] theorem mem_invert {s : TupleIdSequence n} {t : Fin n} : t ∈ s.invert ↔ ¬ t ∈ s := by
  rw [mem_iff_get, get_eq, invert,
    BitVector.storedBit_flipBits (BitVector.lt_storage t.isLt), decide_eq_true t.isLt,
    Bool.and_true, mem_iff_get, get_eq, Bool.not_eq_true', Bool.not_eq_true]

@[simp] theorem mem_intersectWith {s other : TupleIdSequence n} {t : Fin n} :
    t ∈ s.intersectWith other ↔ t ∈ s ∧ t ∈ other := by
  simp only [mem_iff_get, get_eq, intersectWith,
    BitVector.storedBit_intersectWith (BitVector.lt_storage t.isLt), Bool.and_eq_true]

@[simp] theorem mem_unionWith {s other : TupleIdSequence n} {t : Fin n} :
    t ∈ s.unionWith other ↔ t ∈ s ∨ t ∈ other := by
  simp only [mem_iff_get, get_eq, unionWith,
    BitVector.storedBit_unionWith (BitVector.lt_storage t.isLt), Bool.or_eq_true]

@[simp] theorem mem_intersectWithComplement {s other : TupleIdSequence n} {t : Fin n} :
    t ∈ s.intersectWithComplement other ↔ t ∈ s ∧ ¬ t ∈ other := by
  have stored := BitVector.lt_storage (e := false) t.isLt
  simp only [mem_iff_get, get_eq, intersectWithComplement,
    BitVector.storedBit_unsetFrom _ _ stored, decide_eq_true stored, Bool.true_and,
    Bool.and_eq_true, Bool.not_eq_true', Bool.not_eq_true]

theorem empty_iff {s : TupleIdSequence n} : s.empty = true ↔ ∀ t, ¬ t ∈ s := by
  cases s with
  | mk vector clean =>
    cases vector with
    | short h word => exact absurd h (BitVector.not_shortVersion_false n)
    | regular h data =>
      rw [empty, Bool.not_eq_true', Bool.eq_false_iff, ne_eq, BitVector.any_regular clean]
      simp only [mem_iff_get, get_eq, BitVector.storedBit, not_exists, not_and]
      exact ⟨fun none t => none t t.isLt, fun none i below => none ⟨i, below⟩⟩

/-- The ids that iteration visits, in order. -/
def ids (s : TupleIdSequence n) : List (Fin n) := (List.finRange n).filter s.get

/-- `numTuples`, the count of set bits. -/
def numTuples (s : TupleIdSequence n) : Nat := s.ids.length

@[simp] theorem mem_ids {s : TupleIdSequence n} {t : Fin n} : t ∈ s.ids ↔ t ∈ s := by
  simp [ids, mem_iff_get]

/-- Iteration depends on the set of ids alone. -/
theorem ids_congr {s other : TupleIdSequence n} (same : ∀ t, t ∈ s ↔ t ∈ other) :
    s.ids = other.ids :=
  List.filter_congr fun t _ => Bool.eq_iff_iff.mpr (same t)

/-- A subset is iterated by skipping the other ids. -/
theorem ids_of_subset {s other : TupleIdSequence n} (subset : ∀ t, t ∈ s → t ∈ other) :
    s.ids = other.ids.filter s.get := by
  unfold ids
  rw [List.filter_filter]
  refine List.filter_congr fun t _ => ?_
  cases here : s.get t with
  | false => rfl
  | true => exact (subset t here).symm

/-! ## Optional sequences -/

/-- The ids iterated for an optional existence map: all of them without one. -/
def iterated (existenceMap : Option (TupleIdSequence n)) : List (Fin n) :=
  match existenceMap with
  | some existenceMap => existenceMap.ids
  | none => List.finRange n

/-- The ids a vectorised evaluation looks at: those of the filter if there is one, otherwise those
of the existence map if there is one, otherwise all. -/
def Candidate (filter existenceMap : Option (TupleIdSequence n)) (t : Fin n) : Prop :=
  match filter, existenceMap with
  | some filter, _ => t ∈ filter
  | none, some existenceMap => t ∈ existenceMap
  | none, none => True

/-- A filter names existing tuples only. -/
def Within (filter existenceMap : Option (TupleIdSequence n)) : Prop :=
  ∀ f e, filter = some f → existenceMap = some e → ∀ t, t ∈ f → t ∈ e

@[simp] theorem candidate_filter {filter : TupleIdSequence n}
    {existenceMap : Option (TupleIdSequence n)} {t : Fin n} :
    Candidate (some filter) existenceMap t ↔ t ∈ filter := Iff.rfl

theorem mem_iterated {existenceMap : Option (TupleIdSequence n)} {t : Fin n} :
    t ∈ iterated existenceMap ↔ Candidate none existenceMap t := by
  cases existenceMap with
  | none => simp [iterated, Candidate]
  | some existenceMap => simp [iterated, Candidate]

/-- A candidate exists. -/
theorem Candidate.exists_of_within {filter existenceMap : Option (TupleIdSequence n)} {t : Fin n}
    (candidate : Candidate filter existenceMap t) (within : Within filter existenceMap) :
    Candidate none existenceMap t := by
  cases filter with
  | none => exact candidate
  | some f =>
    cases existenceMap with
    | none => trivial
    | some e => exact within f e rfl rfl t candidate

end TupleIdSequence

end Quickstep.Common
