import Mathlib.Data.List.Sort
import Quickstep.Common.TupleIdSequence
import Quickstep.Lib.WhileLoop

/-!
# Iterating a TupleIdSequence

A `ConstIterator` is a position found by bit searches in either direction. The length stands for
the end, and the largest `std::size_t` for the position before the first id.
-/

namespace Quickstep.Common
open Quickstep.Utility Quickstep.Lib

namespace TupleIdSequence

variable {n : Nat}

/-- An iterator of the sequence `s`, whose bit vector it points to. -/
structure ConstIterator (s : TupleIdSequence n) where
  currentPosition : Nat
  deriving DecidableEq

namespace ConstIterator

variable {s : TupleIdSequence n}

/-- `operator*`, under its debug assertion. -/
def deref (it : ConstIterator s) : Exec (Fin n) :=
  if inside : it.currentPosition < n then .ok ⟨it.currentPosition, inside⟩
  else .error .undefinedBehaviour

/-- `operator++`. The position is a `std::size_t`, which wraps before the first id. -/
def increment (it : ConstIterator s) : ConstIterator s where
  currentPosition :=
    let searchPos := (it.currentPosition + 1) % 2 ^ 64
    if searchPos < n then s.internalBitvector.firstOne searchPos else n

/-- `operator--`. -/
def decrement (it : ConstIterator s) : ConstIterator s where
  currentPosition :=
    let found := s.internalBitvector.lastOne it.currentPosition
    if found = n then BitVector.maxPosition else found

end ConstIterator

variable (s : TupleIdSequence n)

/-- `begin`. -/
def first : ConstIterator s := ⟨s.internalBitvector.firstOne 0⟩

def beforeBegin : ConstIterator s := ⟨BitVector.maxPosition⟩

/-- `end`. -/
def pastEnd : ConstIterator s := ⟨n⟩

/-- The state of a loop over the ids: the iterator, and the ids visited so far. -/
structure Visit where
  it : ConstIterator s
  visited : List (Fin n)

variable {s}

/-- The round of a loop: visit the id under the iterator, then move. -/
def Visit.round (move : ConstIterator s → ConstIterator s) (state : Visit s) : Exec (Visit s) := do
  let id ← state.it.deref
  pure ⟨move state.it, state.visited ++ [id]⟩

/-- `it != stop`. -/
def Visit.continues (stop : ConstIterator s) (state : Visit s) : Exec Bool :=
  .ok (decide (state.it ≠ stop))

/-! ## Searches and ids -/

theorem ids_sorted (s : TupleIdSequence n) : s.ids.Pairwise (· < ·) :=
  (List.pairwise_lt_finRange n).filter _

theorem mem_ids_iff_getBit {t : Fin n} : t ∈ s.ids ↔ s.internalBitvector.getBit t = true := mem_ids

/-- The ids at or behind a position, as a search from it finds them. -/
theorem ids_from_found {start r : Nat} (inside : r < n)
    (found : FirstAt s.internalBitvector.getBit start n n r) :
    s.ids.filter (fun t => start ≤ t.val) =
      ⟨r, inside⟩ :: s.ids.filter (fun t => r + 1 ≤ t.val) := by
  obtain ⟨lower, _, set, before⟩ | ⟨missing, _⟩ := found
  · refine List.Pairwise.eq_of_mem_iff (s.ids_sorted.filter _) ?_ fun t => ?_
    · refine List.pairwise_cons.mpr ⟨fun t later => ?_, s.ids_sorted.filter _⟩
      exact Fin.lt_def.mpr (of_decide_eq_true (List.mem_filter.mp later).2)
    · rw [List.mem_cons, List.mem_filter, List.mem_filter, decide_eq_true_eq, decide_eq_true_eq,
        mem_ids_iff_getBit, Fin.ext_iff]
      constructor
      · rintro ⟨isSet, behind⟩
        by_cases same : t.val = r
        · exact .inl same
        · refine .inr ⟨isSet, Nat.lt_of_not_le fun early => ?_⟩
          rw [before t behind (by omega)] at isSet
          cases isSet
      · rintro (same | ⟨isSet, behind⟩)
        · rw [same]
          exact ⟨set, lower⟩
        · exact ⟨isSet, by omega⟩
  · omega

theorem ids_from_missing {start : Nat}
    (found : FirstAt s.internalBitvector.getBit start n n n) :
    s.ids.filter (fun t => start ≤ t.val) = [] := by
  have none := found.eq_stop_iff.mp rfl
  refine List.filter_eq_nil_iff.mpr fun t isId behind => ?_
  have isSet := mem_ids_iff_getBit.mp isId
  rw [none t (of_decide_eq_true behind) t.isLt] at isSet
  cases isSet

/-- The ids in front of a position, as a search back from it finds them. -/
theorem ids_before_found {stop r : Nat} (inside : r < n)
    (found : LastAt s.internalBitvector.getBit stop n r) :
    s.ids.filter (fun t => t.val < stop) =
      s.ids.filter (fun t => t.val < r) ++ [⟨r, inside⟩] := by
  obtain ⟨upper, set, behind⟩ | ⟨missing, _⟩ := found
  · refine List.Pairwise.eq_of_mem_iff (s.ids_sorted.filter _) ?_ fun t => ?_
    · refine List.pairwise_append.mpr
        ⟨s.ids_sorted.filter _, List.pairwise_singleton _ _, fun t earlier u last => ?_⟩
      rw [List.mem_singleton.mp last]
      exact Fin.lt_def.mpr (of_decide_eq_true (List.mem_filter.mp earlier).2)
    · rw [List.mem_append, List.mem_filter, List.mem_filter, List.mem_singleton, decide_eq_true_eq,
        decide_eq_true_eq, mem_ids_iff_getBit, Fin.ext_iff]
      constructor
      · rintro ⟨isSet, before⟩
        by_cases same : t.val = r
        · exact .inr same
        · refine .inl ⟨isSet, Nat.lt_of_not_le fun late => ?_⟩
          rw [behind t (by omega) before] at isSet
          cases isSet
      · rintro (⟨isSet, before⟩ | same)
        · exact ⟨isSet, by omega⟩
        · rw [same]
          exact ⟨set, upper⟩
  · omega

theorem ids_before_missing {stop : Nat} (fits : stop ≤ n)
    (found : LastAt s.internalBitvector.getBit stop n n) :
    s.ids.filter (fun t => t.val < stop) = [] := by
  obtain ⟨upper, _, _⟩ | ⟨_, none⟩ := found
  · omega
  · refine List.filter_eq_nil_iff.mpr fun t isId before => ?_
    have isSet := mem_ids_iff_getBit.mp isId
    rw [none t (of_decide_eq_true before)] at isSet
    cases isSet

/-! ## Moving -/

namespace ConstIterator

/-- The iterator is where a search from `start` on ends. -/
def IsFirstFrom (it : ConstIterator s) (start : Nat) : Prop :=
  FirstAt s.internalBitvector.getBit start n n it.currentPosition

/-- The iterator is where a search back from `stop` ends, or before the first id. -/
def IsLastBefore (it : ConstIterator s) (stop : Nat) : Prop :=
  ∃ r, LastAt s.internalBitvector.getBit stop n r ∧
    it.currentPosition = if r = n then BitVector.maxPosition else r

theorem first_isFirstFrom : s.first.IsFirstFrom 0 := BitVector.firstOne_zero_firstAt s.clean

/-- From before the first id, `++` wraps and searches the whole sequence. -/
theorem beforeBegin_increment_isFirstFrom : s.beforeBegin.increment.IsFirstFrom 0 := by
  have wraps : (BitVector.maxPosition + 1) % 2 ^ 64 = 0 := rfl
  simp only [IsFirstFrom, increment, beforeBegin, wraps]
  split
  · exact BitVector.firstOne_zero_firstAt s.clean
  · exact .inr ⟨rfl, fun i lower upper => by omega⟩

/-- From an id, `++` searches behind it. -/
theorem increment_isFirstFrom {it : ConstIterator s} (length : n < 2 ^ 31)
    (inside : it.currentPosition < n) : it.increment.IsFirstFrom (it.currentPosition + 1) := by
  have noWrap : (it.currentPosition + 1) % 2 ^ 64 = it.currentPosition + 1 :=
    Nat.mod_eq_of_lt (by omega)
  simp only [IsFirstFrom, increment, noWrap]
  split
  · rename_i searched
    exact BitVector.firstOne_firstAt s.clean searched
  · exact .inr ⟨rfl, fun i lower upper => by omega⟩

/-- `--` searches in front of the position. -/
theorem decrement_isLastBefore {it : ConstIterator s} (length : n < 2 ^ 31)
    (inside : it.currentPosition ≤ n) : it.decrement.IsLastBefore it.currentPosition := by
  have searched := @BitVector.lastOne_lastAt false n s.internalBitvector it.currentPosition
    (.inl inside)
  rw [if_neg (by simp only [BitVector.maxPosition]; omega)] at searched
  exact ⟨_, searched, rfl⟩

theorem deref_eq {it : ConstIterator s} (inside : it.currentPosition < n) :
    it.deref = .ok ⟨it.currentPosition, inside⟩ := dif_pos inside

end ConstIterator

theorem Visit.round_eq {move : ConstIterator s → ConstIterator s} {state : Visit s}
    (inside : state.it.currentPosition < n) :
    state.round move =
      .ok ⟨move state.it, state.visited ++ [⟨state.it.currentPosition, inside⟩]⟩ := by
  rw [round, ConstIterator.deref_eq inside]
  rfl

/-- **The forward loop** from any search position visits the ids at or behind it. -/
theorem forward_ends (length : n < 2 ^ 31) {start : Nat} {it : ConstIterator s}
    (found : it.IsFirstFrom start) (visited : List (Fin n)) :
    Ends (Visit.continues s.pastEnd) (Visit.round ConstIterator.increment) ⟨it, visited⟩
      ⟨s.pastEnd, visited ++ s.ids.filter fun t => start ≤ t.val⟩ := by
  generalize remaining : s.ids.filter (fun t => start ≤ t.val) = rest
  induction rest generalizing start it visited with
  | nil =>
    have missing : it.currentPosition = n := by
      refine Nat.le_antisymm found.le_stop (Nat.le_of_not_lt fun inside => ?_)
      rw [ids_from_found inside found] at remaining
      cases remaining
    have atEnd : it = s.pastEnd := by
      cases it
      exact congrArg ConstIterator.mk missing
    rw [List.append_nil, atEnd]
    exact .exit (by simp [Visit.continues])
  | cons t rest ih =>
    have inside : it.currentPosition < n := by
      refine Nat.lt_of_le_of_ne found.le_stop fun missing => ?_
      rw [ConstIterator.IsFirstFrom, missing] at found
      rw [ids_from_missing found] at remaining
      cases remaining
    rw [ids_from_found inside found] at remaining
    obtain ⟨here, later⟩ := List.cons_eq_cons.mp remaining
    have again : it ≠ s.pastEnd := by
      rintro rfl
      exact Nat.lt_irrefl n inside
    have next := ih (ConstIterator.increment_isFirstFrom length inside) (visited ++ [t]) later
    rw [List.append_assoc, List.singleton_append] at next
    refine .round (by simp [Visit.continues, again]) (Visit.round_eq inside) ?_
    rwa [here]

/-- **The backward loop** from any search position visits the ids in front of it, last one first. -/
theorem backward_ends (length : n < 2 ^ 31) {stop : Nat} (fits : stop ≤ n) {it : ConstIterator s}
    (found : it.IsLastBefore stop) (visited : List (Fin n)) :
    Ends (Visit.continues s.beforeBegin) (Visit.round ConstIterator.decrement) ⟨it, visited⟩
      ⟨s.beforeBegin, visited ++ (s.ids.filter fun t => t.val < stop).reverse⟩ := by
  induction stop using Nat.strongRecOn generalizing it visited with
  | ind stop ih =>
    obtain ⟨r, search, position⟩ := found
    by_cases missing : r = n
    · have atBegin : it = s.beforeBegin := by
        cases it
        rw [if_pos missing] at position
        exact congrArg ConstIterator.mk position
      rw [missing] at search
      rw [ids_before_missing fits search, List.reverse_nil, List.append_nil, atBegin]
      exact .exit (by simp [Visit.continues])
    · rw [if_neg missing] at position
      have inFront := search.lt_stop missing
      have inside : it.currentPosition < n := by omega
      have again : it ≠ s.beforeBegin := by
        rintro rfl
        simp only [beforeBegin, BitVector.maxPosition] at inside
        omega
      have back := ConstIterator.decrement_isLastBefore length (Nat.le_of_lt inside)
      rw [position] at back
      have next := ih r inFront (by omega) back (visited ++ [⟨r, by omega⟩])
      rw [List.append_assoc, List.singleton_append] at next
      rw [ids_before_found (by omega) search, List.reverse_append, List.reverse_singleton,
        List.singleton_append]
      refine .round (by simp [Visit.continues, again]) (Visit.round_eq inside) ?_
      simpa only [position] using next

/-- Going back from the next id leads to the id before it. -/
theorem decrement_increment (length : n < 2 ^ 31) {it : ConstIterator s}
    (inside : it.currentPosition < n)
    (isId : s.internalBitvector.getBit it.currentPosition = true)
    (nextInside : it.increment.currentPosition < n) : it.increment.decrement = it := by
  have next := ConstIterator.increment_isFirstFrom length inside
  obtain ⟨r, search, position⟩ :=
    ConstIterator.decrement_isLastBefore length (Nat.le_of_lt nextInside)
  have same : r = it.currentPosition := by
    rcases next with ⟨behind, _, _, between⟩ | ⟨missing, _⟩
    · rcases search with ⟨before, found, gap⟩ | ⟨_, none⟩
      · by_contra other
        by_cases early : r < it.currentPosition
        · rw [gap _ early (by omega)] at isId
          cases isId
        · rw [between r (by omega) before] at found
          cases found
      · rw [none _ (by omega)] at isId
        cases isId
    · omega
  rw [if_neg (by omega), same] at position
  cases it
  exact congrArg ConstIterator.mk position

/-- **Iteration visits the ids.** The forward loop visits the ids of the sequence in ascending
order, the backward loop from the last id in the reverse order, and `--` undoes `++` between two
ids. -/
theorem iteration_visits_ids (s : TupleIdSequence n) (length : n < 2 ^ 31) :
    (s.ids.Pairwise (· < ·) ∧ ∀ t, t ∈ s.ids ↔ s.get t = true) ∧
    Ends (Visit.continues s.pastEnd) (Visit.round ConstIterator.increment) ⟨s.first, []⟩
      ⟨s.pastEnd, s.ids⟩ ∧
    (∀ last ∈ s.ids.getLast?, s.pastEnd.decrement = ⟨last.val⟩) ∧
    Ends (Visit.continues s.beforeBegin) (Visit.round ConstIterator.decrement)
      ⟨s.pastEnd.decrement, []⟩ ⟨s.beforeBegin, s.ids.reverse⟩ ∧
    ∀ it : ConstIterator s, (∃ t ∈ s.ids, it.currentPosition = t.val) →
      (∃ t ∈ s.ids, it.increment.currentPosition = t.val) → it.increment.decrement = it := by
  have every : s.ids.filter (fun t => 0 ≤ t.val) = s.ids := by simp
  have before : s.ids.filter (fun t => t.val < n) = s.ids := by simp
  have back : s.pastEnd.decrement.IsLastBefore n :=
    ConstIterator.decrement_isLastBefore length (Nat.le_refl n)
  refine ⟨⟨s.ids_sorted, fun t => mem_ids⟩, ?_, ?_, ?_, ?_⟩
  · have visits := forward_ends length (ConstIterator.first_isFirstFrom (s := s)) []
    rwa [every] at visits
  · intro last isLast
    obtain ⟨r, search, position⟩ := back
    by_cases missing : r = n
    · rw [missing] at search
      rw [← before, ids_before_missing (Nat.le_refl n) search] at isLast
      cases isLast
    · rw [if_neg missing] at position
      have inside := search.lt_stop missing
      rw [← before, ids_before_found inside search, List.getLast?_concat] at isLast
      have same : ⟨r, inside⟩ = last := Option.some.inj isLast
      rw [← same]
      exact congrArg ConstIterator.mk position
  · have visits := backward_ends length (Nat.le_refl n) back []
    rwa [before] at visits
  · rintro it ⟨t, isId, here⟩ ⟨u, _, there⟩
    refine decrement_increment length (by omega) ?_ (by omega)
    rw [here]
    exact mem_ids_iff_getBit.mp isId

/-- Four slots, the second and the last of them set. -/
def twoOfFour : TupleIdSequence 4 := ((create 4).set 1 true).set 3 true

theorem iteration_visits_ids_twoOfFour :
    Ends (Visit.continues twoOfFour.pastEnd) (Visit.round ConstIterator.increment)
      ⟨twoOfFour.first, []⟩ ⟨twoOfFour.pastEnd, [1, 3]⟩ := by
  have ids : twoOfFour.ids = [1, 3] := by decide
  have visits := (iteration_visits_ids twoOfFour (by decide)).2.1
  rwa [ids] at visits

end TupleIdSequence

end Quickstep.Common
