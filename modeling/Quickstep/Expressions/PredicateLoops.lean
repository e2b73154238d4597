import Quickstep.Expressions.NodeSoundness

/-!
# Conjunctions and disjunctions

The loops over the operands of a conjunction and of a disjunction. An operand of a conjunction gets the
candidates that the operands before it leave, one of a disjunction, under short circuit, those that none
of them has matched.
-/

namespace Quickstep.Expressions
open Quickstep.Common Quickstep.Types Quickstep.Lib TupleIdSequence

section Lists

variable {build : Build} {n : Nat} {read : Fin n → AttributeReader}
  {tuples candidates : List (Fin n)} {accessor : ValueAccessor n}
  {filter existenceMap : Option (TupleIdSequence n)}

/-- The candidates that an operand of a conjunction gets: the operands before it hold for them. -/
def conjunctCandidates (read : Fin n → AttributeReader) (operands : List PredicateMethods)
    (number : Nat) (candidates : List (Fin n)) : List (Fin n) :=
  candidates.filter fun t => (operands.take number).all fun p => p.matchesFor (read t)

theorem conjunctCandidates_zero {operands : List PredicateMethods} :
    conjunctCandidates read operands 0 candidates = candidates := by simp [conjunctCandidates]

theorem conjunctCandidates_succ {operand : PredicateMethods} {operands : List PredicateMethods}
    {number : Nat} :
    conjunctCandidates read (operand :: operands) (number + 1) candidates =
      conjunctCandidates read operands number
        (candidates.filter fun t => operand.matchesFor (read t)) := by
  unfold conjunctCandidates
  rw [List.filter_filter]
  refine List.filter_congr fun t _ => ?_
  rw [List.take_succ_cons, List.all_cons, Bool.and_comm]

section Conjunction

variable {operands : List PredicateMethods} {currentFilter : TupleIdSequence n}

theorem empty_iff_of_ids (ids : currentFilter.ids = candidates) :
    currentFilter.empty = true ↔ candidates = [] := by
  rw [empty_iff, ← ids, List.eq_nil_iff_forall_not_mem]
  exact forall_congr' fun t => not_congr mem_ids.symm

/-- One operand: the filter that it leaves. -/
theorem conjunction_step {operand : PredicateMethods} {operandResult : TupleIdSequence n}
    (selects : Selects read tuples candidates accessor (some currentFilter) existenceMap)
    (exact : ∀ t, t ∈ operandResult ↔ t ∈ candidates ∧ operand.matchesFor (read t) = true) :
    Selects read tuples (candidates.filter fun t => operand.matchesFor (read t)) accessor
      (some (currentFilter.intersectWith operandResult)) existenceMap := by
  apply selects.restrict
  intro t
  rw [mem_intersectWith, exact, selects.mem, candidate_filter]
  exact ⟨fun both => both.2, fun both => ⟨both.1, both⟩⟩

/-- **The loop of a conjunction** keeps the tuples of the current filter on which every operand
still to come holds. -/
theorem conjunctionLoop_eq
    (selects : Selects read tuples candidates accessor (some currentFilter) existenceMap)
    (agree : ∀ (number : Nat) (operand : PredicateMethods), operands[number]? = some operand →
      conjunctCandidates read operands number candidates ≠ [] →
      operand.AgreesOn build read tuples (conjunctCandidates read operands number candidates)) :
    ∃ result, conjunctionLoop build accessor existenceMap operands currentFilter = .ok result ∧
      ∀ t, t ∈ result ↔ t ∈ candidates ∧ ∀ p ∈ operands, p.matchesFor (read t) = true := by
  have ids : currentFilter.ids = candidates := selects.selected
  induction operands generalizing currentFilter candidates with
  | nil =>
    refine ⟨currentFilter, rfl, fun t => ?_⟩
    rw [← ids, mem_ids]
    simp
  | cons operand operands ih =>
    unfold conjunctionLoop
    split
    · rename_i empty
      refine ⟨currentFilter, rfl, fun t => ?_⟩
      have none := empty_iff.mp empty t
      rw [← ids, mem_ids]
      simp [none]
    · rename_i nonempty
      rw [empty_iff_of_ids ids] at nonempty
      have first := agree 0 operand rfl
      rw [conjunctCandidates_zero] at first
      obtain ⟨operandResult, ran, exact⟩ := first nonempty accessor _ existenceMap selects
      have next := conjunction_step selects exact
      rw [ran, Exec.ok_bind]
      obtain ⟨result, rest, kept⟩ := ih next (fun number later isLater => by
        rw [← conjunctCandidates_succ]
        exact agree (number + 1) later isLater) next.selected
      refine ⟨result, rest, fun t => ?_⟩
      rw [kept, List.mem_filter, List.forall_mem_cons, and_assoc]

/-- Where the loop has a result, all operands that it evaluates agree, if those do that have one. -/
theorem conjunctionLoop_returns
    (selects : Selects read tuples candidates accessor (some currentFilter) existenceMap)
    (returned : ∀ (number : Nat) (operand : PredicateMethods), operands[number]? = some operand →
      ∀ operandFilter, Selects read tuples (conjunctCandidates read operands number candidates)
        accessor (some operandFilter) existenceMap →
      (operand.getAllMatches build accessor (some operandFilter) existenceMap).Returns →
      operand.AgreesOn build read tuples (conjunctCandidates read operands number candidates))
    (returns : (conjunctionLoop build accessor existenceMap operands currentFilter).Returns)
    (number : Nat) (operand : PredicateMethods) (isOperand : operands[number]? = some operand)
    (nonempty : conjunctCandidates read operands number candidates ≠ []) :
    operand.AgreesOn build read tuples (conjunctCandidates read operands number candidates) := by
  have ids : currentFilter.ids = candidates := selects.selected
  induction operands generalizing currentFilter candidates number with
  | nil => simp at isOperand
  | cons head operands ih =>
    unfold conjunctionLoop at returns
    split at returns
    · rename_i empty
      have none := (empty_iff_of_ids ids).mp empty
      rw [none] at nonempty
      exact absurd rfl nonempty
    · obtain ⟨headResult, ran, later⟩ := returns.of_bind
      have headAgrees := returned 0 head rfl currentFilter (by rwa [conjunctCandidates_zero])
        ⟨headResult, ran⟩
      cases number with
      | zero =>
        cases isOperand
        exact headAgrees
      | succ number =>
        rw [conjunctCandidates_zero] at headAgrees
        obtain ⟨result, ranToo, exact⟩ := headAgrees accessor _ existenceMap selects
        obtain rfl : headResult = result := Except.ok.inj (ran.symm.trans ranToo)
        have next := conjunction_step selects exact
        rw [conjunctCandidates_succ] at nonempty ⊢
        refine ih next (fun number later isLater => ?_) later number isOperand nonempty next.selected
        rw [← conjunctCandidates_succ]
        exact returned (number + 1) later isLater

end Conjunction

theorem conjunctionPredicate_agrees {cached : StaticState} {operands : List PredicateMethods}
    (agree : cached.result? = none → ∀ (number : Nat) (operand : PredicateMethods),
      operands[number]? = some operand →
      conjunctCandidates read operands number candidates ≠ [] →
      operand.AgreesOn build read tuples (conjunctCandidates read operands number candidates)) :
    (conjunctionPredicate cached operands).AgreesOn build read tuples candidates := by
  intro accessor filter existenceMap selects
  unfold conjunctionPredicate
  cases static : cached.result? with
  | some result => exact static_allMatches selects fun _ => rfl
  | none =>
    obtain ⟨result, ran, exact⟩ := conjunctionLoop_eq selects.asFilter (agree static)
    refine ⟨result, ran, fun t => ?_⟩
    rw [exact, List.all_eq_true]

theorem conjunctionPredicate_returns {cached : StaticState} {operands : List PredicateMethods}
    (dynamic : cached.result? = none)
    (selects : Selects read tuples candidates accessor filter existenceMap)
    (returned : ∀ (number : Nat) (operand : PredicateMethods), operands[number]? = some operand →
      ∀ operandFilter, Selects read tuples (conjunctCandidates read operands number candidates)
        accessor operandFilter existenceMap →
      (operand.getAllMatches build accessor operandFilter existenceMap).Returns →
      operand.AgreesOn build read tuples (conjunctCandidates read operands number candidates))
    (returns : ((conjunctionPredicate cached operands).getAllMatches build accessor filter
      existenceMap).Returns)
    (number : Nat) (operand : PredicateMethods) (isOperand : operands[number]? = some operand)
    (nonempty : conjunctCandidates read operands number candidates ≠ []) :
    operand.AgreesOn build read tuples (conjunctCandidates read operands number candidates) := by
  unfold conjunctionPredicate at returns
  simp only [dynamic] at returns
  exact conjunctionLoop_returns selects.asFilter
    (fun number operand isOperand operandFilter => returned number operand isOperand (some operandFilter))
    returns number operand isOperand nonempty

/-- The candidates that no operand before holds for. -/
def unmatchedCandidates (read : Fin n → AttributeReader) (operands : List PredicateMethods)
    (number : Nat) (candidates : List (Fin n)) : List (Fin n) :=
  candidates.filter fun t => !(operands.take number).any fun p => p.matchesFor (read t)

theorem unmatchedCandidates_zero {operands : List PredicateMethods} :
    unmatchedCandidates read operands 0 candidates = candidates := by simp [unmatchedCandidates]

theorem unmatchedCandidates_succ {operand : PredicateMethods} {operands : List PredicateMethods}
    {number : Nat} :
    unmatchedCandidates read (operand :: operands) (number + 1) candidates =
      unmatchedCandidates read operands number
        (candidates.filter fun t => !operand.matchesFor (read t)) := by
  unfold unmatchedCandidates
  rw [List.filter_filter]
  refine List.filter_congr fun t _ => ?_
  rw [List.take_succ_cons, List.any_cons, Bool.not_or, Bool.and_comm]

/-- The candidates that an operand of a disjunction gets: only under short circuit those are left out
that an operand before it holds for. -/
def disjunctCandidates (build : Build) (read : Fin n → AttributeReader)
    (operands : List PredicateMethods) (number : Nat) (candidates : List (Fin n)) : List (Fin n) :=
  if build.vectorPredicateShortCircuit then unmatchedCandidates read operands number candidates
  else candidates

section Disjunction

variable {operands : List PredicateMethods} {unionResult currentFilter : TupleIdSequence n}
  {remaining : List (Fin n)}

/-- The loop of a disjunction between two operands. The current filter holds the candidates that no
operand has matched so far. -/
structure DisjunctionProgress (read : Fin n → AttributeReader) (tuples candidates : List (Fin n))
    (accessor : ValueAccessor n) (filter existenceMap : Option (TupleIdSequence n))
    (remaining : List (Fin n)) (unionResult currentFilter : TupleIdSequence n) : Prop where
  whole : Selects read tuples candidates accessor filter existenceMap
  current : Selects read tuples remaining accessor (some currentFilter) existenceMap
  unmatched : ∀ t, t ∈ remaining ↔ t ∈ candidates ∧ ¬ t ∈ unionResult

/-- What an operand gets in either build. -/
theorem DisjunctionProgress.selects
    (state : DisjunctionProgress read tuples candidates accessor filter existenceMap remaining unionResult
      currentFilter) (build : Build) :
    Selects read tuples (if build.vectorPredicateShortCircuit then remaining else candidates) accessor
      (if build.vectorPredicateShortCircuit then some currentFilter else filter) existenceMap := by
  cases build.vectorPredicateShortCircuit with
  | false => exact state.whole
  | true => exact state.current

/-- One operand: the union and the filter that it leaves. -/
theorem disjunction_step
    (state : DisjunctionProgress read tuples candidates accessor filter existenceMap remaining unionResult
      currentFilter) {operand : PredicateMethods} {operandResult : TupleIdSequence n}
    (exact : ∀ t, t ∈ operandResult ↔
      t ∈ (if build.vectorPredicateShortCircuit then remaining else candidates) ∧
        operand.matchesFor (read t) = true) :
    DisjunctionProgress read tuples candidates accessor filter existenceMap
        (remaining.filter fun t => !operand.matchesFor (read t)) (unionResult.unionWith operandResult)
        (currentFilter.intersectWith operandResult.invert) ∧
      ∀ t, t ∈ unionResult.unionWith operandResult ↔
        t ∈ unionResult ∨ t ∈ candidates ∧ operand.matchesFor (read t) = true := by
  have union (t) : t ∈ unionResult.unionWith operandResult ↔
      t ∈ unionResult ∨ t ∈ candidates ∧ operand.matchesFor (read t) = true := by
    rw [mem_unionWith, exact]
    by_cases matched : t ∈ unionResult
    · simp [matched]
    · cases build.vectorPredicateShortCircuit with
      | false => simp
      | true => simp [state.unmatched, matched]
  have left (t) : t ∈ operandResult → t ∈ candidates ∧ operand.matchesFor (read t) = true := by
    intro mem
    obtain ⟨candidate, holds⟩ := (exact t).mp mem
    refine ⟨?_, holds⟩
    split at candidate
    · exact ((state.unmatched t).mp candidate).1
    · exact candidate
  refine ⟨⟨state.whole, ?_, fun t => ?_⟩, union⟩
  · apply state.current.restrict
    intro t
    rw [mem_intersectWith, mem_invert, state.current.mem, candidate_filter, Bool.not_eq_true']
    refine and_congr_right fun inside => ?_
    have candidate : t ∈ remaining := state.current.mem.mpr inside
    rw [← Bool.not_eq_true]
    refine not_congr ⟨fun mem => (left t mem).2, fun holds => (exact t).mpr ⟨?_, holds⟩⟩
    split
    · exact candidate
    · exact ((state.unmatched t).mp candidate).1
  · rw [List.mem_filter, state.unmatched, union, Bool.not_eq_true', ← Bool.not_eq_true]
    constructor
    · rintro ⟨⟨candidate, fresh⟩, fails⟩
      refine ⟨candidate, ?_⟩
      rintro (matched | ⟨_, holds⟩)
      · exact fresh matched
      · exact fails holds
    · rintro ⟨candidate, fresh⟩
      exact ⟨⟨candidate, fun matched => fresh (.inl matched)⟩,
        fun holds => fresh (.inr ⟨candidate, holds⟩)⟩

/-- **The loop of a disjunction** adds the candidates on which some operand still to come holds. -/
theorem disjunctionLoop_eq
    (state : DisjunctionProgress read tuples candidates accessor filter existenceMap remaining unionResult
      currentFilter)
    (agree : ∀ (number : Nat) (operand : PredicateMethods), operands[number]? = some operand →
      operand.AgreesOn build read tuples
        (if build.vectorPredicateShortCircuit then unmatchedCandidates read operands number remaining
          else candidates)) :
    ∃ result, disjunctionLoop build accessor filter existenceMap operands unionResult currentFilter =
        .ok result ∧
      ∀ t, t ∈ result ↔ t ∈ unionResult ∨ t ∈ candidates ∧
        ∃ p ∈ operands, p.matchesFor (read t) = true := by
  induction operands generalizing unionResult currentFilter remaining with
  | nil => exact ⟨unionResult, rfl, fun t => by simp⟩
  | cons operand operands ih =>
    have first := agree 0 operand rfl
    rw [unmatchedCandidates_zero] at first
    obtain ⟨operandResult, ran, exact⟩ := first accessor _ existenceMap (state.selects build)
    obtain ⟨next, union⟩ := disjunction_step state exact
    unfold disjunctionLoop
    simp only [ran, Exec.ok_bind]
    obtain ⟨result, rest, added⟩ := ih next fun number later isLater => by
      rw [← unmatchedCandidates_succ]
      exact agree (number + 1) later isLater
    refine ⟨result, rest, fun t => ?_⟩
    simp only [added, union, List.mem_cons, exists_eq_or_imp, and_or_left, or_assoc]

/-- Where the loop has a result, all operands agree, if those do that have one. -/
theorem disjunctionLoop_returns
    (state : DisjunctionProgress read tuples candidates accessor filter existenceMap remaining unionResult
      currentFilter)
    (returned : ∀ (number : Nat) (operand : PredicateMethods), operands[number]? = some operand →
      let operandCandidates :=
        if build.vectorPredicateShortCircuit then unmatchedCandidates read operands number remaining
        else candidates
      ∀ operandFilter, Selects read tuples operandCandidates accessor operandFilter existenceMap →
      (operand.getAllMatches build accessor operandFilter existenceMap).Returns →
      operand.AgreesOn build read tuples operandCandidates)
    (returns : (disjunctionLoop build accessor filter existenceMap operands unionResult
      currentFilter).Returns)
    (number : Nat) (operand : PredicateMethods) (isOperand : operands[number]? = some operand) :
    operand.AgreesOn build read tuples
      (if build.vectorPredicateShortCircuit then unmatchedCandidates read operands number remaining
        else candidates) := by
  induction operands generalizing unionResult currentFilter remaining number with
  | nil => simp at isOperand
  | cons head operands ih =>
    unfold disjunctionLoop at returns
    obtain ⟨headResult, ran, later⟩ := returns.of_bind
    have headAgrees := returned 0 head rfl _
      (by rw [unmatchedCandidates_zero]; exact state.selects build) ⟨headResult, ran⟩
    cases number with
    | zero =>
      cases isOperand
      exact headAgrees
    | succ number =>
      rw [unmatchedCandidates_zero] at headAgrees
      obtain ⟨result, ranToo, exact⟩ := headAgrees accessor _ existenceMap (state.selects build)
      obtain rfl : headResult = result := Except.ok.inj (ran.symm.trans ranToo)
      obtain ⟨next, -⟩ := disjunction_step state exact
      rw [unmatchedCandidates_succ]
      refine ih next (fun number later isLater => ?_) later number isOperand
      rw [← unmatchedCandidates_succ]
      exact returned (number + 1) later isLater

end Disjunction

/-- Before the first operand nothing is matched. -/
theorem disjunctionState_create (selects : Selects read tuples candidates accessor filter existenceMap) :
    DisjunctionProgress read tuples candidates accessor filter existenceMap candidates (.create n)
      (assignFromCandidates filter existenceMap) where
  whole := selects
  current := selects.asFilter
  unmatched t := by simp

theorem disjunctionPredicate_agrees {cached : StaticState} {operands : List PredicateMethods}
    (agree : cached.result? = none → ∀ (number : Nat) (operand : PredicateMethods),
      operands[number]? = some operand →
      operand.AgreesOn build read tuples (disjunctCandidates build read operands number candidates)) :
    (disjunctionPredicate cached operands).AgreesOn build read tuples candidates := by
  intro accessor filter existenceMap selects
  unfold disjunctionPredicate
  cases static : cached.result? with
  | some result => exact static_allMatches selects fun _ => rfl
  | none =>
    obtain ⟨result, ran, exact⟩ := disjunctionLoop_eq (disjunctionState_create selects) (agree static)
    refine ⟨result, ran, fun t => ?_⟩
    rw [exact, List.any_eq_true]
    simp only [not_mem_create, false_or]

theorem disjunctionPredicate_returns {cached : StaticState} {operands : List PredicateMethods}
    (dynamic : cached.result? = none)
    (selects : Selects read tuples candidates accessor filter existenceMap)
    (returned : ∀ (number : Nat) (operand : PredicateMethods), operands[number]? = some operand →
      ∀ operandFilter,
        Selects read tuples (disjunctCandidates build read operands number candidates) accessor
          operandFilter existenceMap →
      (operand.getAllMatches build accessor operandFilter existenceMap).Returns →
      operand.AgreesOn build read tuples (disjunctCandidates build read operands number candidates))
    (returns : ((disjunctionPredicate cached operands).getAllMatches build accessor filter
      existenceMap).Returns)
    (number : Nat) (operand : PredicateMethods) (isOperand : operands[number]? = some operand) :
    operand.AgreesOn build read tuples (disjunctCandidates build read operands number candidates) := by
  unfold disjunctionPredicate at returns
  simp only [dynamic] at returns
  exact disjunctionLoop_returns (disjunctionState_create selects) returned returns number operand
    isOperand

end Lists

end Quickstep.Expressions
