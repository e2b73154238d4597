import Quickstep.Expressions.PredicateWithList

/-!
# Static folding in conjunctions and disjunctions

A predicate that `addPredicate` has built holds when all, or some, of its operands do. Its static
result is set as soon as a static operand decides it, and while no operand is dynamic.
-/

namespace Quickstep.Expressions
open Quickstep.Types Quickstep.Lib

/-- The predicates that constructors and runs of `addPredicate` build. -/
inductive Predicate.Built (ops : Operations) : Predicate → Prop where
  | truePredicate : Built ops .truePredicate
  | falsePredicate : Built ops .falsePredicate
  | comparison (comparison : ComparisonID) (leftOperand rightOperand : Scalar) :
    Built ops (.comparison comparison leftOperand rightOperand)
  | negation {operand : Predicate} : Built ops operand → Built ops (.negation operand)
  | conjunction {operands : List Predicate} : (∀ operand ∈ operands, Built ops operand) →
    Built ops (ConjunctionPredicate.toPredicate
      (operands.foldl (ConjunctionPredicate.addPredicate ops) ConjunctionPredicate.create))
  | disjunction {operands : List Predicate} : (∀ operand ∈ operands, Built ops operand) →
    Built ops (DisjunctionPredicate.toPredicate
      (operands.foldl (DisjunctionPredicate.addPredicate ops) DisjunctionPredicate.create))

/-! ## Operands that add nothing -/

section NothingAdded

variable {ops : Operations} {σ : Type} {processing : OperandProcessing σ}
  {sameKind : Predicate → Option (List Predicate × List Predicate)}

theorem addOperand_of_nothing {lists : OperandLists σ} {operand : Predicate}
    (nothing : addedOperands sameKind operand = []) :
    addOperand ops processing sameKind lists operand = lists := by
  unfold addedOperands at nothing
  unfold addOperand
  split
  · rename_i statics dynamics same
    rw [same] at nothing
    obtain ⟨noStatics, noDynamics⟩ := List.append_eq_nil_iff.mp nothing
    subst noStatics noDynamics
    simp
  · rename_i otherKind
    rw [otherKind] at nothing
    cases nothing

/-- Operands without operands of their own may be left out of a run. -/
theorem foldl_addOperand_filter (operands : List Predicate) (lists : OperandLists σ) :
    operands.foldl (addOperand ops processing sameKind) lists =
      (operands.filter fun operand => !(addedOperands sameKind operand).isEmpty).foldl
        (addOperand ops processing sameKind) lists := by
  induction operands generalizing lists with
  | nil => rfl
  | cons operand operands ih =>
    rw [List.foldl_cons, ih]
    cases added : (addedOperands sameKind operand).isEmpty with
    | true =>
      rw [List.filter_cons_of_neg (by simp [added]),
        addOperand_of_nothing (List.isEmpty_iff.mp added)]
    | false =>
      rw [List.filter_cons_of_pos (by simp [added])]
      rfl

end NothingAdded

/-! ## Nested predicates -/

namespace Predicate.Built

variable {ops : Operations} {p : Predicate}

/-- A conjunction stands for the operands in its lists. -/
theorem flattens_conjunction (built : p.Built ops) : ∀ statics dynamics,
    ConjunctionPredicate.sameKind p = some (statics, dynamics) →
      Flattens ops false p statics dynamics := by
  induction built with
  | truePredicate | falsePredicate | comparison _ _ _ | negation _ _ | disjunction _ _ => nofun
  | @conjunction operands _ ih =>
    intro statics dynamics same
    cases same
    exact ConjunctionPredicate.flattens_toPredicate
      (valid_foldl_addOperand ConjunctionPredicate.processing_follows ih
        ConjunctionPredicate.create_valid).1

/-- A disjunction stands for the operands in its lists, if it has any. -/
theorem flattens_disjunction (built : p.Built ops) : ∀ statics dynamics,
    DisjunctionPredicate.sameKind p = some (statics, dynamics) → statics ++ dynamics ≠ [] →
      Flattens ops true p statics dynamics := by
  induction built with
  | truePredicate | falsePredicate | comparison _ _ _ | negation _ _ | conjunction _ _ => nofun
  | @disjunction operands _ ih =>
    intro statics dynamics same nonempty
    cases same
    unfold DisjunctionPredicate.addPredicate at nonempty ⊢
    rw [foldl_addOperand_filter] at nonempty ⊢
    generalize isKept : (operands.filter fun operand =>
      !(addedOperands DisjunctionPredicate.sameKind operand).isEmpty) = kept at nonempty ⊢
    have keptAdd : ∀ operand ∈ kept,
        addedOperands DisjunctionPredicate.sameKind operand ≠ [] := by
      intro operand isOperand
      rw [← isKept] at isOperand
      simpa using (List.mem_filter.mp isOperand).2
    have flattens : ∀ operand ∈ kept, ∀ statics dynamics,
        DisjunctionPredicate.sameKind operand = some (statics, dynamics) →
          Flattens ops true operand statics dynamics := by
      intro operand isOperand statics dynamics same
      have added := keptAdd operand isOperand
      unfold addedOperands at added
      rw [same] at added
      rw [← isKept] at isOperand
      exact ih operand (List.mem_filter.mp isOperand).1 statics dynamics same added
    have someKept : kept ≠ [] := by
      rintro rfl
      exact nonempty rfl
    exact DisjunctionPredicate.flattens_toPredicate
      (valid_foldl_addOperand DisjunctionPredicate.processing_follows flattens
        DisjunctionPredicate.create_valid).1
      (DisjunctionPredicate.fresh_foldl_addPredicate someKept
        (keptAdd _ (List.getLast_mem someKept)))

end Predicate.Built

/-! ## What the run leaves -/

section Folded

variable {ops : Operations} {σ : Type} {absorbing : Bool} {result : σ → Option Bool}
  {lists : OperandLists σ}

theorem mem_staticResults {operands : List Predicate} {x : Option Bool} :
    x ∈ staticResults ops operands ↔
      ∃ operand ∈ operands, (operand.methods ops).staticResult = x := List.mem_map

/-- No operand of sorted lists is unknown when the dynamic list is empty. -/
theorem OperandLists.Valid.allKnown_iff (valid : lists.Valid ops absorbing result) :
    none ∉ staticResults ops lists.operands ↔ lists.dynamicOperandList = [] := by
  rw [mem_staticResults]
  constructor
  · intro allKnown
    apply List.eq_nil_iff_forall_not_mem.mpr
    intro operand isDynamic
    exact allKnown ⟨operand, List.mem_append_right _ isDynamic, valid.dynamics operand isDynamic⟩
  · rintro noDynamics ⟨operand, isOperand, unknown⟩
    unfold OperandLists.operands at isOperand
    rw [noDynamics, List.append_nil] at isOperand
    have static := valid.statics operand isOperand
    rw [unknown] at static
    cases static

/-- The cache is known when a static operand absorbs the others, and while none is dynamic. -/
theorem OperandLists.Valid.isSome_result_iff (valid : lists.Valid ops absorbing result)
    {operands : List Predicate}
    (same : kleene absorbing (staticResults ops lists.operands) =
      kleene absorbing (staticResults ops operands)) :
    (result lists.cached).isSome = true ↔
      (∃ operand ∈ operands, (operand.methods ops).staticResult = some absorbing) ∨
        lists.dynamicOperandList = [] := by
  rw [valid.result, isSome_kleene, valid.allKnown_iff, ← kleene_eq_absorbing, same,
    kleene_eq_absorbing, mem_staticResults]

/-- A known cache is the connective of the operands for every tuple. -/
theorem OperandLists.Valid.eq_of_result (valid : lists.Valid ops absorbing result)
    {operands : List Predicate} {read : AttributeReader}
    (same : connective absorbing (matchResults ops read lists.operands) =
      connective absorbing (matchResults ops read operands))
    {known : Bool} (isKnown : result lists.cached = some known) :
    known = connective absorbing (matchResults ops read operands) := by
  rw [← same, ← valid.matchesFor read, isKnown]

end Folded

theorem StaticState.isSome_result? (cached : StaticState) :
    cached.result?.isSome = cached.hasStaticResult := by
  unfold StaticState.result?
  cases cached.hasStaticResult <;> rfl

theorem StaticState.result?_of_hasStaticResult {cached : StaticState}
    (has : cached.hasStaticResult = true) : cached.result? = some cached.staticResult := if_pos has

theorem DisjunctionState.result_of_not_fresh {cached : DisjunctionState}
    (notFresh : cached.fresh = false) : cached.result = cached.toStaticState.result? := by
  unfold DisjunctionState.result
  rw [notFresh]
  rfl

/-- **Static folding.** A conjunction holds when all operands added do and a disjunction when some
do. The static result is set when an operand decides it and when no dynamic operand is left, and it
is then the result for every tuple. -/
theorem addPredicate_folds_statically (ops : Operations) {operands : List Predicate}
    (built : ∀ operand ∈ operands, operand.Built ops) (nonempty : operands ≠ []) :
    (let lists := operands.foldl (ConjunctionPredicate.addPredicate ops) ConjunctionPredicate.create
     (∀ read, ((ConjunctionPredicate.toPredicate lists).methods ops).matchesFor read =
        operands.all fun operand => (operand.methods ops).matchesFor read) ∧
      (lists.cached.hasStaticResult = true ↔
        (∃ operand ∈ operands, (operand.methods ops).staticResult = some false) ∨
          lists.dynamicOperandList = []) ∧
      (lists.cached.hasStaticResult = true → ∀ read, lists.cached.staticResult =
        operands.all fun operand => (operand.methods ops).matchesFor read)) ∧
    ((∀ operand ∈ operands, addedOperands DisjunctionPredicate.sameKind operand ≠ []) →
      let lists := operands.foldl (DisjunctionPredicate.addPredicate ops) DisjunctionPredicate.create
      (∀ read, ((DisjunctionPredicate.toPredicate lists).methods ops).matchesFor read =
        operands.any fun operand => (operand.methods ops).matchesFor read) ∧
      (lists.cached.hasStaticResult = true ↔
        (∃ operand ∈ operands, (operand.methods ops).staticResult = some true) ∨
          lists.dynamicOperandList = []) ∧
      (lists.cached.hasStaticResult = true → ∀ read, lists.cached.staticResult =
        operands.any fun operand => (operand.methods ops).matchesFor read)) := by
  constructor
  · intro lists
    obtain ⟨valid, static, holds⟩ :=
      valid_foldl_addOperand ConjunctionPredicate.processing_follows
        (fun operand isOperand => (built operand isOperand).flattens_conjunction)
        ConjunctionPredicate.create_valid
    have asAll (read : AttributeReader) : connective false (matchResults ops read operands) =
        operands.all fun operand => (operand.methods ops).matchesFor read := connective_false _ _
    have known := valid.isSome_result_iff static
    rw [StaticState.isSome_result?] at known
    refine ⟨fun read => ?_, known, fun has read => ?_⟩
    · have flat := (ConjunctionPredicate.flattens_toPredicate valid).matchesFor read
      exact flat.trans ((holds read).trans (asAll read))
    · rw [← asAll]
      exact valid.eq_of_result (holds read) (StaticState.result?_of_hasStaticResult has)
  · intro added lists
    have flattens : ∀ operand ∈ operands, ∀ statics dynamics,
        DisjunctionPredicate.sameKind operand = some (statics, dynamics) →
          Flattens ops true operand statics dynamics := by
      intro operand isOperand statics dynamics same
      have someAdded := added operand isOperand
      unfold addedOperands at someAdded
      rw [same] at someAdded
      exact (built operand isOperand).flattens_disjunction statics dynamics same someAdded
    obtain ⟨valid, static, holds⟩ :=
      valid_foldl_addOperand DisjunctionPredicate.processing_follows flattens
        DisjunctionPredicate.create_valid
    have notFresh : lists.cached.fresh = false :=
      DisjunctionPredicate.fresh_foldl_addPredicate nonempty
        (added _ (List.getLast_mem nonempty))
    have cached := DisjunctionState.result_of_not_fresh notFresh
    have asAny (read : AttributeReader) : connective true (matchResults ops read operands) =
        operands.any fun operand => (operand.methods ops).matchesFor read := connective_true _ _
    have known : lists.cached.result.isSome = true ↔
        (∃ operand ∈ operands, (operand.methods ops).staticResult = some true) ∨
          lists.dynamicOperandList = [] := valid.isSome_result_iff static
    rw [cached, StaticState.isSome_result?] at known
    refine ⟨fun read => ?_, known, fun has read => ?_⟩
    · have flat := (DisjunctionPredicate.flattens_toPredicate valid notFresh).matchesFor read
      exact flat.trans ((holds read).trans (asAny read))
    · rw [← asAny]
      exact valid.eq_of_result (holds read)
        (cached.trans (StaticState.result?_of_hasStaticResult has))

/-- A conjunction inside a conjunction, with a comparison that has no static result. -/
def nestedConjunction : Predicate :=
  ConjunctionPredicate.toPredicate ([isOne, .truePredicate].foldl
    (ConjunctionPredicate.addPredicate intOperations) ConjunctionPredicate.create)

theorem addPredicate_folds_statically_nested :
    ([nestedConjunction, .falsePredicate].foldl (ConjunctionPredicate.addPredicate intOperations)
      ConjunctionPredicate.create).cached.hasStaticResult = true ∧
    ¬ ([.falsePredicate, nestedConjunction].foldl (DisjunctionPredicate.addPredicate intOperations)
      DisjunctionPredicate.create).cached.hasStaticResult = true := by
  have nested : nestedConjunction.Built intOperations := by
    refine .conjunction fun operand isOperand => ?_
    rcases List.mem_pair.mp isOperand with rfl | rfl
    · exact .comparison _ _ _
    · exact .truePredicate
  constructor
  · have folds := addPredicate_folds_statically intOperations
      (List.forall_mem_cons.mpr ⟨nested, List.forall_mem_singleton.mpr .falsePredicate⟩)
      (List.cons_ne_nil _ _)
    exact folds.1.2.1.mpr (.inl ⟨.falsePredicate, by simp, rfl⟩)
  · have folds := addPredicate_folds_statically intOperations
      (List.forall_mem_cons.mpr ⟨.falsePredicate, List.forall_mem_singleton.mpr nested⟩)
      (List.cons_ne_nil _ _)
    have otherKind : ∀ operand ∈ [Predicate.falsePredicate, nestedConjunction],
        addedOperands DisjunctionPredicate.sameKind operand ≠ [] :=
      List.forall_mem_cons.mpr ⟨by decide, List.forall_mem_singleton.mpr (by decide)⟩
    rw [(folds.2 otherKind).2.1]
    decide

end Quickstep.Expressions
