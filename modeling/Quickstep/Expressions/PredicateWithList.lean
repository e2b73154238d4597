import Quickstep.Expressions.ExpressionTree
import Quickstep.Lib.KleeneLogic

/-!
# Building conjunctions and disjunctions

`addPredicate` sorts its operand into one of two lists, flattens an operand of its own kind, and
keeps the static result of the whole up to date. That result is the connective of the static results
of all operands in three-valued logic.
-/

namespace Quickstep.Expressions
open Quickstep.Types Quickstep.Lib

/-- The lists of a `PredicateWithList`, next to what it caches. -/
structure OperandLists (σ : Type) where
  cached : σ
  staticOperandList : List Predicate
  dynamicOperandList : List Predicate

namespace OperandLists

variable {σ : Type}

def operands (lists : OperandLists σ) : List Predicate :=
  lists.staticOperandList ++ lists.dynamicOperandList

end OperandLists

/-- How the cache follows the operands, which conjunctions and disjunctions do differently. -/
structure OperandProcessing (σ : Type) where
  processStaticOperand : σ → Bool → σ
  processDynamicOperand : σ → σ

section AddPredicate

variable (ops : Operations) {σ : Type} (processing : OperandProcessing σ)

def hasStaticResult (operand : Predicate) : Bool := (operand.methods ops).staticResult.isSome

/-- A fatal error without a static result. -/
def getStaticResult (operand : Predicate) : Bool := (operand.methods ops).staticResult.getD false

/-- The body that both `addPredicate` share. An operand of the same kind gives its lists, whose
dynamic operands are processed once for all. -/
def addOperand (sameKind : Predicate → Option (List Predicate × List Predicate))
    (lists : OperandLists σ) (operand : Predicate) : OperandLists σ :=
  match sameKind operand with
  | some (statics, dynamics) =>
    let processed := statics.foldl
      (fun cached operand => processing.processStaticOperand cached (getStaticResult ops operand))
      lists.cached
    { cached := if dynamics.isEmpty then processed else processing.processDynamicOperand processed
      staticOperandList := lists.staticOperandList ++ statics
      dynamicOperandList := lists.dynamicOperandList ++ dynamics }
  | none =>
    if hasStaticResult ops operand then
      { lists with
        cached := processing.processStaticOperand lists.cached (getStaticResult ops operand)
        staticOperandList := lists.staticOperandList ++ [operand] }
    else
      { lists with
        cached := processing.processDynamicOperand lists.cached
        dynamicOperandList := lists.dynamicOperandList ++ [operand] }

end AddPredicate

/-! ## Conjunctions -/

namespace ConjunctionPredicate

def processing : OperandProcessing StaticState where
  processStaticOperand cached operandResult := if operandResult then cached else ⟨true, false⟩
  processDynamicOperand cached :=
    if cached.hasStaticResult && cached.staticResult then { cached with hasStaticResult := false }
    else cached

/-- The constructor. -/
def create : OperandLists StaticState := ⟨⟨true, true⟩, [], []⟩

def sameKind : Predicate → Option (List Predicate × List Predicate)
  | .conjunction _ staticOperandList dynamicOperandList => some (staticOperandList, dynamicOperandList)
  | _ => none

def addPredicate (ops : Operations) : OperandLists StaticState → Predicate → OperandLists StaticState :=
  addOperand ops processing sameKind

def toPredicate (lists : OperandLists StaticState) : Predicate :=
  .conjunction lists.cached lists.staticOperandList lists.dynamicOperandList

end ConjunctionPredicate

/-! ## Disjunctions -/

/-- A disjunction is fresh until it gets its first operand. -/
structure DisjunctionState extends StaticState where
  fresh : Bool

namespace DisjunctionPredicate

def processing : OperandProcessing DisjunctionState where
  processStaticOperand cached operandResult :=
    if operandResult then ⟨⟨true, true⟩, false⟩
    else if cached.fresh then ⟨⟨true, false⟩, false⟩
    else { cached with fresh := false }
  processDynamicOperand cached :=
    if cached.hasStaticResult && !cached.staticResult then ⟨⟨false, cached.staticResult⟩, false⟩
    else if cached.fresh then ⟨⟨false, cached.staticResult⟩, false⟩
    else { cached with fresh := false }

/-- The constructor. The static result is true until the first operand comes. -/
def create : OperandLists DisjunctionState := ⟨⟨⟨true, true⟩, true⟩, [], []⟩

def sameKind : Predicate → Option (List Predicate × List Predicate)
  | .disjunction _ _ staticOperandList dynamicOperandList =>
    some (staticOperandList, dynamicOperandList)
  | _ => none

def addPredicate (ops : Operations) :
    OperandLists DisjunctionState → Predicate → OperandLists DisjunctionState :=
  addOperand ops processing sameKind

def toPredicate (lists : OperandLists DisjunctionState) : Predicate :=
  .disjunction lists.cached.toStaticState lists.cached.fresh lists.staticOperandList
    lists.dynamicOperandList

end DisjunctionPredicate

/-! ## The cached result -/

/-- What the cache says of the operands so far: their connective, if it is known. -/
structure OperandProcessing.Follows {σ : Type} (processing : OperandProcessing σ) (absorbing : Bool)
    (result : σ → Option Bool) : Prop where
  staticOperand : ∀ cached operandResult,
    result (processing.processStaticOperand cached operandResult) =
      kleene absorbing [result cached, some operandResult]
  dynamicOperand : ∀ cached,
    result (processing.processDynamicOperand cached) = kleene absorbing [result cached, none]

theorem ConjunctionPredicate.processing_follows :
    processing.Follows false StaticState.result? where
  staticOperand cached operandResult := by
    obtain ⟨has, static⟩ := cached
    cases has <;> cases static <;> cases operandResult <;> rfl
  dynamicOperand cached := by
    obtain ⟨has, static⟩ := cached
    cases has <;> cases static <;> rfl

/-- A fresh disjunction stands for the empty one, which is false. -/
def DisjunctionState.result (cached : DisjunctionState) : Option Bool :=
  if cached.fresh then some false else cached.result?

theorem DisjunctionPredicate.processing_follows :
    processing.Follows true DisjunctionState.result where
  staticOperand cached operandResult := by
    obtain ⟨⟨has, static⟩, fresh⟩ := cached
    cases has <;> cases static <;> cases fresh <;> cases operandResult <;> rfl
  dynamicOperand cached := by
    obtain ⟨⟨has, static⟩, fresh⟩ := cached
    cases has <;> cases static <;> cases fresh <;> rfl

section Invariant

variable (ops : Operations) {σ : Type}

def staticResults (operands : List Predicate) : List (Option Bool) :=
  operands.map fun operand => (operand.methods ops).staticResult

def matchResults (read : AttributeReader) (operands : List Predicate) : List Bool :=
  operands.map fun operand => (operand.methods ops).matchesFor read

/-- The invariant of the lists: they are sorted, and the cache knows their connective. -/
structure OperandLists.Valid (absorbing : Bool) (result : σ → Option Bool) (lists : OperandLists σ) :
    Prop where
  statics : ∀ operand ∈ lists.staticOperandList, (operand.methods ops).staticResult.isSome = true
  dynamics : ∀ operand ∈ lists.dynamicOperandList, (operand.methods ops).staticResult = none
  result : result lists.cached = kleene absorbing (staticResults ops lists.operands)

variable {ops} {processing : OperandProcessing σ} {absorbing : Bool} {result : σ → Option Bool}

theorem staticResult_eq_getStaticResult {operand : Predicate}
    (static : (operand.methods ops).staticResult.isSome = true) :
    (operand.methods ops).staticResult = some (getStaticResult ops operand) := by
  obtain ⟨r, isStatic⟩ := Option.isSome_iff_exists.mp static
  rw [getStaticResult, isStatic]
  rfl

/-- The loop over the static operands of a flattened operand. -/
theorem foldl_processStaticOperand (follows : processing.Follows absorbing result)
    {statics : List Predicate}
    (allStatic : ∀ operand ∈ statics, (operand.methods ops).staticResult.isSome = true)
    (cached : σ) :
    result (statics.foldl
        (fun cached operand => processing.processStaticOperand cached (getStaticResult ops operand))
        cached) =
      kleene absorbing (result cached :: staticResults ops statics) := by
  induction statics generalizing cached with
  | nil => exact (kleene_singleton _).symm
  | cons operand statics ih =>
    obtain ⟨first, rest⟩ := List.forall_mem_cons.mp allStatic
    rw [List.foldl_cons, ih rest, follows.staticOperand, kleene_flatten]
    unfold staticResults
    rw [List.map_cons, staticResult_eq_getStaticResult first]
    rfl

/-- The dynamic operands of a flattened operand are processed once. -/
theorem processDynamicOperand_once (follows : processing.Follows absorbing result)
    {dynamics : List Predicate}
    (allDynamic : ∀ operand ∈ dynamics, (operand.methods ops).staticResult = none) (cached : σ) :
    result (if dynamics.isEmpty then cached else processing.processDynamicOperand cached) =
      kleene absorbing [result cached, kleene absorbing (staticResults ops dynamics)] := by
  have unknown : ∀ x ∈ staticResults ops dynamics, x = none := by
    intro x mem
    obtain ⟨operand, isOperand, rfl⟩ := List.mem_map.mp mem
    exact allDynamic operand isOperand
  rw [kleene_of_unknown unknown]
  unfold staticResults
  cases dynamics with
  | nil =>
    show result cached = kleene absorbing ([result cached] ++ [kleene absorbing []])
    rw [kleene_flatten_right]
    exact (kleene_singleton _).symm
  | cons operand dynamics => exact follows.dynamicOperand cached

/-- An operand that is flattened stands for the operands in its lists. -/
structure Flattens (ops : Operations) (absorbing : Bool) (operand : Predicate)
    (statics dynamics : List Predicate) : Prop where
  allStatic : ∀ p ∈ statics, (p.methods ops).staticResult.isSome = true
  allDynamic : ∀ p ∈ dynamics, (p.methods ops).staticResult = none
  staticResult : (operand.methods ops).staticResult =
    kleene absorbing (staticResults ops (statics ++ dynamics))
  matchesFor : ∀ read, (operand.methods ops).matchesFor read =
    connective absorbing (matchResults ops read (statics ++ dynamics))

variable {sameKind : Predicate → Option (List Predicate × List Predicate)} {lists : OperandLists σ}
  {operand : Predicate}
  (flattens : ∀ statics dynamics, sameKind operand = some (statics, dynamics) →
    Flattens ops absorbing operand statics dynamics)

/-- The operands that one call of `addPredicate` adds to the lists. -/
def addedOperands (sameKind : Predicate → Option (List Predicate × List Predicate))
    (operand : Predicate) : List Predicate :=
  match sameKind operand with
  | some (statics, dynamics) => statics ++ dynamics
  | none => [operand]

theorem mem_operands_addOperand {p : Predicate} :
    p ∈ (addOperand ops processing sameKind lists operand).operands ↔
      p ∈ lists.operands ++ addedOperands sameKind operand := by
  unfold addOperand addedOperands OperandLists.operands
  split
  · simp only [List.mem_append]
    tauto
  · split
    · simp only [List.mem_append]
      tauto
    · simp only [List.mem_append]
      tauto

include flattens

theorem kleene_addedOperands :
    kleene absorbing (staticResults ops (addedOperands sameKind operand)) =
      (operand.methods ops).staticResult := by
  unfold addedOperands
  split
  · rename_i statics dynamics same
    exact (flattens statics dynamics same).staticResult.symm
  · exact kleene_singleton _

theorem connective_addedOperands (read : AttributeReader) :
    connective absorbing (matchResults ops read (addedOperands sameKind operand)) =
      (operand.methods ops).matchesFor read := by
  unfold addedOperands
  split
  · rename_i statics dynamics same
    exact ((flattens statics dynamics same).matchesFor read).symm
  · exact connective_singleton _

theorem kleene_addOperand :
    kleene absorbing (staticResults ops (addOperand ops processing sameKind lists operand).operands) =
      kleene absorbing (staticResults ops (lists.operands ++ [operand])) := by
  have same : kleene absorbing
        (staticResults ops (addOperand ops processing sameKind lists operand).operands) =
      kleene absorbing (staticResults ops (lists.operands ++ addedOperands sameKind operand)) := by
    apply kleene_congr
    intro x
    simp only [staticResults, List.mem_map, mem_operands_addOperand]
  rw [same]
  unfold staticResults
  rw [List.map_append, List.map_append, ← kleene_flatten_right]
  show kleene absorbing (_ ++ [kleene absorbing (staticResults ops _)]) = _
  rw [kleene_addedOperands flattens]
  rfl

theorem connective_addOperand (read : AttributeReader) :
    connective absorbing
        (matchResults ops read (addOperand ops processing sameKind lists operand).operands) =
      connective absorbing (matchResults ops read (lists.operands ++ [operand])) := by
  have same : connective absorbing
        (matchResults ops read (addOperand ops processing sameKind lists operand).operands) =
      connective absorbing
        (matchResults ops read (lists.operands ++ addedOperands sameKind operand)) := by
    apply connective_congr
    intro x
    simp only [matchResults, List.mem_map, mem_operands_addOperand]
  rw [same]
  unfold matchResults
  rw [List.map_append, List.map_append, ← connective_flatten_right]
  show connective absorbing (_ ++ [connective absorbing (matchResults ops read _)]) = _
  rw [connective_addedOperands flattens]
  rfl

/-- The cache takes in the static result of the operand. -/
theorem result_addOperand (follows : processing.Follows absorbing result) :
    result (addOperand ops processing sameKind lists operand).cached =
      kleene absorbing [result lists.cached, (operand.methods ops).staticResult] := by
  unfold addOperand
  split
  · rename_i statics dynamics same
    have flat := flattens statics dynamics same
    simp only [processDynamicOperand_once follows flat.allDynamic,
      foldl_processStaticOperand follows flat.allStatic, kleene_flatten, flat.staticResult]
    show _ = kleene absorbing ([result lists.cached] ++ [_])
    rw [kleene_flatten_right, kleene_flatten_right]
    unfold staticResults
    rw [List.map_append]
    rfl
  · unfold hasStaticResult
    split
    · rename_i static
      rw [staticResult_eq_getStaticResult static]
      exact follows.staticOperand _ _
    · rename_i dynamic
      rw [Option.not_isSome_iff_eq_none.mp dynamic]
      exact follows.dynamicOperand _

/-- **One call of `addPredicate`** keeps the invariant. -/
theorem valid_addOperand (follows : processing.Follows absorbing result)
    (valid : lists.Valid ops absorbing result) :
    (addOperand ops processing sameKind lists operand).Valid ops absorbing result := by
  have cached : result (addOperand ops processing sameKind lists operand).cached = _ :=
    result_addOperand flattens follows
  have added : kleene absorbing
      (staticResults ops (addOperand ops processing sameKind lists operand).operands) = _ :=
    kleene_addOperand flattens
  refine ⟨?_, ?_, ?_⟩
  · intro p
    unfold addOperand
    split
    · rename_i statics dynamics same
      intro mem
      rcases List.mem_append.mp mem with before | now
      · exact valid.statics p before
      · exact (flattens statics dynamics same).allStatic p now
    · split
      · rename_i static
        intro mem
        rcases List.mem_append.mp mem with before | now
        · exact valid.statics p before
        · rw [List.mem_singleton.mp now]
          exact static
      · exact valid.statics p
  · intro p
    unfold addOperand
    split
    · rename_i statics dynamics same
      intro mem
      rcases List.mem_append.mp mem with before | now
      · exact valid.dynamics p before
      · exact (flattens statics dynamics same).allDynamic p now
    · split
      · exact valid.dynamics p
      · rename_i dynamic
        intro mem
        rcases List.mem_append.mp mem with before | now
        · exact valid.dynamics p before
        · rw [List.mem_singleton.mp now]
          exact Option.not_isSome_iff_eq_none.mp dynamic
  · rw [cached, added, valid.result, kleene_flatten]
    unfold staticResults
    rw [List.map_append]
    rfl

omit flattens in
/-- **A run of `addPredicate`** keeps the invariant, and leaves lists that stand for the operands
added. -/
theorem valid_foldl_addOperand (follows : processing.Follows absorbing result)
    {operands : List Predicate}
    (flattens : ∀ operand ∈ operands, ∀ statics dynamics,
      sameKind operand = some (statics, dynamics) →
        Flattens ops absorbing operand statics dynamics)
    (valid : lists.Valid ops absorbing result) :
    (operands.foldl (addOperand ops processing sameKind) lists).Valid ops absorbing result ∧
    kleene absorbing
        (staticResults ops (operands.foldl (addOperand ops processing sameKind) lists).operands) =
      kleene absorbing (staticResults ops (lists.operands ++ operands)) ∧
    ∀ read, connective absorbing
        (matchResults ops read
          (operands.foldl (addOperand ops processing sameKind) lists).operands) =
      connective absorbing (matchResults ops read (lists.operands ++ operands)) := by
  induction operands generalizing lists with
  | nil =>
    rw [List.append_nil]
    exact ⟨valid, rfl, fun _ => rfl⟩
  | cons operand operands ih =>
    obtain ⟨first, rest⟩ := List.forall_mem_cons.mp flattens
    obtain ⟨still, static, holds⟩ := ih rest (valid_addOperand first follows valid)
    rw [List.foldl_cons]
    refine ⟨still, ?_, ?_⟩
    · have added : kleene absorbing
          (staticResults ops (addOperand ops processing sameKind lists operand).operands) = _ :=
        kleene_addOperand first
      rw [static]
      unfold staticResults at added ⊢
      rw [List.map_append, ← kleene_flatten, added, kleene_flatten]
      simp
    · intro read
      have added : connective absorbing
          (matchResults ops read (addOperand ops processing sameKind lists operand).operands) = _ :=
        connective_addOperand first read
      rw [holds]
      unfold matchResults at added ⊢
      rw [List.map_append, ← connective_flatten, added, connective_flatten]
      simp

omit flattens in
/-- What holds of all operands that are added holds of all operands in the lists. -/
theorem forall_operands_foldl {holds : Predicate → Prop} {operands : List Predicate}
    (added : ∀ operand ∈ operands, ∀ p ∈ addedOperands sameKind operand, holds p)
    (before : ∀ p ∈ lists.operands, holds p) :
    ∀ p ∈ (operands.foldl (addOperand ops processing sameKind) lists).operands, holds p := by
  induction operands generalizing lists with
  | nil => exact before
  | cons operand operands ih =>
    obtain ⟨first, rest⟩ := List.forall_mem_cons.mp added
    apply ih rest
    intro p mem
    rcases List.mem_append.mp (mem_operands_addOperand.mp mem) with old | new
    · exact before p old
    · exact first p new

omit flattens in
/-- The operands in the lists contain those of the last call. -/
theorem mem_operands_foldl {operands : List Predicate} {p : Predicate}
    (added : p ∈ addedOperands sameKind operand) :
    p ∈ ((operands ++ [operand]).foldl (addOperand ops processing sameKind) lists).operands := by
  rw [List.foldl_append]
  exact mem_operands_addOperand.mpr (List.mem_append_right _ added)

end Invariant

/-! ## The methods of the built predicate -/

section Methods

variable {ops : Operations}

/-- The result that the lists stand for is the connective of all operands, although only the
dynamic ones are evaluated. -/
theorem OperandLists.Valid.matchesFor {σ : Type} {absorbing : Bool} {result : σ → Option Bool}
    {lists : OperandLists σ} (valid : lists.Valid ops absorbing result) (read : AttributeReader) :
    (match result lists.cached with
      | some result => result
      | none => connective absorbing (matchResults ops read lists.dynamicOperandList)) =
      connective absorbing (matchResults ops read lists.operands) := by
  have sound (p : Predicate) : ∀ r, (p.methods ops).staticResult = some r →
      (p.methods ops).matchesFor read = r := fun r static => p.matchesFor_static static read
  have cached := valid.result
  cases known : result lists.cached with
  | some r =>
    rw [known] at cached
    exact (connective_of_kleene (fun p _ => sound p) cached.symm).symm
  | none =>
    rw [known] at cached
    exact (connective_of_unknown (fun p _ => sound p) valid.statics cached.symm).symm

namespace ConjunctionPredicate

theorem create_valid : create.Valid ops false StaticState.result? := ⟨nofun, nofun, rfl⟩

/-- A conjunction whose lists keep the invariant holds when all its operands do. -/
theorem flattens_toPredicate {lists : OperandLists StaticState}
    (valid : lists.Valid ops false StaticState.result?) :
    Flattens ops false (toPredicate lists) lists.staticOperandList lists.dynamicOperandList where
  allStatic := valid.statics
  allDynamic := valid.dynamics
  staticResult := valid.result
  matchesFor read := by
    refine Eq.trans ?_ (valid.matchesFor read)
    unfold toPredicate Predicate.methods conjunctionPredicate matchResults
    simp only [operandsMethods_eq, connective_false, List.all_map]
    rfl

end ConjunctionPredicate

namespace DisjunctionPredicate

theorem create_valid : create.Valid ops true DisjunctionState.result := ⟨nofun, nofun, rfl⟩

theorem flattens_toPredicate {lists : OperandLists DisjunctionState}
    (valid : lists.Valid ops true DisjunctionState.result) (notFresh : lists.cached.fresh = false) :
    Flattens ops true (toPredicate lists) lists.staticOperandList lists.dynamicOperandList := by
  have cached : lists.cached.result? = lists.cached.result := by
    unfold DisjunctionState.result
    rw [notFresh]
    rfl
  refine ⟨valid.statics, valid.dynamics, cached.trans valid.result, ?_⟩
  intro read
  refine Eq.trans ?_ (valid.matchesFor read)
  unfold toPredicate Predicate.methods disjunctionPredicate matchResults
  simp only [operandsMethods_eq, connective_true, List.any_map, ← cached]
  rfl

/-- An operand ends the freshness. -/
theorem fresh_addPredicate {lists : OperandLists DisjunctionState} {operand : Predicate}
    (nonempty : addedOperands sameKind operand ≠ []) :
    (addPredicate ops lists operand).cached.fresh = false := by
  have afterStatic (cached : DisjunctionState) (r : Bool) :
      (processing.processStaticOperand cached r).fresh = false := by
    unfold processing
    simp only
    split
    · rfl
    · split <;> rfl
  have afterDynamic (cached : DisjunctionState) :
      (processing.processDynamicOperand cached).fresh = false := by
    unfold processing
    simp only
    split
    · rfl
    · split <;> rfl
  unfold addedOperands at nonempty
  unfold addPredicate addOperand
  split
  · rename_i statics dynamics same
    simp only [same] at nonempty ⊢
    cases dynamics with
    | cons dynamic dynamics => exact afterDynamic _
    | nil =>
      rw [List.append_nil] at nonempty
      rw [← List.dropLast_append_getLast nonempty]
      simp only [List.isEmpty_nil, if_true, List.foldl_append, List.foldl_cons, List.foldl_nil]
      exact afterStatic _ _
  · split
    · exact afterStatic _ _
    · exact afterDynamic _

/-- The last operand ends the freshness, if not one before. -/
theorem fresh_foldl_addPredicate {operands : List Predicate} (nonempty : operands ≠ [])
    (lastAdded : addedOperands sameKind (operands.getLast nonempty) ≠ [])
    {lists : OperandLists DisjunctionState} :
    (operands.foldl (addPredicate ops) lists).cached.fresh = false := by
  rw [← List.dropLast_append_getLast nonempty, List.foldl_append]
  exact fresh_addPredicate lastAdded

end DisjunctionPredicate

end Methods

end Quickstep.Expressions
