import Quickstep.Expressions.PredicateLoops
import Quickstep.Lib.PositionalWrites
import Quickstep.Types.ColumnVector

/-!
# CASE expressions

The constructor resolves the branch statically if it can. Otherwise the vectorised evaluation splits
the tuples among the branches by successive filters, evaluates each branch on its own tuples and
multiplexes the columns of the branches back into one. The type of the CASE decides as what class of
column vector the branch columns are read. Each tuple goes to the branch of the first WHEN that holds.
-/

namespace Quickstep.Expressions
open Quickstep.Common Quickstep.Types Quickstep.Lib TupleIdSequence

section Branches

variable {α : Type}

/-- The loop of the constructor over the WHEN predicates: the fixed result, if a statically true
predicate is met, and whether every predicate before was static. -/
def resolveBranches : List (PredicateMethods × α) → Bool → Option α × Bool
  | [], staticCaseBranch => (none, staticCaseBranch)
  | (whenPredicate, result) :: branches, staticCaseBranch =>
    match whenPredicate.staticResult with
    | some true => (some result, staticCaseBranch)
    | some false => resolveBranches branches staticCaseBranch
    | none => resolveBranches branches false

/-- `fixed_result_expression_`. -/
def fixedBranch (branches : List (PredicateMethods × α)) (elseBranch : α) : Option α :=
  match resolveBranches branches true with
  | (some result, _) => some result
  | (none, true) => some elseBranch
  | (none, false) => none

/-- The loop over the WHEN predicates for one tuple. -/
def firstMatch (read : AttributeReader) : List (PredicateMethods × α) → α → α
  | [], elseBranch => elseBranch
  | (whenPredicate, result) :: branches, elseBranch =>
    if whenPredicate.matchesFor read then result else firstMatch read branches elseBranch

/-- The branch that is evaluated: the fixed one if there is one. -/
def chosenBranch (read : AttributeReader) (branches : List (PredicateMethods × α))
    (elseBranch : α) : α :=
  (fixedBranch branches elseBranch).getD (firstMatch read branches elseBranch)

theorem resolveBranches_mem {branches : List (PredicateMethods × α)} {staticCaseBranch : Bool}
    {fixed : α} (resolved : (resolveBranches branches staticCaseBranch).1 = some fixed) :
    ∃ branch ∈ branches, branch.2 = fixed := by
  induction branches generalizing staticCaseBranch with
  | nil => cases resolved
  | cons branch branches ih =>
    obtain ⟨whenPredicate, result⟩ := branch
    unfold resolveBranches at resolved
    split at resolved
    · cases resolved
      exact ⟨_, List.mem_cons_self, rfl⟩
    · obtain ⟨branch, isBranch, same⟩ := ih resolved
      exact ⟨branch, List.mem_cons_of_mem _ isBranch, same⟩
    · obtain ⟨branch, isBranch, same⟩ := ih resolved
      exact ⟨branch, List.mem_cons_of_mem _ isBranch, same⟩

/-- A fixed branch is one of the branches, or ELSE. -/
theorem fixedBranch_mem {branches : List (PredicateMethods × α)} {elseBranch fixed : α}
    (resolved : fixedBranch branches elseBranch = some fixed) :
    fixed = elseBranch ∨ ∃ branch ∈ branches, branch.2 = fixed := by
  unfold fixedBranch at resolved
  split at resolved
  · rename_i result static same
    cases resolved
    exact .inr (resolveBranches_mem (congrArg Prod.fst same))
  · cases resolved
    exact .inl rfl
  · cases resolved

/-- The branch that is evaluated is one of the branches, or ELSE. -/
theorem chosenBranch_mem (read : AttributeReader) (branches : List (PredicateMethods × α))
    (elseBranch : α) : chosenBranch read branches elseBranch = elseBranch ∨
      ∃ branch ∈ branches, branch.2 = chosenBranch read branches elseBranch := by
  unfold chosenBranch
  cases resolved : fixedBranch branches elseBranch with
  | some fixed => exact fixedBranch_mem resolved
  | none =>
    clear resolved
    induction branches with
    | nil => exact .inl rfl
    | cons branch branches ih =>
      obtain ⟨whenPredicate, result⟩ := branch
      rw [Option.getD_none, firstMatch]
      split
      · exact .inr ⟨_, List.mem_cons_self, rfl⟩
      · rcases ih with isElse | ⟨branch, isBranch, same⟩
        · exact .inl isElse
        · exact .inr ⟨branch, List.mem_cons_of_mem _ isBranch, same⟩

/-! The choice depends on the WHEN predicates alone. -/

section Map

variable {β : Type} (f : α → β) (branches : List (PredicateMethods × α)) (elseBranch : α)

theorem resolveBranches_map (staticCaseBranch : Bool) :
    resolveBranches (branches.map (Prod.map id f)) staticCaseBranch =
      ((resolveBranches branches staticCaseBranch).1.map f,
        (resolveBranches branches staticCaseBranch).2) := by
  induction branches generalizing staticCaseBranch with
  | nil => rfl
  | cons branch branches ih =>
    obtain ⟨whenPredicate, result⟩ := branch
    rw [List.map_cons, Prod.map_apply, resolveBranches, resolveBranches]
    cases static : whenPredicate.staticResult with
    | none => simpa [static] using ih false
    | some holds => cases holds <;> simp [static, ih]

theorem fixedBranch_map :
    fixedBranch (branches.map (Prod.map id f)) (f elseBranch) =
      (fixedBranch branches elseBranch).map f := by
  unfold fixedBranch
  rw [resolveBranches_map]
  rcases resolveBranches branches true with ⟨_ | _, _ | _⟩ <;> rfl

theorem firstMatch_map (read : AttributeReader) :
    firstMatch read (branches.map (Prod.map id f)) (f elseBranch) =
      f (firstMatch read branches elseBranch) := by
  induction branches with
  | nil => rfl
  | cons branch branches ih =>
    obtain ⟨whenPredicate, result⟩ := branch
    rw [List.map_cons, Prod.map_apply, firstMatch, firstMatch, ih, apply_ite f]
    rfl

theorem chosenBranch_map (read : AttributeReader) :
    chosenBranch read (branches.map (Prod.map id f)) (f elseBranch) =
      f (chosenBranch read branches elseBranch) := by
  unfold chosenBranch
  rw [fixedBranch_map, firstMatch_map]
  cases fixedBranch branches elseBranch <;> rfl

end Map

/-- The tuples of each branch, next to the branch, and those left for ELSE. The loop ends early when
no tuple is left. -/
def caseMatches (build : Build) {n : Nat} (accessor : ValueAccessor n) :
    List (PredicateMethods × α) → TupleIdSequence n →
    Exec (List (TupleIdSequence n × α) × TupleIdSequence n)
  | [], elseMatches => .ok ([], elseMatches)
  | (whenPredicate, result) :: branches, elseMatches =>
    if elseMatches.empty then .ok ([], elseMatches)
    else do
      let caseMatch ←
        whenPredicate.getAllMatches build accessor (some elseMatches) accessor.tupleIdSequence
      let later ← caseMatches build accessor branches (elseMatches.intersectWithComplement caseMatch)
      pure ((caseMatch, result) :: later.1, later.2)

end Branches

/-- The columns of two types are of the same class. -/
def SameLayout (type other : DataType) : Prop :=
  NativeColumnVector.usableForType type = NativeColumnVector.usableForType other

instance (type other : DataType) : Decidable (SameLayout type other) :=
  inferInstanceAs (Decidable (_ = _))

/-- A column vector, with the type it was made with. -/
structure TypedColumn where
  type : DataType
  values : ColumnVector

/-- The loops of `MultiplexNativeColumnVector` and `MultiplexIndirectColumnVector`. -/
def writeCaseResult {n : Nat} (sourceSequence : Option (TupleIdSequence n))
    (caseMatches : TupleIdSequence n) (caseResult output : ColumnVector) : ColumnVector :=
  match sourceSequence with
  | none => scatter (caseMatches.ids.map Fin.val) caseResult output
  | some sourceSequence => distribute caseMatches.get caseResult sourceSequence.ids 0 0 output

/-- The column of a branch is cast to the class of column vectors that the type of the CASE has. To read
it as what it is not is undefined behaviour. -/
def multiplexColumnVector {n : Nat} (type : DataType) (sourceSequence : Option (TupleIdSequence n))
    (caseMatches : TupleIdSequence n) (caseResult : TypedColumn) (output : ColumnVector) :
    Exec ColumnVector :=
  if SameLayout caseResult.type type then
    .ok (writeCaseResult sourceSequence caseMatches caseResult.values output)
  else .error .undefinedBehaviour

/-- The output starts uninitialised; branches without tuples are skipped. -/
def multiplexColumnVectors {n : Nat} (type : DataType) (outputSize : Nat)
    (sourceSequence : Option (TupleIdSequence n))
    (caseResults : List (TupleIdSequence n × TypedColumn)) (elseMatches : TupleIdSequence n)
    (elseResult : Option TypedColumn) : Exec ColumnVector := do
  let output ← caseResults.foldlM
    (fun output case =>
      if case.1.empty then .ok output
      else multiplexColumnVector type sourceSequence case.1 case.2 output)
    (List.replicate outputSize default)
  match elseResult with
  | some elseResult => multiplexColumnVector type sourceSequence elseMatches elseResult output
  | none => pure output

/-- The column of a result expression over the tuples of its branch. -/
def branchColumn (build : Build) {n : Nat} (accessor : ValueAccessor n) (result : ScalarMethods)
    (caseMatches : TupleIdSequence n) : Exec TypedColumn := do
  let values ← result.getAllValues build (accessor.createSharedTupleIdSequenceAdapter caseMatches)
  pure ⟨result.columnType, values⟩

/-- ELSE is evaluated only if tuples are left for it. -/
def elseColumn (build : Build) {n : Nat} (accessor : ValueAccessor n)
    (elseResultExpression : ScalarMethods) (elseMatches : TupleIdSequence n) :
    Exec (Option TypedColumn) :=
  if elseMatches.empty then .ok none
  else do
    let values ← branchColumn build accessor elseResultExpression elseMatches
    pure (some values)

/-- `getAllValues` of a CASE that has no fixed branch. -/
def caseGetAllValues (type : DataType) (branches : List (PredicateMethods × ScalarMethods))
    (elseResultExpression : ScalarMethods) (build : Build) {n : Nat} (accessor : ValueAccessor n) :
    Exec ColumnVector := do
  let (cases, elseMatches) ←
    caseMatches build accessor branches (assignFromCandidates none accessor.tupleIdSequence)
  let caseResults ← cases.mapM fun case => do
    let caseResult ← branchColumn build accessor case.2 case.1
    pure (case.1, caseResult)
  let elseResult ← elseColumn build accessor elseResultExpression elseMatches
  multiplexColumnVectors type accessor.getNumTuples accessor.tupleIdSequence caseResults elseMatches
    elseResult

def scalarCaseExpression (resultType : DataType) (branches : List (PredicateMethods × ScalarMethods))
    (elseResultExpression : ScalarMethods) : ScalarMethods where
  type := resultType
  columnType :=
    match fixedBranch branches elseResultExpression with
    | some fixed => if fixed.staticValue.isSome then resultType else fixed.columnType
    | none => resultType
  staticValue := (fixedBranch branches elseResultExpression).bind ScalarMethods.staticValue
  attributeIdForValueAccessor :=
    (fixedBranch branches elseResultExpression).bind ScalarMethods.attributeIdForValueAccessor
  valueFor read :=
    match fixedBranch branches elseResultExpression with
    | some fixed =>
      match fixed.staticValue with
      | some value => value
      | none => fixed.valueFor read
    | none => (firstMatch read branches elseResultExpression).valueFor read
  getAllValues build _ accessor :=
    match fixedBranch branches elseResultExpression with
    | some fixed =>
      match fixed.staticValue with
      | some value => .ok (.makeVectorOfValue value accessor.getNumTuples)
      | none => fixed.getAllValues build accessor
    | none => caseGetAllValues resultType branches elseResultExpression build accessor

/-! ## The branch of each tuple -/

/-- The number of the first WHEN that holds, or that of ELSE. -/
def firstHolding (read : AttributeReader) (whenPredicates : List PredicateMethods) : Nat :=
  whenPredicates.findIdx fun whenPredicate => whenPredicate.matchesFor read

def resultAt {α : Type} (branches : List (PredicateMethods × α)) (elseBranch : α) (number : Nat) : α :=
  (branches[number]?.map Prod.snd).getD elseBranch

section Numbers

variable {α : Type} {read : AttributeReader} {branches : List (PredicateMethods × α)} {elseBranch : α}

theorem firstHolding_cons (whenPredicate : PredicateMethods) (whenPredicates : List PredicateMethods) :
    firstHolding read (whenPredicate :: whenPredicates) =
      if whenPredicate.matchesFor read then 0 else firstHolding read whenPredicates + 1 := by
  unfold firstHolding
  rw [List.findIdx_cons]
  cases whenPredicate.matchesFor read <;> rfl

theorem firstHolding_le : firstHolding read (branches.map Prod.fst) ≤ branches.length := by
  have bound := @List.findIdx_le_length _ (fun p : PredicateMethods => p.matchesFor read)
    (branches.map Prod.fst)
  rwa [List.length_map] at bound

theorem firstMatch_eq (branches : List (PredicateMethods × α)) (elseBranch : α) :
    firstMatch read branches elseBranch =
      resultAt branches elseBranch (firstHolding read (branches.map Prod.fst)) := by
  induction branches with
  | nil => rfl
  | cons branch branches ih =>
    obtain ⟨whenPredicate, result⟩ := branch
    unfold firstMatch
    rw [List.map_cons, firstHolding_cons]
    cases whenPredicate.matchesFor read with
    | true => rfl
    | false => exact ih

end Numbers

section Splitting

variable {α : Type} {n : Nat} {read : Fin n → AttributeReader}
  {branches : List (PredicateMethods × α)} {start : TupleIdSequence n}
  {split : List (TupleIdSequence n × α) × TupleIdSequence n}

/-- Where the branches and ELSE stand after the split of the tuples at the start: each branch has the
tuples for which its WHEN is the first that holds. -/
structure Split (read : Fin n → AttributeReader) (branches : List (PredicateMethods × α))
    (start : TupleIdSequence n) (split : List (TupleIdSequence n × α) × TupleIdSequence n) : Prop where
  case : ∀ (number : Nat) (case : TupleIdSequence n × α), split.1[number]? = some case →
    branches[number]?.map Prod.snd = some case.2 ∧
      (∃ t, t ∈ start ∧ number ≤ firstHolding (read t) (branches.map Prod.fst)) ∧
      ∀ t, t ∈ case.1 ↔ t ∈ start ∧ firstHolding (read t) (branches.map Prod.fst) = number
  covered : ∀ t, t ∈ start → ∀ number < branches.length,
    number ≤ firstHolding (read t) (branches.map Prod.fst) → number < split.1.length
  otherwise : ∀ t, t ∈ split.2 ↔
    t ∈ start ∧ firstHolding (read t) (branches.map Prod.fst) = branches.length

theorem Split.nil : Split read ([] : List (PredicateMethods × α)) start ([], start) where
  case _ _ isCase := by cases isCase
  covered _ _ _ below := absurd below (Nat.not_lt_zero _)
  otherwise t := by simp [firstHolding]

/-- The loop may end early when nothing is left. -/
theorem Split.of_empty (empty : start.empty = true) : Split read branches start ([], start) where
  case _ _ isCase := by cases isCase
  covered t mem := absurd mem (empty_iff.mp empty t)
  otherwise t := by simp [empty_iff.mp empty t]

/-- One filter, then the split of what it left. -/
theorem Split.cons {whenPredicate : PredicateMethods} {result : α} {caseMatch : TupleIdSequence n}
    (nonempty : start.empty = false)
    (matched : ∀ t, t ∈ caseMatch ↔ t ∈ start ∧ whenPredicate.matchesFor (read t) = true)
    (rest : Split read branches (start.intersectWithComplement caseMatch) split) :
    Split read ((whenPredicate, result) :: branches) start ((caseMatch, result) :: split.1, split.2)
    where
  case := by
    intro number case isCase
    cases number with
    | zero =>
      cases isCase
      refine ⟨rfl, ?_, fun t => ?_⟩
      · obtain ⟨t, mem⟩ : ∃ t, t ∈ start := by
          rw [← Bool.not_eq_true, empty_iff] at nonempty
          exact not_forall_not.mp nonempty
        exact ⟨t, mem, Nat.zero_le _⟩
      · rw [matched, List.map_cons, firstHolding_cons]
        cases whenPredicate.matchesFor (read t) <;> simp
    | succ number =>
      obtain ⟨isBranch, ⟨t, mem, reached⟩, chosen⟩ := rest.case number case isCase
      refine ⟨isBranch, ⟨t, ?_⟩, fun t => ?_⟩
      · obtain ⟨left, unmatched⟩ := mem_intersectWithComplement.mp mem
        refine ⟨left, ?_⟩
        rw [List.map_cons, firstHolding_cons,
          if_neg fun holds => unmatched ((matched t).mpr ⟨left, holds⟩)]
        exact Nat.succ_le_succ reached
      · rw [chosen, mem_intersectWithComplement, matched, List.map_cons, firstHolding_cons]
        cases whenPredicate.matchesFor (read t) <;> simp
  covered := by
    intro t mem number below reached
    rw [List.length_cons] at below ⊢
    cases number with
    | zero => exact Nat.succ_pos _
    | succ number =>
      rw [List.map_cons, firstHolding_cons] at reached
      cases holds : whenPredicate.matchesFor (read t) with
      | true => simp [holds] at reached
      | false =>
        have left : t ∈ start.intersectWithComplement caseMatch := by
          rw [mem_intersectWithComplement, matched, holds]
          simp [mem]
        rw [holds, if_neg Bool.false_ne_true] at reached
        exact Nat.succ_lt_succ (rest.covered t left number (Nat.lt_of_succ_lt_succ below)
          (Nat.le_of_succ_le_succ reached))
  otherwise := by
    intro t
    rw [rest.otherwise, mem_intersectWithComplement, matched, List.map_cons, firstHolding_cons,
      List.length_cons]
    cases whenPredicate.matchesFor (read t) <;> simp

/-- The tuples that the WHENs before leave for the one with a number. -/
def whenCandidates (read : Fin n → AttributeReader) (whenPredicates : List PredicateMethods)
    (number : Nat) (tuples : List (Fin n)) : List (Fin n) :=
  tuples.filter fun t => number ≤ firstHolding (read t) whenPredicates

/-- The tuples of the branch with a number. -/
def branchTuples (read : Fin n → AttributeReader) (whenPredicates : List PredicateMethods)
    (number : Nat) (tuples : List (Fin n)) : List (Fin n) :=
  tuples.filter fun t => firstHolding (read t) whenPredicates = number

theorem whenCandidates_zero {whenPredicates : List PredicateMethods} {tuples : List (Fin n)} :
    whenCandidates read whenPredicates 0 tuples = tuples := by simp [whenCandidates]

theorem whenCandidates_succ {whenPredicate : PredicateMethods} {whenPredicates : List PredicateMethods}
    {number : Nat} {tuples : List (Fin n)} :
    whenCandidates read (whenPredicate :: whenPredicates) (number + 1) tuples =
      whenCandidates read whenPredicates number
        (tuples.filter fun t => !whenPredicate.matchesFor (read t)) := by
  unfold whenCandidates
  rw [List.filter_filter]
  refine List.filter_congr fun t _ => ?_
  rw [firstHolding_cons]
  cases whenPredicate.matchesFor (read t) <;> simp

variable {build : Build} {tuples candidates : List (Fin n)} {accessor : ValueAccessor n}

/-- What a WHEN leaves for the later ones. -/
theorem whenPredicate_step {whenPredicate : PredicateMethods} {elseMatches caseMatch : TupleIdSequence n}
    (selects : Selects read tuples candidates accessor (some elseMatches) accessor.tupleIdSequence)
    (exact : ∀ t, t ∈ caseMatch ↔ t ∈ candidates ∧ whenPredicate.matchesFor (read t) = true) :
    Selects read tuples (candidates.filter fun t => !whenPredicate.matchesFor (read t)) accessor
      (some (elseMatches.intersectWithComplement caseMatch)) accessor.tupleIdSequence := by
  apply selects.restrict
  intro t
  rw [mem_intersectWithComplement, exact, Bool.not_eq_true', ← Bool.not_eq_true, selects.mem,
    candidate_filter]
  exact and_congr_right fun inside => not_congr (and_iff_right inside)

/-- **The successive filters** give every tuple to the branch of the first WHEN that matches it. -/
theorem caseMatches_eq {elseMatches : TupleIdSequence n}
    (selects : Selects read tuples candidates accessor (some elseMatches) accessor.tupleIdSequence)
    (agree : ∀ (number : Nat) (branch : PredicateMethods × α), branches[number]? = some branch →
      whenCandidates read (branches.map Prod.fst) number candidates ≠ [] →
      branch.1.AgreesOn build read tuples
        (whenCandidates read (branches.map Prod.fst) number candidates)) :
    ∃ split, caseMatches build accessor branches elseMatches = .ok split ∧
      Split read branches elseMatches split := by
  have ids : elseMatches.ids = candidates := selects.selected
  induction branches generalizing elseMatches candidates with
  | nil => exact ⟨_, rfl, .nil⟩
  | cons branch branches ih =>
    obtain ⟨whenPredicate, result⟩ := branch
    unfold caseMatches
    split
    · rename_i empty
      exact ⟨_, rfl, .of_empty empty⟩
    · rename_i nonempty
      have first : _ → whenPredicate.AgreesOn build read tuples _ := agree 0 _ rfl
      rw [List.map_cons, whenCandidates_zero] at first
      obtain ⟨caseMatch, ran, exact⟩ :=
        first (fun none => nonempty ((empty_iff_of_ids ids).mpr none)) accessor _ _ selects
      have next := whenPredicate_step selects exact
      obtain ⟨later, rest, splits⟩ := ih next (fun number branch isBranch => by
        rw [← whenCandidates_succ]
        exact agree (number + 1) branch isBranch) next.selected
      simp only [ran, rest, Exec.ok_bind]
      refine ⟨_, rfl, splits.cons (Bool.eq_false_iff.mpr nonempty) fun t => ?_⟩
      rw [exact, ← ids, mem_ids]

/-- Where the loop has a result, all WHENs that it evaluates agree, if those do that have one. -/
theorem caseMatches_returns {elseMatches : TupleIdSequence n}
    (selects : Selects read tuples candidates accessor (some elseMatches) accessor.tupleIdSequence)
    (returned : ∀ (number : Nat) (branch : PredicateMethods × α), branches[number]? = some branch →
      ∀ filter, Selects read tuples (whenCandidates read (branches.map Prod.fst) number candidates)
        accessor filter accessor.tupleIdSequence →
      (branch.1.getAllMatches build accessor filter accessor.tupleIdSequence).Returns →
      branch.1.AgreesOn build read tuples
        (whenCandidates read (branches.map Prod.fst) number candidates))
    (returns : (caseMatches build accessor branches elseMatches).Returns)
    (number : Nat) (branch : PredicateMethods × α) (isBranch : branches[number]? = some branch)
    (nonempty : whenCandidates read (branches.map Prod.fst) number candidates ≠ []) :
    branch.1.AgreesOn build read tuples
      (whenCandidates read (branches.map Prod.fst) number candidates) := by
  have ids : elseMatches.ids = candidates := selects.selected
  induction branches generalizing elseMatches candidates number with
  | nil => simp at isBranch
  | cons head branches ih =>
    obtain ⟨whenPredicate, result⟩ := head
    unfold caseMatches at returns
    split at returns
    · rename_i empty
      have none := (empty_iff_of_ids ids).mp empty
      rw [none] at nonempty
      exact absurd rfl nonempty
    · obtain ⟨caseMatch, ran, later⟩ := returns.of_bind
      have headAgrees := returned 0 _ rfl (some elseMatches)
        (by rwa [List.map_cons, whenCandidates_zero]) ⟨caseMatch, ran⟩
      cases number with
      | zero =>
        cases isBranch
        exact headAgrees
      | succ number =>
        rw [List.map_cons, whenCandidates_zero] at headAgrees
        obtain ⟨caseMatch', ranToo, exact⟩ := headAgrees accessor _ _ selects
        obtain rfl : caseMatch = caseMatch' := Except.ok.inj (ran.symm.trans ranToo)
        have next := whenPredicate_step selects exact
        obtain ⟨rest, ranLater, _⟩ := later.of_bind
        rw [List.map_cons, whenCandidates_succ] at nonempty ⊢
        refine ih next (fun number branch isLater => ?_) ⟨rest, ranLater⟩ number isBranch nonempty
          next.selected
        rw [← whenCandidates_succ]
        exact returned (number + 1) branch isLater

end Splitting

end Quickstep.Expressions
