import Quickstep.Expressions.JoinNodes
import Quickstep.Types.OperatorAgreement

/-!
# Vectorised evaluation over joined tuples

A scalar agrees on a list of pairs when its column is the list of its values for the pairs. Each
class is given on which lists a node agrees whose operands agree, and CASE the branch each pair gets.
-/

namespace Quickstep.Expressions
open Quickstep.Common Quickstep.Types Quickstep.Lib TupleIdSequence

/-! ## Scalars -/

namespace ScalarJoinMethods

/-- A static value, and an attribute that is read in place, are the value of every pair. -/
structure Caches (s : ScalarJoinMethods) : Prop where
  static : ∀ value, s.staticValue = some value → ∀ read, s.valueFor read = value
  elided : ∀ build {n m : Nat} (join : JoinSides n m) attr, s.elided build join = some attr →
    ∀ pair, join.valueAt attr pair = s.valueFor (join.read pair)

variable {n m : Nat}

/-- The column has the value of every pair at its place. -/
def AgreesForJoin (s : ScalarJoinMethods) (build : JoinBuild) (join : JoinSides n m)
    (joinedTupleIds : JoinedTupleIds n m) : Prop :=
  s.getAllValuesForJoin build join joinedTupleIds =
    .ok (joinedTupleIds.map fun pair => s.valueFor (join.read pair))

theorem Caches.column {s : ScalarJoinMethods} (caches : s.Caches) {build : JoinBuild}
    {join : JoinSides n m} {attr : JoinedAttribute} (elided : s.elided build join = some attr)
    (joinedTupleIds : JoinedTupleIds n m) :
    join.column attr joinedTupleIds =
      joinedTupleIds.map fun pair => s.valueFor (join.read pair) :=
  List.map_congr_left fun pair _ => caches.elided build join attr elided pair

end ScalarJoinMethods

/-- A vector of one value is the column of a scalar that always has it. -/
theorem makeVectorOfValue_eq_map {n m : Nat} (value : TypedValue)
    (joinedTupleIds : JoinedTupleIds n m) :
    ColumnVector.makeVectorOfValue value joinedTupleIds.length =
      joinedTupleIds.map fun _ => value := by
  rw [ColumnVector.makeVectorOfValue, List.map_const']

/-- Values are appended as long as there is room. -/
theorem foldlM_append_iff {reservedLength : Nat} {column values result : ColumnVector}
    (room : column.length ≤ reservedLength) :
    values.foldlM (fun column value =>
      if column.length < reservedLength then Except.ok (column ++ [value])
      else .error Fault.undefinedBehaviour) column = .ok result ↔
      column.length + values.length ≤ reservedLength ∧ column ++ values = result := by
  induction values generalizing column with
  | nil => simp [room, pure, Except.pure]
  | cons value values ih =>
    rw [List.foldlM_cons, List.length_cons]
    by_cases more : column.length < reservedLength
    · have longer : (column ++ [value]).length = column.length + 1 := List.length_append
      rw [if_pos more, Exec.ok_bind, ih (by omega), longer, List.append_assoc,
        List.singleton_append, Nat.add_assoc, Nat.add_comm 1]
    · rw [if_neg more]
      refine iff_of_false nofun ?_
      rintro ⟨fits, -⟩
      omega

theorem appendAll_eq_iff {reservedLength : Nat} {values result : ColumnVector} :
    appendAll reservedLength values = .ok result ↔
      values.length ≤ reservedLength ∧ values = result := by
  have appended := @foldlM_append_iff reservedLength [] values result (Nat.zero_le _)
  rw [List.length_nil, Nat.zero_add, List.nil_append] at appended
  exact appended

section Nodes

variable {ops : Operations} {build : JoinBuild} {n m : Nat} {join : JoinSides n m}
  {joinedTupleIds : JoinedTupleIds n m}

theorem joinLiteral_agrees (value : TypedValue) (type : DataType) :
    (joinLiteral value type).AgreesForJoin build join joinedTupleIds :=
  congrArg Except.ok (makeVectorOfValue_eq_map value joinedTupleIds)

/-- The relation of the attribute decides which accessor is read, as it does for one pair. -/
theorem valueAt_joinAttribute (attr : CatalogAttribute) (pair : Fin n × Fin m) :
    join.valueAt ⟨attr.relationId = join.leftRelationId, attr.id⟩ pair = join.read pair attr := by
  unfold JoinSides.valueAt JoinSides.read readJoinedTuples
  by_cases isLeft : attr.relationId = join.leftRelationId <;> simp [isLeft]

theorem joinAttribute_agrees (attr : CatalogAttribute) :
    (joinAttribute attr).AgreesForJoin build join joinedTupleIds :=
  congrArg Except.ok (List.map_congr_left fun pair _ => valueAt_joinAttribute attr pair)

/-- An operand is evaluated over the pairs unless it is static or read in place. -/
def ScalarJoinMethods.Evaluated (operand : ScalarJoinMethods) (build : JoinBuild)
    (join : JoinSides n m) : Prop :=
  operand.staticValue = none ∧ operand.elided build join = none

/-- Whether the result of a unary expression has room for the pairs. -/
def HasRoomForJoin (operation : UnaryOperation) (operand : ScalarJoinMethods) (build : JoinBuild)
    (join : JoinSides n m) (joinedTupleIds : JoinedTupleIds n m) : Prop :=
  operand.staticValue = none → ∀ attr, operand.elided build join = some attr →
    joinedTupleIds.length ≤ reservedLengthForJoin operation join attr joinedTupleIds

/-- A unary expression over an operand that agrees. -/
theorem joinUnaryExpression_agrees_iff {operation : UnaryOperation} {operand : ScalarJoinMethods}
    (fast : (ops.makeUncheckedUnaryOperatorForType operation operand.type).Agrees)
    (caches : operand.Caches)
    (agrees : operand.Evaluated build join → operand.AgreesForJoin build join joinedTupleIds) :
    (joinUnaryExpression ops operation operand).AgreesForJoin build join joinedTupleIds ↔
      HasRoomForJoin operation operand build join joinedTupleIds := by
  unfold ScalarJoinMethods.AgreesForJoin joinUnaryExpression scalarUnaryExpression HasRoomForJoin
  cases static : operand.staticValue with
  | some value =>
    simp only [makeVectorOfValue_eq_map]
    simp
  | none =>
    cases elided : operand.elided build join with
    | some attr =>
      simp only [elided, applyToValueAccessorForJoin, caches.column elided, fast.columnVector,
        appendAll_eq_iff, List.length_map, List.map_map]
      simp
    | none =>
      have values : operand.getAllValuesForJoin _ _ _ = _ := agrees ⟨static, elided⟩
      simp only [elided, values, Exec.ok_bind, fast.columnVector, List.map_map]
      simp [pure, Except.pure]

/-- The right operand of a binary expression: a left one read in place may be in its way. -/
def ScalarJoinMethods.EvaluatedBeside (right left : ScalarJoinMethods) (build : JoinBuild)
    (join : JoinSides n m) : Prop :=
  right.staticValue = none ∧
    if left.staticValue.isSome then right.elided build join = none
    else right.elidedBeside left build join = none

/-- The paths of a binary expression yield one column, that of the function they loop over. -/
theorem binaryGetAllValuesForJoin_eq {fastOperator : UncheckedBinaryOperator}
    {f : TypedValue → TypedValue → TypedValue} (loops : fastOperator.LoopsOver f)
    {left right : ScalarJoinMethods} (leftCaches : left.Caches) (rightCaches : right.Caches)
    (dynamic : left.staticValue = none ∨ right.staticValue = none)
    (leftAgrees : left.Evaluated build join → left.AgreesForJoin build join joinedTupleIds)
    (rightAgrees : right.EvaluatedBeside left build join →
      right.AgreesForJoin build join joinedTupleIds) :
    binaryGetAllValuesForJoin fastOperator left right build join joinedTupleIds =
      .ok (joinedTupleIds.map fun pair =>
        f (left.valueFor (join.read pair)) (right.valueFor (join.read pair))) := by
  have columns (f' g : Fin n × Fin m → TypedValue) :
      fastOperator.applyToColumnVectors (joinedTupleIds.map f') (joinedTupleIds.map g) =
        joinedTupleIds.map fun pair => f (f' pair) (g pair) := by
    refine (loops.columnVectors _ _ ?_).trans ?_
    · rw [List.length_map, List.length_map]
    · rw [List.zipWith_map, List.zipWith_self]
  unfold binaryGetAllValuesForJoin
  cases staticLeft : left.staticValue with
  | some leftValue =>
    have leftValues (pair) : left.valueFor (join.read pair) = leftValue :=
      leftCaches.static leftValue staticLeft _
    have staticRight := dynamic.resolve_left (by simp [staticLeft])
    have scaled (g : Fin n × Fin m → TypedValue) :
        fastOperator.applyToStaticValueAndColumnVector leftValue (joinedTupleIds.map g) =
          joinedTupleIds.map fun pair => f leftValue (g pair) :=
      (loops.staticValueAndColumnVector _ _).trans List.map_map
    cases elidedRight : right.elided build join with
    | some attr =>
      simp only [applyToStaticValueAndValueAccessorForJoin, rightCaches.column elidedRight, scaled,
        leftValues]
    | none =>
      have values : right.getAllValuesForJoin _ _ _ = _ :=
        rightAgrees ⟨staticRight, by simp [staticLeft, elidedRight]⟩
      simp only [values, Exec.ok_bind, scaled, leftValues]
      rfl
  | none =>
    cases staticRight : right.staticValue with
    | some rightValue =>
      have rightValues (pair) : right.valueFor (join.read pair) = rightValue :=
        rightCaches.static rightValue staticRight _
      have scaled (g : Fin n × Fin m → TypedValue) :
          fastOperator.applyToColumnVectorAndStaticValue (joinedTupleIds.map g) rightValue =
            joinedTupleIds.map fun pair => f (g pair) rightValue :=
        (loops.columnVectorAndStaticValue _ _).trans List.map_map
      cases elidedLeft : left.elided build join with
      | some attr =>
        simp only [applyToValueAccessorAndStaticValueForJoin, leftCaches.column elidedLeft, scaled,
          rightValues]
      | none =>
        have values : left.getAllValuesForJoin _ _ _ = _ := leftAgrees ⟨staticLeft, elidedLeft⟩
        simp only [values, Exec.ok_bind, scaled, rightValues]
        rfl
    | none =>
      -- Beside a left operand the right one is read in place only if it could be anyway.
      have inPlace {attr} (beside : right.elidedBeside left build join = some attr) :
          right.elided build join = some attr := by
        unfold ScalarJoinMethods.elidedBeside at beside
        split at beside
        · cases beside
        · exact beside
      have rightValues (beside : right.elidedBeside left build join = none) :
          right.getAllValuesForJoin _ _ _ = _ :=
        rightAgrees ⟨staticRight, by simp [staticLeft, beside]⟩
      cases elidedLeft : left.elided build join with
      | some leftAttr =>
        cases elidedRight : right.elidedBeside left build join with
        | some rightAttr =>
          simp only [applyToValueAccessorsForJoin, leftCaches.column elidedLeft,
            rightCaches.column (inPlace elidedRight), columns]
        | none =>
          simp only [rightValues elidedRight, Exec.ok_bind,
            applyToValueAccessorAndColumnVectorForJoin, leftCaches.column elidedLeft, columns]
          rfl
      | none =>
        have leftValues : left.getAllValuesForJoin _ _ _ = _ := leftAgrees ⟨staticLeft, elidedLeft⟩
        cases elidedRight : right.elidedBeside left build join with
        | some rightAttr =>
          simp only [leftValues, Exec.ok_bind, applyToColumnVectorAndValueAccessorForJoin,
            rightCaches.column (inPlace elidedRight), columns]
          rfl
        | none =>
          simp only [leftValues, rightValues elidedRight, Exec.ok_bind, columns]
          rfl

/-- A binary expression over operands that agree, by an operator that loops over `f`. -/
theorem joinBinaryExpression_agrees_iff {operation : BinaryOperation}
    {left right : ScalarJoinMethods} {f : TypedValue → TypedValue → TypedValue}
    (loops : (ops.makeUncheckedBinaryOperatorForTypes operation left.type right.type).LoopsOver f)
    (leftCaches : left.Caches) (rightCaches : right.Caches)
    (leftAgrees : left.Evaluated build join → left.AgreesForJoin build join joinedTupleIds)
    (rightAgrees : right.EvaluatedBeside left build join →
      right.AgreesForJoin build join joinedTupleIds) :
    (joinBinaryExpression ops operation left right).AgreesForJoin build join joinedTupleIds ↔
      (left.staticValue = none ∨ right.staticValue = none → ∀ pair ∈ joinedTupleIds,
        let fastOperator := ops.makeUncheckedBinaryOperatorForTypes operation left.type right.type
        f (left.valueFor (join.read pair)) (right.valueFor (join.read pair)) =
          fastOperator.applyToTypedValues (left.valueFor (join.read pair))
            (right.valueFor (join.read pair))) := by
  unfold ScalarJoinMethods.AgreesForJoin joinBinaryExpression scalarBinaryExpression
  cases static : binaryStaticValue ops operation left.toScalarMethods right.toScalarMethods with
  | some value =>
    simp only [makeVectorOfValue_eq_map, true_iff]
    intro dynamic
    rw [binaryStaticValue_eq_none_iff.mpr dynamic] at static
    cases static
  | none =>
    have dynamic := binaryStaticValue_eq_none_iff.mp static
    have column := binaryGetAllValuesForJoin_eq loops leftCaches rightCaches dynamic leftAgrees
      rightAgrees
    simp only [column, Except.ok.injEq, List.map_inj_left, dynamic, true_imp_iff]

end Nodes

/-! ## CASE -/

section Case

variable {n m : Nat} {join : JoinSides n m} {joinedTupleIds : JoinedTupleIds n m}

/-- The pairs at some positions. -/
def pairsAt (positions : TupleIdSequence joinedTupleIds.length) : JoinedTupleIds n m :=
  positions.ids.map joinedTupleIds.get

/-- The pairs at the positions for which a property of the pairs holds. -/
theorem pairsAt_of_holds {positions chosen : TupleIdSequence joinedTupleIds.length}
    {holds : Fin n × Fin m → Bool}
    (chooses : ∀ pos, pos ∈ chosen ↔ pos ∈ positions ∧ holds (joinedTupleIds.get pos) = true) :
    pairsAt chosen = (pairsAt positions).filter holds := by
  unfold pairsAt
  rw [ids_of_subset fun pos mem => ((chooses pos).mp mem).1, List.filter_map]
  refine congrArg (List.map _) (List.filter_congr fun pos mem => ?_)
  rw [Bool.eq_iff_iff]
  exact (chooses pos).trans (and_iff_right (mem_ids.mp mem))

/-- The loop over the positions, from any positions and pairs on. -/
theorem foldl_checkPairs {holds : Fin n × Fin m → Bool} {visited : List (Fin joinedTupleIds.length)}
    {current : TupleIdSequence joinedTupleIds.length × JoinedTupleIds n m} :
    let final := visited.foldl (fun current pos =>
      if holds (joinedTupleIds.get pos) then
        (current.1.set pos true, current.2 ++ [joinedTupleIds.get pos])
      else current) current
    (∀ pos, pos ∈ final.1 ↔
      pos ∈ current.1 ∨ pos ∈ visited ∧ holds (joinedTupleIds.get pos) = true) ∧
    final.2 = current.2 ++ (visited.map joinedTupleIds.get).filter holds := by
  induction visited generalizing current with
  | nil => simp
  | cons first visited ih =>
    rw [List.foldl_cons]
    obtain ⟨positions, pairs⟩ := @ih (if holds (joinedTupleIds.get first) then
      (current.1.set first true, current.2 ++ [joinedTupleIds.get first]) else current)
    refine ⟨fun pos => (positions pos).trans ?_, pairs.trans ?_⟩
    · by_cases here : pos = first
      · subst here
        by_cases matched : holds (joinedTupleIds.get pos) = true <;> simp_all
      · by_cases matched : holds (joinedTupleIds.get first) = true <;> simp_all
    · by_cases matched : holds (joinedTupleIds.get first) = true <;> simp_all

variable {casePredicate : PredicateMethods} {branches : List (PredicateMethods × ScalarJoinMethods)}
  {elseResultExpression : ScalarJoinMethods} {build : JoinBuild}
  {elsePositions : TupleIdSequence joinedTupleIds.length}

/-- Whether a WHEN predicate matches a pair. -/
def matchesPair (join : JoinSides n m) (casePredicate : PredicateMethods) (pair : Fin n × Fin m) :
    Bool :=
  casePredicate.matchesFor (join.read pair)

theorem mem_checkPairs {pos : Fin joinedTupleIds.length} :
    pos ∈ (checkPairs join joinedTupleIds casePredicate elsePositions).1 ↔
      pos ∈ elsePositions ∧ matchesPair join casePredicate (joinedTupleIds.get pos) = true := by
  have checked := (@foldl_checkPairs n m joinedTupleIds (matchesPair join casePredicate)
    elsePositions.ids (.create _, [])).1 pos
  simp only [not_mem_create, false_or, mem_ids] at checked
  exact checked

theorem checkPairs_pairs :
    (checkPairs join joinedTupleIds casePredicate elsePositions).2 =
      (pairsAt elsePositions).filter (matchesPair join casePredicate) :=
  (@foldl_checkPairs n m joinedTupleIds (matchesPair join casePredicate) elsePositions.ids
    (.create _, [])).2

/-- The pairs that a WHEN leaves for the later ones. -/
theorem pairsAt_remaining :
    pairsAt (elsePositions.intersectWithComplement
        (checkPairs join joinedTupleIds casePredicate elsePositions).1) =
      (pairsAt elsePositions).filter fun pair => !matchesPair join casePredicate pair := by
  apply pairsAt_of_holds
  intro pos
  rw [mem_intersectWithComplement, mem_checkPairs, Bool.not_eq_true', Bool.eq_false_iff]
  exact ⟨fun left => ⟨left.1, fun holds => left.2 ⟨left.1, holds⟩⟩,
    fun left => ⟨left.1, fun both => left.2 both.2⟩⟩

/-- **The loop over the WHEN predicates** gives every position to the first WHEN that matches its
pair. -/
theorem split_caseMatchesForJoin :
    let split := caseMatchesForJoin join joinedTupleIds branches elsePositions
    Split (fun pos => join.read (joinedTupleIds.get pos)) branches elsePositions
      (split.1.map fun case => (case.positions, case.result), split.2) := by
  induction branches generalizing elsePositions with
  | nil => exact .nil
  | cons branch branches ih =>
    obtain ⟨casePredicate, result⟩ := branch
    unfold caseMatchesForJoin
    split
    · rename_i empty
      exact .of_empty empty
    · rename_i nonempty
      exact Split.cons (Bool.eq_false_iff.mpr nonempty) (fun pos => mem_checkPairs) ih

/-- The pairs of the branch with a number: its WHEN is the first that holds for them. -/
def pairsOfBranch (join : JoinSides n m) (whenPredicates : List PredicateMethods) (number : Nat)
    (joinedTupleIds : JoinedTupleIds n m) : JoinedTupleIds n m :=
  joinedTupleIds.filter fun pair => firstHolding (join.read pair) whenPredicates = number

theorem pairsOfBranch_zero {whenPredicates : List PredicateMethods} (left : JoinedTupleIds n m) :
    pairsOfBranch join (casePredicate :: whenPredicates) 0 left =
      left.filter (matchesPair join casePredicate) := by
  refine List.filter_congr fun pair _ => ?_
  rw [firstHolding_cons, matchesPair]
  cases casePredicate.matchesFor (join.read pair) <;> simp

theorem pairsOfBranch_succ {whenPredicates : List PredicateMethods} (number : Nat)
    (left : JoinedTupleIds n m) :
    pairsOfBranch join (casePredicate :: whenPredicates) (number + 1) left =
      pairsOfBranch join whenPredicates number
        (left.filter fun pair => !matchesPair join casePredicate pair) := by
  unfold pairsOfBranch
  rw [List.filter_filter]
  refine List.filter_congr fun pair _ => ?_
  rw [firstHolding_cons, matchesPair]
  cases casePredicate.matchesFor (join.read pair) <;> simp

/-- Each result expression agrees on the pairs of its branch. -/
def ResultsAgree (build : JoinBuild) (join : JoinSides n m)
    (branches : List (PredicateMethods × ScalarJoinMethods)) (left : JoinedTupleIds n m) : Prop :=
  ∀ (number : Nat) (branch : PredicateMethods × ScalarJoinMethods), branches[number]? = some branch →
    branch.2.AgreesForJoin build join (pairsOfBranch join (branches.map Prod.fst) number left)

theorem caseMatchesForJoin_agree
    (agree : ResultsAgree build join branches (pairsAt elsePositions)) :
    ∀ case ∈ (caseMatchesForJoin join joinedTupleIds branches elsePositions).1,
      case.pairs = pairsAt case.positions ∧ case.result.AgreesForJoin build join case.pairs := by
  induction branches generalizing elsePositions with
  | nil =>
    intro case isCase
    exact absurd isCase List.not_mem_nil
  | cons branch branches ih =>
    obtain ⟨casePredicate, result⟩ := branch
    unfold caseMatchesForJoin
    split
    · intro case isCase
      exact absurd isCase List.not_mem_nil
    · intro case isCase
      rcases List.mem_cons.mp isCase with rfl | later
      · have first := agree 0 _ rfl
        rw [List.map_cons, pairsOfBranch_zero] at first
        simp only [checkPairs_pairs]
        exact ⟨(pairsAt_of_holds fun pos => mem_checkPairs).symm, first⟩
      · apply ih _ case later
        intro number branch isBranch
        have next := agree (number + 1) branch isBranch
        rwa [List.map_cons, pairsOfBranch_succ, ← pairsAt_remaining] at next

/-- What is left for ELSE. -/
theorem pairsAt_otherwise :
    pairsAt (caseMatchesForJoin join joinedTupleIds branches elsePositions).2 =
      pairsOfBranch join (branches.map Prod.fst) branches.length (pairsAt elsePositions) := by
  induction branches generalizing elsePositions with
  | nil => simp [caseMatchesForJoin, pairsOfBranch, firstHolding]
  | cons branch branches ih =>
    obtain ⟨casePredicate, result⟩ := branch
    unfold caseMatchesForJoin
    split
    · rename_i empty
      have none : pairsAt elsePositions = [] := by
        unfold pairsAt
        rw [List.map_eq_nil_iff, List.eq_nil_iff_forall_not_mem]
        exact fun pos mem => empty_iff.mp empty pos (mem_ids.mp mem)
      rw [none]
      rfl
    · refine ih.trans ?_
      rw [pairsAt_remaining, List.map_cons, List.length_cons, pairsOfBranch_succ]

theorem pairsAt_setAll :
    pairsAt ((TupleIdSequence.create joinedTupleIds.length).setAll true) = joinedTupleIds := by
  have everyPosition : ((TupleIdSequence.create joinedTupleIds.length).setAll true).ids =
      List.finRange joinedTupleIds.length := by
    apply List.filter_eq_self.mpr
    exact fun pos _ => mem_iff_get.mp (mem_setAll.mpr rfl)
  rw [pairsAt, everyPosition, List.map_get_finRange]

/-- The column of a branch lists the values of its pairs. -/
theorem branchColumnForJoin_eq {result : ScalarJoinMethods} {pairs : JoinedTupleIds n m}
    (agrees : result.AgreesForJoin build join pairs) :
    branchColumnForJoin join build result pairs =
      .ok ⟨result.joinColumnType, pairs.map fun pair => result.valueFor (join.read pair)⟩ := by
  have values : result.getAllValuesForJoin _ _ _ = _ := agrees
  unfold branchColumnForJoin
  rw [values]
  rfl

/-- **CASE over joined tuples**: the columns of the branches are multiplexed back into the values of
the pairs, by the branch of the first WHEN that matches, unless the column of the branch of some pair is of
another class than the type of the CASE. -/
theorem caseGetAllValuesForJoin_eq {type : DataType}
    (agree : ResultsAgree build join branches joinedTupleIds)
    (elseAgrees : elseResultExpression.AgreesForJoin build join
      (pairsOfBranch join (branches.map Prod.fst) branches.length joinedTupleIds)) :
    caseGetAllValuesForJoin join joinedTupleIds type branches elseResultExpression build =
      if joinedTupleIds.all fun pair =>
          SameLayout (firstMatch (join.read pair) branches elseResultExpression).joinColumnType type then
        .ok (joinedTupleIds.map fun pair =>
          (firstMatch (join.read pair) branches elseResultExpression).valueFor (join.read pair))
      else .error .undefinedBehaviour := by
  have splits := @split_caseMatchesForJoin n m join joinedTupleIds branches
    ((TupleIdSequence.create _).setAll true)
  have results := caseMatchesForJoin_agree (by rwa [pairsAt_setAll])
  have otherwise := @pairsAt_otherwise n m join joinedTupleIds branches
    ((TupleIdSequence.create _).setAll true)
  unfold caseGetAllValuesForJoin
  generalize caseMatchesForJoin join joinedTupleIds branches
    ((TupleIdSequence.create _).setAll true) = final at splits results otherwise
  obtain ⟨cases, elsePositions⟩ := final
  simp only [pairsAt_setAll] at splits results otherwise ⊢
  let column (result : ScalarJoinMethods) (pos : Fin joinedTupleIds.length) :=
    result.valueFor (join.read (joinedTupleIds.get pos))
  have columns := @Split.multiplexColumnVectors_eq _ none _ _ _ _ _ splits elseResultExpression
    (by simp [iterated]) type ScalarJoinMethods.joinColumnType column
  have caseResults : cases.mapM (fun case => do
      let caseResult ← branchColumnForJoin join build case.result case.pairs
      pure (case.positions, caseResult)) =
      .ok (Split.columns (cases.map fun case => (case.positions, case.result), elsePositions)
        ScalarJoinMethods.joinColumnType column) := by
    unfold Split.columns
    rw [List.map_map]
    apply Exec.mapM_eq_ok
    intro case isCase
    obtain ⟨pairs, agrees⟩ := results case isCase
    rw [branchColumnForJoin_eq agrees, pairs, pairsAt, List.map_map]
    rfl
  rw [← otherwise] at elseAgrees
  have elseResult := branchColumnForJoin_eq elseAgrees
  rw [pairsAt, List.map_map] at elseResult
  have positions : (iterated (none : Option (TupleIdSequence joinedTupleIds.length))).length =
      joinedTupleIds.length := List.length_finRange
  have values : (iterated none).map (fun pos =>
        column (firstMatch (join.read (joinedTupleIds.get pos)) branches elseResultExpression) pos) =
      joinedTupleIds.map fun pair =>
        (firstMatch (join.read pair) branches elseResultExpression).valueFor (join.read pair) := by
    conv_rhs => rw [← List.map_get_finRange joinedTupleIds, List.map_map]
    rfl
  have layouts : (∀ pos ∈ iterated none, SameLayout (firstMatch (join.read (joinedTupleIds.get pos))
        branches elseResultExpression).joinColumnType type) ↔
      joinedTupleIds.all (fun pair =>
        SameLayout (firstMatch (join.read pair) branches elseResultExpression).joinColumnType type) =
          true := by
    rw [List.all_eq_true]
    simp only [decide_eq_true_eq]
    conv_rhs => rw [← List.map_get_finRange joinedTupleIds, List.forall_mem_map]
    rfl
  rw [positions, values] at columns
  simp only [layouts] at columns
  simp only [caseResults, Exec.ok_bind, elseResult, ← columns]
  cases elsePositions.empty <;> rfl

end Case

end Quickstep.Expressions
