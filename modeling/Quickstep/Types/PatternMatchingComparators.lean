import Quickstep.Types.AsciiStringComparators
import Quickstep.Types.LikePatterns

/-!
# Pattern matching over vectors

`PatternMatchingUncheckedComparator` matches a text with a LIKE pattern or a regular expression. Most
entry points are default implementations, which compile the pattern anew for every text. Those for a
constant pattern compile it once, with loops of their own. RE2 is a parameter.
-/

namespace Quickstep.Types
open Quickstep.Lib Quickstep.Common TupleIdSequence

/-- The template arguments and the members of the comparator. -/
structure PatternMatchingUncheckedComparator where
  isLikePattern : Bool
  isNegation : Bool
  leftNullable : Bool
  rightNullable : Bool
  leftLength : Nat
  rightLength : Nat
  deriving DecidableEq, Repr

namespace PatternMatchingUncheckedComparator

section

variable (fullMatch : List (BitVec 8) → List (BitVec 8) → Bool)
  (comparator : PatternMatchingUncheckedComparator)

/-- `match`, with `RE2::FullMatch` of a text and a pattern. -/
def matchText (text pattern : List (BitVec 8)) : Bool :=
  if comparator.isNegation then !fullMatch text pattern else fullMatch text pattern

/-- The pattern that is compiled. -/
def regexPattern (pattern : List (BitVec 8)) (origPatternLen : Nat) : List (BitVec 8) :=
  if comparator.isLikePattern then transformLikeToRegex (pattern.take origPatternLen)
  else pattern.take origPatternLen

def textPiece (text : List (BitVec 8)) : List (BitVec 8) :=
  text.take (strnlen text comparator.leftLength)

/-- `int orig_pattern_len`. -/
def origPatternLen (pattern : List (BitVec 8)) : BitVec 32 :=
  BitVec.ofNat 32 (strnlen pattern comparator.rightLength)

/-- `compareDataPtrsInl` behind its checks. A negative length is one beyond every pattern. -/
def compareData (left right : DataPtr) : Exec Bool := do
  let text ← left.deref
  let pattern ← right.deref
  let origPatternLen := comparator.origPatternLen pattern.getOutOfLineData
  if origPatternLen.msb then .error .undefinedBehaviour
  else
    pure (comparator.matchText fullMatch (comparator.textPiece text.getOutOfLineData)
      (comparator.regexPattern pattern.getOutOfLineData origPatternLen.toNat))

def dataPtrComparator : DataPtrComparator where
  leftNullable := comparator.leftNullable
  rightNullable := comparator.rightNullable
  compareData := comparator.compareData fullMatch

def matchDataPtrWithPattern (text : DataPtr) (pattern : List (BitVec 8)) : Exec Bool := do
  let text ← text.deref
  pure (comparator.matchText fullMatch (comparator.textPiece text.getOutOfLineData) pattern)

/-- The pattern that is compiled before the loop, with a `size_t` for its length. -/
def compiledPattern (staticValue : TypedValue) : List (BitVec 8) :=
  comparator.regexPattern staticValue.getOutOfLineData
    (strnlen staticValue.getOutOfLineData comparator.rightLength)

variable {n : Nat}

def compareColumnVectorAndStaticValue (build : Build) (columnVector : ColumnVector)
    (staticValue : TypedValue) (filter existenceMap : Option (TupleIdSequence n)) :
    Exec (TupleIdSequence n) :=
  let compareAt (position : Nat) : Exec Bool := do
    let cvValue ← columnVector.getUntypedValue comparator.leftNullable position
    guarded (!(comparator.leftNullable && cvValue.isNone))
      (comparator.matchDataPtrWithPattern fullMatch cvValue (comparator.compiledPattern staticValue))
  if comparator.rightNullable && staticValue.isNull then .ok (.create n)
  else
    columnVectorLoop true build filter existenceMap (positionBits columnVector.length compareAt)
      fun position _ => compareAt position

/-- The text is not checked here. -/
def compareValueAccessorAndStaticValue (build : Build) (accessor : ValueAccessor n)
    (valueAccessorAttrId : Nat) (staticValue : TypedValue) (filter : Option (TupleIdSequence n)) :
    Exec (TupleIdSequence n) :=
  if comparator.rightNullable && staticValue.isNull then .ok (.create n)
  else
    valueAccessorLoop build accessor filter fun tid =>
      comparator.matchDataPtrWithPattern fullMatch
        (accessor.getUntypedValueAtAbsolutePosition comparator.leftNullable valueAccessorAttrId tid)
        (comparator.compiledPattern staticValue)

def vectorised : VectorisedComparator where
  compareColumnVectors build _ left right filter existenceMap :=
    (comparator.dataPtrComparator fullMatch).compareColumnVectors build left right filter existenceMap
  compareColumnVectorAndStaticValue build _ left right filter existenceMap :=
    comparator.compareColumnVectorAndStaticValue fullMatch build left right filter existenceMap
  compareStaticValueAndColumnVector build _ left right filter existenceMap :=
    (comparator.dataPtrComparator fullMatch).compareStaticValueAndColumnVectorDefaultImpl build left
      right filter existenceMap
  compareSingleValueAccessor build _ accessor leftId rightId filter :=
    (comparator.dataPtrComparator fullMatch).compareSingleValueAccessorDefaultImpl build accessor
      leftId rightId filter
  compareValueAccessorAndStaticValue build _ accessor leftId right filter :=
    comparator.compareValueAccessorAndStaticValue fullMatch build accessor leftId right filter
  compareStaticValueAndValueAccessor build _ left accessor rightId filter :=
    (comparator.dataPtrComparator fullMatch).compareStaticValueAndValueAccessorDefaultImpl build left
      accessor rightId filter
  compareColumnVectorAndValueAccessor build _ left accessor rightId filter existenceMap :=
    (comparator.dataPtrComparator fullMatch).compareColumnVectorAndValueAccessorDefaultImpl true build
      left accessor rightId filter existenceMap
  compareValueAccessorAndColumnVector build _ accessor leftId right filter existenceMap :=
    (comparator.dataPtrComparator fullMatch).compareColumnVectorAndValueAccessorDefaultImpl false build
      right accessor leftId filter existenceMap

/-- What it means that a text matches a pattern. -/
def Matches (text pattern : TypedValue) : Prop :=
  comparator.matchText fullMatch (comparator.textPiece text.getOutOfLineData)
    (comparator.compiledPattern pattern) = true

end

end PatternMatchingUncheckedComparator

/-! ## The factory -/

/-- The flags of a pattern matching comparison: whether it is LIKE, and whether it is negated. -/
def patternFlags : ComparisonID → Option (Bool × Bool)
  | .like => some (true, false)
  | .notLike => some (true, true)
  | .regexMatch => some (false, false)
  | .notRegexMatch => some (false, true)
  | .equal | .notEqual | .less | .lessOrEqual | .greater | .greaterOrEqual => none

/-- `PatternMatchingComparison::makeUncheckedComparatorForTypes`; `none` where `LOG(FATAL)` ends the
program. -/
def PatternMatchingComparison.makeUncheckedComparatorForTypes (comparison : ComparisonID)
    (left right : DataType) : Option PatternMatchingUncheckedComparator := do
  let leftNullTerminated := left.getTypeID = .varChar
  let rightNullTerminated := right.getTypeID = .varChar
  let leftMaxLength := left.maximumByteLength - if leftNullTerminated then 1 else 0
  let rightMaxLength := right.maximumByteLength - if rightNullTerminated then 1 else 0
  let (isLikePattern, isNegation) ← patternFlags comparison
  pure ⟨isLikePattern, isNegation, left.isNullable, right.isNullable, leftMaxLength.toNat,
    rightMaxLength.toNat⟩

/-! ## The defects -/

section Defects

variable {n : Nat}

/-- The calls that hand a NULL text to the matcher: those that loop over an accessor with a constant
pattern and visit a NULL. -/
def HandsNullText (call : VectorisedCall n) (build : Build) : Prop :=
  match call with
  | .valueAccessorAndStaticValue accessor leftId right filter =>
    right.isNull = false ∧ ∃ t, Visited build filter accessor.tupleIdSequence t ∧
      (accessor.getTypedValueAtAbsolutePosition leftId t).isNull = true
  | _ => False

/-- The pairs of a default implementation whose pattern has a length that an `int` holds, or that match
alike with the part of the pattern that is left. -/
def LengthsFit (fullMatch : List (BitVec 8) → List (BitVec 8) → Bool)
    (comparator : PatternMatchingUncheckedComparator) (call : VectorisedCall n) (build : Build) :
    Prop :=
  (∀ t, Visited build call.filter call.existenceMap t → (call.left t).isNull = false →
    (call.right t).isNull = false →
      (comparator.origPatternLen (call.right t).getOutOfLineData).msb = false) ∧
  ∀ t, Candidate call.filter call.existenceMap t → (call.left t).isNull = false →
    (call.right t).isNull = false →
      (comparator.matchText fullMatch (comparator.textPiece (call.left t).getOutOfLineData)
          (comparator.regexPattern (call.right t).getOutOfLineData
            (comparator.origPatternLen (call.right t).getOutOfLineData).toNat) = true ↔
        comparator.Matches fullMatch (call.left t) (call.right t))

/-- The entry points that are default implementations. -/
def UsesDefaultImpl : VectorisedCall n → Prop
  | .columnVectorAndStaticValue _ _ _ _ | .valueAccessorAndStaticValue _ _ _ _ => False
  | .columnVectors _ _ _ _ | .staticValueAndColumnVector _ _ _ _ | .singleValueAccessor _ _ _ _
  | .staticValueAndValueAccessor _ _ _ _ | .columnVectorAndValueAccessor _ _ _ _ _
  | .valueAccessorAndColumnVector _ _ _ _ _ => True

theorem origPatternLen_of_short {comparator : PatternMatchingUncheckedComparator}
    {pattern : List (BitVec 8)} (short : strnlen pattern comparator.rightLength < 2 ^ 31) :
    (comparator.origPatternLen pattern).msb = false ∧
      (comparator.origPatternLen pattern).toNat = strnlen pattern comparator.rightLength := by
  have toNat : (comparator.origPatternLen pattern).toNat =
      strnlen pattern comparator.rightLength := by
    unfold PatternMatchingUncheckedComparator.origPatternLen
    rw [BitVec.toNat_ofNat, Nat.mod_eq_of_lt (by omega)]
  refine ⟨?_, toNat⟩
  rw [BitVec.msb_eq_false_iff_two_mul_lt, toNat]
  omega

/-- Patterns of less than two GiB all fit. -/
theorem lengthsFit_of_short {fullMatch : List (BitVec 8) → List (BitVec 8) → Bool}
    {comparator : PatternMatchingUncheckedComparator} {call : VectorisedCall n} {build : Build}
    (within : Within call.filter call.existenceMap)
    (short : ∀ t, Visited build call.filter call.existenceMap t →
      strnlen (call.right t).getOutOfLineData comparator.rightLength < 2 ^ 31) :
    LengthsFit fullMatch comparator call build := by
  constructor
  · intro t visited _ _
    exact (origPatternLen_of_short (short t visited)).1
  · intro t candidate _ _
    rw [(origPatternLen_of_short (short t (visited_of_candidate within candidate))).2]
    rfl

end Defects

/-! ## What the entry points return -/

section Selection

variable {fullMatch : List (BitVec 8) → List (BitVec 8) → Bool}
  {comparator : PatternMatchingUncheckedComparator} {leftType rightType : DataType} {n : Nat}
  {build : Build}

/-- The flags for NULL are those of the types. -/
structure ChecksTypes (comparator : PatternMatchingUncheckedComparator)
    (leftType rightType : DataType) : Prop where
  leftNullable : comparator.leftNullable = leftType.isNullable
  rightNullable : comparator.rightNullable = rightType.isNullable

/-- A check for NULL finds every NULL of a column. -/
theorem DataType.HoldsString.checks {type : DataType} {value : TypedValue}
    (holdsString : type.HoldsString value) : (type.isNullable && value.isNull) = value.isNull := by
  rcases holdsString with ⟨null, nullable⟩ | stores
  · rw [null, nullable]
    rfl
  · rw [stores.isNull, Bool.and_false]

/-- `compareTypedValues` on the values of the columns. -/
theorem compareTypedValuesInl_eq (checks : ChecksTypes comparator leftType rightType)
    {left right : TypedValue} (leftHolds : leftType.HoldsString left)
    (rightHolds : rightType.HoldsString right) :
    (comparator.dataPtrComparator fullMatch).compareTypedValuesInl left right =
      if left.isNull || right.isNull then .ok false
      else if (comparator.origPatternLen right.getOutOfLineData).msb then
        .error .undefinedBehaviour
      else
        .ok (comparator.matchText fullMatch (comparator.textPiece left.getOutOfLineData)
          (comparator.regexPattern right.getOutOfLineData
            (comparator.origPatternLen right.getOutOfLineData).toNat)) := by
  unfold DataPtrComparator.compareTypedValuesInl
  change (if comparator.leftNullable && left.isNull || comparator.rightNullable && right.isNull then _
    else comparator.compareData fullMatch (some left) (some right)) = _
  rw [checks.leftNullable, checks.rightNullable, leftHolds.checks, rightHolds.checks]
  cases leftNull : left.isNull with
  | true => rfl
  | false =>
    cases rightNull : right.isNull with
    | true => rfl
    | false =>
      unfold PatternMatchingUncheckedComparator.compareData
      rw [DataPtr.deref_some leftNull, DataPtr.deref_some rightNull]
      rfl

theorem defaultImpl_selects_iff (checks : ChecksTypes comparator leftType rightType)
    {call : VectorisedCall n} (wellFormed : call.WellFormed)
    (reads : call.Reads leftType.HoldsString rightType.HoldsString)
    (judges : call.Judges (comparator.vectorised fullMatch) build
      (comparator.dataPtrComparator fullMatch).compareTypedValuesInl) :
    call.Selects (comparator.vectorised fullMatch) build (comparator.Matches fullMatch) ↔
      LengthsFit fullMatch comparator call build := by
  have returns : ∀ t, Visited build call.filter call.existenceMap t →
      ((∃ holds, (comparator.dataPtrComparator fullMatch).compareTypedValuesInl (call.left t)
        (call.right t) = .ok holds) ↔
      ((call.left t).isNull = false → (call.right t).isNull = false →
        (comparator.origPatternLen (call.right t).getOutOfLineData).msb = false)) := by
    intro t visited
    obtain ⟨leftHolds, rightHolds⟩ := reads t (visited.exists_of_within wellFormed.1)
    rw [compareTypedValuesInl_eq checks leftHolds rightHolds]
    cases (call.left t).isNull with
    | true => simp
    | false =>
      cases (call.right t).isNull with
      | true => simp
      | false => cases (comparator.origPatternLen (call.right t).getOutOfLineData).msb <;> simp
  rw [judges.selects_iff]
  unfold LengthsFit
  rw [forall₂_congr returns]
  refine and_congr_right fun fits => forall₂_congr fun t candidate => ?_
  have visited := @visited_of_candidate n build _ _ t wellFormed.1 candidate
  obtain ⟨leftHolds, rightHolds⟩ := reads t (visited.exists_of_within wellFormed.1)
  have fit := fits t visited
  rw [compareTypedValuesInl_eq checks leftHolds rightHolds]
  cases leftNull : (call.left t).isNull with
  | true => simp
  | false =>
    cases rightNull : (call.right t).isNull with
    | true => simp
    | false =>
      rw [fit leftNull rightNull]
      simp

/-- The comparison of a text that is checked with the constant pattern. -/
theorem guarded_matchDataPtr (checks : ChecksTypes comparator leftType rightType)
    {left : TypedValue} (leftHolds : leftType.HoldsString left) (pattern : List (BitVec 8)) :
    guarded (!(comparator.leftNullable && (left.untyped comparator.leftNullable).isNone))
        (comparator.matchDataPtrWithPattern fullMatch (left.untyped comparator.leftNullable) pattern) =
      if left.isNull then .ok false
      else
        .ok (comparator.matchText fullMatch (comparator.textPiece left.getOutOfLineData) pattern) := by
  rw [DataPtrComparator.isNone_untyped]
  have unchecked : (comparator.leftNullable && left.isNull) = left.isNull := by
    rw [checks.leftNullable, leftHolds.checks]
  rw [unchecked]
  cases null : left.isNull with
  | true => rfl
  | false =>
    rw [DataPtrComparator.untyped_eq (unchecked.trans null)]
    unfold PatternMatchingUncheckedComparator.matchDataPtrWithPattern
    rw [DataPtr.deref_some null]
    rfl

/-- The comparison of a text that is not checked. -/
theorem matchDataPtr_eq (checks : ChecksTypes comparator leftType rightType)
    {left : TypedValue} (leftHolds : leftType.HoldsString left) (pattern : List (BitVec 8)) :
    comparator.matchDataPtrWithPattern fullMatch (left.untyped comparator.leftNullable) pattern =
      if left.isNull then .error .undefinedBehaviour
      else
        .ok (comparator.matchText fullMatch (comparator.textPiece left.getOutOfLineData) pattern) := by
  have unchecked : (comparator.leftNullable && left.isNull) = left.isNull := by
    rw [checks.leftNullable, leftHolds.checks]
  unfold PatternMatchingUncheckedComparator.matchDataPtrWithPattern TypedValue.untyped
  rw [unchecked]
  cases null : left.isNull with
  | true => rfl
  | false =>
    simp only [Bool.false_eq_true, if_false]
    rw [DataPtr.deref_some null]
    rfl

/-- The comparison of the loops over a column with a constant pattern. -/
def PatternMatchingUncheckedComparator.matchColumn
    (fullMatch : List (BitVec 8) → List (BitVec 8) → Bool)
    (comparator : PatternMatchingUncheckedComparator) (left right : TypedValue) : Exec Bool :=
  if comparator.rightNullable && right.isNull then .ok false
  else
    guarded (!(comparator.leftNullable && (left.untyped comparator.leftNullable).isNone))
      (comparator.matchDataPtrWithPattern fullMatch (left.untyped comparator.leftNullable)
        (comparator.compiledPattern right))

/-- The comparison of the loops over an accessor with a constant pattern. -/
def PatternMatchingUncheckedComparator.matchAccessor
    (fullMatch : List (BitVec 8) → List (BitVec 8) → Bool)
    (comparator : PatternMatchingUncheckedComparator) (left right : TypedValue) : Exec Bool :=
  if comparator.rightNullable && right.isNull then .ok false
  else
    comparator.matchDataPtrWithPattern fullMatch (left.untyped comparator.leftNullable)
      (comparator.compiledPattern right)

theorem matchColumn_eq (checks : ChecksTypes comparator leftType rightType)
    {left right : TypedValue} (leftHolds : leftType.HoldsString left)
    (rightHolds : rightType.HoldsString right) :
    comparator.matchColumn fullMatch left right =
      if left.isNull || right.isNull then .ok false
      else
        .ok (comparator.matchText fullMatch (comparator.textPiece left.getOutOfLineData)
          (comparator.compiledPattern right)) := by
  unfold PatternMatchingUncheckedComparator.matchColumn
  rw [guarded_matchDataPtr checks leftHolds, checks.rightNullable, rightHolds.checks]
  cases left.isNull <;> cases right.isNull <;> rfl

theorem matchAccessor_eq (checks : ChecksTypes comparator leftType rightType)
    {left right : TypedValue} (leftHolds : leftType.HoldsString left)
    (rightHolds : rightType.HoldsString right) :
    comparator.matchAccessor fullMatch left right =
      if right.isNull then .ok false
      else if left.isNull then .error .undefinedBehaviour
      else
        .ok (comparator.matchText fullMatch (comparator.textPiece left.getOutOfLineData)
          (comparator.compiledPattern right)) := by
  unfold PatternMatchingUncheckedComparator.matchAccessor
  rw [matchDataPtr_eq checks leftHolds, checks.rightNullable, rightHolds.checks]

theorem columnVectorAndStaticValue_judges {left : Fin n → TypedValue} {right : TypedValue}
    {filter existenceMap : Option (TupleIdSequence n)} (within : Within filter existenceMap) :
    (VectorisedCall.columnVectorAndStaticValue left right filter existenceMap).Judges
      (comparator.vectorised fullMatch) build (comparator.matchColumn fullMatch) := by
  refine DataPtrComparator.runs_of_null (fun null t => if_pos null) ?_
  intro present
  have aligned : ∀ position id, (iterated existenceMap)[position]? = some id →
      (do let cvValue ← ColumnVector.getUntypedValue comparator.leftNullable
            ((iterated existenceMap).map left) position
          guarded (!(comparator.leftNullable && cvValue.isNone))
            (comparator.matchDataPtrWithPattern fullMatch cvValue
              (comparator.compiledPattern right))) =
        comparator.matchColumn fullMatch (left id) right := by
    intro position id place
    rw [DataPtrComparator.getUntypedValue_of_getElem? place, Exec.ok_bind]
    exact (if_neg (Bool.eq_false_iff.mp present)).symm
  exact columnVectorLoop_runs within aligned (DataPtrComparator.positionBits_eq aligned)

theorem valueAccessorAndStaticValue_judges {accessor : ValueAccessor n} {leftId : Nat}
    {right : TypedValue} {filter : Option (TupleIdSequence n)}
    (within : Within filter accessor.tupleIdSequence) :
    (VectorisedCall.valueAccessorAndStaticValue accessor leftId right filter).Judges
      (comparator.vectorised fullMatch) build (comparator.matchAccessor fullMatch) := by
  refine DataPtrComparator.runs_of_null (fun null t => if_pos null) ?_
  intro present
  have same (left : TypedValue) : comparator.matchAccessor fullMatch left right =
      comparator.matchDataPtrWithPattern fullMatch (left.untyped comparator.leftNullable)
        (comparator.compiledPattern right) := if_neg (Bool.eq_false_iff.mp present)
  change Runs _ _ _ fun t =>
    comparator.matchAccessor fullMatch (accessor.getTypedValueAtAbsolutePosition leftId t) right
  simp only [same]
  exact valueAccessorLoop_runs within

/-- **A column** is matched with a constant pattern as it should be. -/
theorem columnVectorAndStaticValue_selects (checks : ChecksTypes comparator leftType rightType)
    {left : Fin n → TypedValue} {right : TypedValue}
    {filter existenceMap : Option (TupleIdSequence n)} (within : Within filter existenceMap)
    (reads : (VectorisedCall.columnVectorAndStaticValue left right filter existenceMap).Reads
      leftType.HoldsString rightType.HoldsString) :
    (VectorisedCall.columnVectorAndStaticValue left right filter existenceMap).Selects
      (comparator.vectorised fullMatch) build (comparator.Matches fullMatch) := by
  rw [(columnVectorAndStaticValue_judges within).selects_iff]
  constructor
  · intro t visited
    obtain ⟨leftHolds, rightHolds⟩ := reads t (visited.exists_of_within within)
    rw [matchColumn_eq checks leftHolds rightHolds]
    split
    · exact ⟨_, rfl⟩
    · exact ⟨_, rfl⟩
  · intro t candidate
    obtain ⟨leftHolds, rightHolds⟩ := reads t (candidate.exists_of_within within)
    rw [matchColumn_eq checks leftHolds rightHolds]
    cases ((VectorisedCall.columnVectorAndStaticValue left right filter existenceMap).left t).isNull with
    | true => simp
    | false =>
      cases ((VectorisedCall.columnVectorAndStaticValue left right filter
          existenceMap).right t).isNull with
      | true => simp
      | false => simp [PatternMatchingUncheckedComparator.Matches]

theorem matchAccessor_of_reads (checks : ChecksTypes comparator leftType rightType)
    {accessor : ValueAccessor n} {leftId : Nat} {right : TypedValue}
    {filter : Option (TupleIdSequence n)} (within : Within filter accessor.tupleIdSequence)
    (reads : (VectorisedCall.valueAccessorAndStaticValue accessor leftId right filter).Reads
      leftType.HoldsString rightType.HoldsString) {t : Fin n}
    (visited : Visited build filter accessor.tupleIdSequence t) :
    comparator.matchAccessor fullMatch (accessor.getTypedValueAtAbsolutePosition leftId t) right =
      if right.isNull then .ok false
      else if (accessor.getTypedValueAtAbsolutePosition leftId t).isNull then
        .error .undefinedBehaviour
      else
        .ok (comparator.matchText fullMatch (comparator.textPiece
            (accessor.getTypedValueAtAbsolutePosition leftId t).getOutOfLineData)
          (comparator.compiledPattern right)) := by
  obtain ⟨leftHolds, rightHolds⟩ := reads t (visited.exists_of_within within)
  exact matchAccessor_eq checks leftHolds rightHolds

theorem not_returns_of_handsNullText (checks : ChecksTypes comparator leftType rightType)
    {accessor : ValueAccessor n} {leftId : Nat} {right : TypedValue}
    {filter : Option (TupleIdSequence n)} (within : Within filter accessor.tupleIdSequence)
    (reads : (VectorisedCall.valueAccessorAndStaticValue accessor leftId right filter).Reads
      leftType.HoldsString rightType.HoldsString)
    (hands : HandsNullText (.valueAccessorAndStaticValue accessor leftId right filter) build) :
    ¬∃ result, (VectorisedCall.valueAccessorAndStaticValue accessor leftId right filter).run
      (comparator.vectorised fullMatch) build = .ok result := by
  obtain ⟨present, t, visited, null⟩ := hands
  rw [(valueAccessorAndStaticValue_judges within).returns]
  intro returns
  obtain ⟨holds, compared⟩ := returns t visited
  have fault := @matchAccessor_of_reads fullMatch comparator leftType rightType n build checks
    accessor leftId right filter within reads t visited
  rw [present, null] at fault
  cases fault.symm.trans compared

/-- **An accessor** is matched with a constant pattern as it should be unless a NULL is visited. -/
theorem valueAccessorAndStaticValue_selects_iff (checks : ChecksTypes comparator leftType rightType)
    {accessor : ValueAccessor n} {leftId : Nat} {right : TypedValue}
    {filter : Option (TupleIdSequence n)} (within : Within filter accessor.tupleIdSequence)
    (reads : (VectorisedCall.valueAccessorAndStaticValue accessor leftId right filter).Reads
      leftType.HoldsString rightType.HoldsString) :
    (VectorisedCall.valueAccessorAndStaticValue accessor leftId right filter).Selects
        (comparator.vectorised fullMatch) build (comparator.Matches fullMatch) ↔
      ¬HandsNullText (.valueAccessorAndStaticValue accessor leftId right filter) build := by
  have judges := @valueAccessorAndStaticValue_judges fullMatch comparator n build accessor leftId
    right filter within
  rw [judges.selects_iff]
  constructor
  · rintro ⟨returns, -⟩ hands
    exact not_returns_of_handsNullText checks within reads hands (judges.returns.mpr returns)
  · intro regular
    have textPresent : right.isNull = false → ∀ t, Visited build filter accessor.tupleIdSequence t →
        (accessor.getTypedValueAtAbsolutePosition leftId t).isNull = false := by
      intro present t visited
      rw [Bool.eq_false_iff]
      exact fun null => regular ⟨present, t, visited, null⟩
    have compared : ∀ t, Visited build filter accessor.tupleIdSequence t →
        comparator.matchAccessor fullMatch (accessor.getTypedValueAtAbsolutePosition leftId t) right =
          .ok (!right.isNull && comparator.matchText fullMatch (comparator.textPiece
              (accessor.getTypedValueAtAbsolutePosition leftId t).getOutOfLineData)
            (comparator.compiledPattern right)) := by
      intro t visited
      rw [matchAccessor_of_reads checks within reads visited]
      cases null : right.isNull with
      | true => rfl
      | false =>
        rw [textPresent null t visited]
        rfl
    refine ⟨fun t visited => ⟨_, compared t visited⟩, fun t candidate => ?_⟩
    have visited := @visited_of_candidate n build _ _ t within candidate
    have compared := compared t visited
    change comparator.matchAccessor fullMatch (accessor.getTypedValueAtAbsolutePosition leftId t)
        right = .ok true ↔
      (accessor.getTypedValueAtAbsolutePosition leftId t).isNull = false ∧ right.isNull = false ∧
        comparator.Matches fullMatch (accessor.getTypedValueAtAbsolutePosition leftId t) right
    rw [compared]
    cases null : right.isNull with
    | true => simp
    | false =>
      rw [textPresent null t visited]
      simp [PatternMatchingUncheckedComparator.Matches]

/-- The accessor and the column of its values give the same tuples. -/
def PathsAgree (fullMatch : List (BitVec 8) → List (BitVec 8) → Bool)
    (comparator : PatternMatchingUncheckedComparator) (build : Build) (accessor : ValueAccessor n)
    (leftId : Nat) (pattern : TypedValue) (filter : Option (TupleIdSequence n)) : Prop :=
  ∃ fromAccessor fromColumn,
    (VectorisedCall.valueAccessorAndStaticValue accessor leftId pattern filter).run
        (comparator.vectorised fullMatch) build = .ok fromAccessor ∧
      (VectorisedCall.columnVectorAndStaticValue (accessor.getTypedValueAtAbsolutePosition leftId)
        pattern filter accessor.tupleIdSequence).run (comparator.vectorised fullMatch) build =
          .ok fromColumn ∧
      ∀ t, t ∈ fromAccessor ↔ t ∈ fromColumn

theorem pathsAgree_iff (checks : ChecksTypes comparator leftType rightType)
    {accessor : ValueAccessor n} {leftId : Nat} {pattern : TypedValue}
    {filter : Option (TupleIdSequence n)} (within : Within filter accessor.tupleIdSequence)
    (reads : (VectorisedCall.valueAccessorAndStaticValue accessor leftId pattern filter).Reads
      leftType.HoldsString rightType.HoldsString) :
    PathsAgree fullMatch comparator build accessor leftId pattern filter ↔
      ¬HandsNullText (.valueAccessorAndStaticValue accessor leftId pattern filter) build := by
  constructor
  · rintro ⟨fromAccessor, -, run, -, -⟩ hands
    exact not_returns_of_handsNullText checks within reads hands ⟨fromAccessor, run⟩
  · intro regular
    obtain ⟨fromAccessor, runAccessor, memAccessor⟩ :=
      (@valueAccessorAndStaticValue_selects_iff fullMatch comparator leftType rightType n build checks
        accessor leftId pattern filter within reads).mpr regular
    obtain ⟨fromColumn, runColumn, memColumn⟩ :=
      @columnVectorAndStaticValue_selects fullMatch comparator leftType rightType n build checks
        (accessor.getTypedValueAtAbsolutePosition leftId) pattern filter accessor.tupleIdSequence
        within reads
    exact ⟨fromAccessor, fromColumn, runAccessor, runColumn, fun t =>
      (memAccessor t).trans (memColumn t).symm⟩

/-- The factory passes the nullability of the types on. -/
theorem makeUncheckedComparatorForTypes_checks {comparison : ComparisonID}
    (made : PatternMatchingComparison.makeUncheckedComparatorForTypes comparison leftType rightType =
      some comparator) : ChecksTypes comparator leftType rightType := by
  cases comparison <;> cases made <;> exact ⟨rfl, rfl⟩

theorem defaultImpl_judges {call : VectorisedCall n} (wellFormed : call.WellFormed)
    (default : UsesDefaultImpl call) :
    call.Judges (comparator.vectorised fullMatch) build
      (comparator.dataPtrComparator fullMatch).compareTypedValuesInl := by
  obtain ⟨within, describes⟩ := wellFormed
  cases call with
  | columnVectors left right filter existenceMap =>
    exact DataPtrComparator.compareColumnVectors_runs _ left right within
  | columnVectorAndStaticValue left right filter existenceMap => exact default.elim
  | staticValueAndColumnVector left right filter existenceMap =>
    exact DataPtrComparator.compareStaticValueAndColumnVectorDefaultImpl_runs _ left right within
  | singleValueAccessor accessor leftId rightId filter =>
    exact DataPtrComparator.compareSingleValueAccessorDefaultImpl_runs _ leftId rightId within
  | valueAccessorAndStaticValue accessor leftId right filter => exact default.elim
  | staticValueAndValueAccessor left accessor rightId filter =>
    exact DataPtrComparator.compareStaticValueAndValueAccessorDefaultImpl_runs _ left rightId within
  | columnVectorAndValueAccessor left accessor rightId filter existenceMap =>
    exact DataPtrComparator.compareColumnVectorAndValueAccessorDefaultImpl_left _ left rightId
      describes within
  | valueAccessorAndColumnVector accessor leftId right filter existenceMap =>
    exact DataPtrComparator.compareColumnVectorAndValueAccessorDefaultImpl_right _ leftId right
      describes within

/-- **Pattern matching over vectors** selects the candidates whose text matches, unless a NULL text in
an accessor is handed to the matcher, or a default implementation meets a pattern whose length an `int`
does not hold. The accessor and the column of its values agree unless a NULL text is handed over. -/
theorem patternMatching_selects_iff (fullMatch : List (BitVec 8) → List (BitVec 8) → Bool)
    {comparison : ComparisonID} (isPattern : (patternFlags comparison).isSome = true)
    (leftType rightType : DataType) :
    ∃ comparator, PatternMatchingComparison.makeUncheckedComparatorForTypes comparison leftType
        rightType = some comparator ∧
      (∀ {n : Nat} (call : VectorisedCall n) (build : Build), call.WellFormed →
        call.Reads leftType.HoldsString rightType.HoldsString →
        (call.Selects (comparator.vectorised fullMatch) build (comparator.Matches fullMatch) ↔
          ¬HandsNullText call build ∧
            (UsesDefaultImpl call → LengthsFit fullMatch comparator call build))) ∧
      ∀ {n : Nat} (accessor : ValueAccessor n) (leftId : Nat) (pattern : TypedValue)
        (filter : Option (TupleIdSequence n)) (build : Build),
        Within filter accessor.tupleIdSequence →
        (VectorisedCall.valueAccessorAndStaticValue accessor leftId pattern filter).Reads
          leftType.HoldsString rightType.HoldsString →
        (PathsAgree fullMatch comparator build accessor leftId pattern filter ↔
          ¬HandsNullText (.valueAccessorAndStaticValue accessor leftId pattern filter) build) := by
  obtain ⟨comparator, made⟩ : ∃ comparator,
      PatternMatchingComparison.makeUncheckedComparatorForTypes comparison leftType rightType =
        some comparator := by
    cases comparison <;> cases isPattern <;> exact ⟨_, rfl⟩
  have checks := makeUncheckedComparatorForTypes_checks made
  refine ⟨comparator, made, fun call build wellFormed reads => ?_,
    fun accessor leftId pattern filter build within reads => pathsAgree_iff checks within reads⟩
  cases call with
  | columnVectorAndStaticValue left right filter existenceMap =>
    exact iff_of_true (columnVectorAndStaticValue_selects checks wellFormed.1 reads)
      ⟨not_false, False.elim⟩
  | valueAccessorAndStaticValue accessor leftId right filter =>
    have within : Within filter accessor.tupleIdSequence := wellFormed.1
    rw [valueAccessorAndStaticValue_selects_iff checks within reads]
    exact (and_iff_left False.elim).symm
  | columnVectors _ _ _ _ | staticValueAndColumnVector _ _ _ _ | singleValueAccessor _ _ _ _
  | staticValueAndValueAccessor _ _ _ _ | columnVectorAndValueAccessor _ _ _ _ _
  | valueAccessorAndColumnVector _ _ _ _ _ =>
    rw [defaultImpl_selects_iff checks wellFormed reads (defaultImpl_judges wellFormed trivial)]
    exact ⟨fun fits => ⟨not_false, fun _ => fits⟩, fun both => both.2 trivial⟩

/-- A tuple whose text is `"a"`, and the pattern `"a"`. -/
def textAndPattern : ValueAccessor 1 where
  store := .tupleVector #v[[.char [97]]]
  tupleIdSequence := none

def matchesItself : VectorisedCall 1 :=
  .valueAccessorAndStaticValue textAndPattern 0 (.char [97]) none

/-- A regular expression of letters matches itself. -/
theorem patternMatching_selects_iff_matchesItself :
    let fullMatch : List (BitVec 8) → List (BitVec 8) → Bool := fun text pattern => text == pattern
    ∃ comparator, PatternMatchingComparison.makeUncheckedComparatorForTypes .regexMatch
        (.char 1 false) (.char 1 false) = some comparator ∧
      (matchesItself.Selects (comparator.vectorised fullMatch) ⟨true, true⟩
          (comparator.Matches fullMatch) ↔
        ¬HandsNullText matchesItself ⟨true, true⟩ ∧
          (UsesDefaultImpl matchesItself →
            LengthsFit fullMatch comparator matchesItself ⟨true, true⟩)) ∧
      (PathsAgree fullMatch comparator ⟨true, true⟩ textAndPattern 0 (.char [97]) none ↔
        ¬HandsNullText matchesItself ⟨true, true⟩) := by
  intro fullMatch
  have stores : (DataType.char 1 false).HoldsString (.char [97]) :=
    .inr (.char (by decide) (.inl rfl))
  have reads : matchesItself.Reads (DataType.char 1 false).HoldsString
      (DataType.char 1 false).HoldsString := by
    intro t _
    obtain rfl := Subsingleton.elim t 0
    exact ⟨stores, stores⟩
  have wellFormed : matchesItself.WellFormed := ⟨nofun, trivial⟩
  obtain ⟨comparator, made, exact, agree⟩ :=
    @patternMatching_selects_iff fullMatch .regexMatch rfl (.char 1 false) (.char 1 false)
  exact ⟨comparator, made, exact matchesItself ⟨true, true⟩ wellFormed reads,
    agree textAndPattern 0 (.char [97]) none ⟨true, true⟩ wellFormed.1 reads⟩

/-- A tuple whose text is NULL. -/
def nullText : ValueAccessor 1 where
  store := .tupleVector #v[[.null .char]]
  tupleIdSequence := none

/-- NULL NOT LIKE `"%"`. The expression for the pattern matches every text. -/
theorem not_patternMatching_selects :
    let fullMatch : List (BitVec 8) → List (BitVec 8) → Bool := fun _ _ => true
    let call : VectorisedCall 1 := .valueAccessorAndStaticValue nullText 0 (.char [37]) none
    ∃ comparator, PatternMatchingComparison.makeUncheckedComparatorForTypes .notLike (.char 1 true)
        (.char 1 false) = some comparator ∧
      call.WellFormed ∧ call.Reads (DataType.char 1 true).HoldsString
        (DataType.char 1 false).HoldsString ∧
      call.run (comparator.vectorised fullMatch) ⟨true, true⟩ = .error .undefinedBehaviour ∧
      ¬call.Selects (comparator.vectorised fullMatch) ⟨true, true⟩ (comparator.Matches fullMatch) ∧
      ¬PathsAgree fullMatch comparator ⟨true, true⟩ nullText 0 (.char [37]) none := by
  intro fullMatch call
  have wellFormed : call.WellFormed := ⟨nofun, trivial⟩
  have reads : call.Reads (DataType.char 1 true).HoldsString
      (DataType.char 1 false).HoldsString := by
    intro t _
    obtain rfl := Subsingleton.elim t 0
    exact ⟨.inl ⟨rfl, rfl⟩, .inr (.char (by decide) (.inl rfl))⟩
  have faults : call.run ((⟨true, true, true, false, 1, 1⟩ :
      PatternMatchingUncheckedComparator).vectorised fullMatch) ⟨true, true⟩ =
        .error .undefinedBehaviour := rfl
  refine ⟨_, rfl, wellFormed, reads, faults, ?_, ?_⟩
  · rintro ⟨result, run, -⟩
    cases faults.symm.trans run
  · rintro ⟨result, -, run, -, -⟩
    cases faults.symm.trans run

end Selection

end Quickstep.Types
