import Quickstep.Expressions.JoinNodes
import Quickstep.Types.LiteralComparators
import Quickstep.Types.LiteralWrites
import Quickstep.Types.OperationTyping
import Quickstep.Types.SubstringWrites

/-!
# Unary operators over joined tuples

`applyToValueAccessorForJoin` of the four unary operators, with the column vector that it fills. Each
operator has its own loop over the pairs and reserves a length of its own for the results.
-/

namespace Quickstep.Types
open Quickstep.Lib Bytes

/-- Of a CHAR only the characters count. -/
theorem TypedValue.sameValue_char_of_characters {left right : List (BitVec 8)} {read : TypedValue}
    (characters : CString.characters left = CString.characters right)
    (same : (TypedValue.char right).SameValue read) : (TypedValue.char left).SameValue read := by
  have outOfLine : ∀ data, (TypedValue.char data).hasOutOfLineData = true := fun _ => rfl
  unfold TypedValue.SameValue at same ⊢
  cases isString : read.hasOutOfLineData with
  | true =>
    simp only [outOfLine, isString, Bool.and_self, if_true] at same ⊢
    exact characters.trans same
  | false =>
    simp only [isString, Bool.and_false, Bool.false_eq_true, if_false] at same
    rw [← same, outOfLine] at isString
    cases isString

/-- What the loops of the operators on literals append for an argument. -/
def UnaryFunctor.appended (functor : UnaryFunctor) (argumentNullable : Bool) (argument : TypedValue) :
    NativeColumnVector.Value :=
  if argumentNullable && argument.isNull then .null
  else .directWrite (functor.result.bytes (functor.apply (argument.getLiteral functor.argument)))

section Literals

variable {resultType : DataType} {functor : UnaryFunctor} {argumentNullable : Bool}
  {argument : TypedValue}

/-- What a loop on literals appends can be put into the result, and means what the functor returns. -/
theorem UnaryFunctor.appended_spec (sameType : resultType.getTypeID = functor.result.typeId)
    (nullable : argumentNullable = true → resultType.isNullable = true) :
    NativeColumnVector.Placeable resultType (functor.appended argumentNullable argument) ∧
      (functor.appended argumentNullable argument).meaning resultType =
        if argumentNullable && argument.isNull then resultType.makeNullValue
        else functor.applyTo argument := by
  unfold UnaryFunctor.appended
  cases null : argumentNullable && argument.isNull with
  | true =>
    rw [if_pos rfl, if_pos rfl]
    exact ⟨CppType.placeable_null sameType (nullable (Bool.and_eq_true_iff.mp null).1), rfl⟩
  | false =>
    rw [if_neg Bool.false_ne_true, if_neg Bool.false_ne_true]
    exact ⟨CppType.placeable_bytes sameType _, CppType.makeValue_bytes sameType _⟩

end Literals

namespace SubstringOperation

section Values

variable {startPosition substringLength : BitVec 64} {type : DataType} {argument : TypedValue}

/-- A terminator behind a text that does not fill its memory. -/
theorem characters_set_terminator {text output : List (BitVec 8)} (short : text.length < output.length) :
    CString.characters ((text ++ output.drop text.length).set text.length 0) =
      CString.characters text := by
  rw [List.set_append_right _ _ (Nat.le_refl _), Nat.sub_self, List.drop_eq_getElem_cons short,
    List.set_cons_zero, List.append_cons, CString.characters_append, CString.characters_append_zero]
  exact List.mem_append_right _ (List.mem_singleton_self 0)

/-- The characters of a result in fresh memory of the length asked for. -/
theorem characters_writeSubstring {output input : List (BitVec 8)}
    {startPosition stringLength maximumLength : Nat} (length : output.length = maximumLength)
    (covered : stringLength ≤ input.length) :
    CString.characters
      (writeSubstring output input startPosition stringLength maximumLength maximumLength) =
      if startPosition ≥ stringLength then []
      else (CString.characters (input.drop startPosition)).take
        (min (stringLength - startPosition) maximumLength) := by
  unfold writeSubstring
  split
  · cases output with
    | nil => rfl
    | cons byte output => rfl
  · rw [← CString.characters_take_eq]
    have copied : ((input.drop startPosition).take
        (min (stringLength - startPosition) maximumLength)).length =
        min (stringLength - startPosition) maximumLength := by
      rw [List.length_take, List.length_drop]
      omega
    simp only
    split
    · next short =>
      have terminated := characters_set_terminator (copied.trans_lt (short.trans_eq length.symm))
      rwa [copied] at terminated
    · next full =>
      have nothing : output.drop (min (stringLength - startPosition) maximumLength) = [] := by
        apply List.drop_eq_nil_of_le
        omega
      rw [nothing, List.append_nil]

/-- What the operator for a type returns has the characters of the substring. -/
theorem Lengths.applyToTypedValue_spec (lengths : Lengths type argument) {platform : Platform}
    (allocates : ∀ size, (platform.malloc size).length = size.toNat)
    {fastOperator : UncheckedUnaryOperator}
    (made : makeUncheckedUnaryOperatorForType platform startPosition substringLength type =
      some fastOperator) (notNull : argument.isNull = false) :
    ∃ data, fastOperator.applyToTypedValue argument = .char data ∧
      CString.characters data = cut startPosition substringLength argument := by
  obtain ⟨resultType, -, rfl⟩ := Option.map_eq_some_iff.mp made
  have covered : argument.characters.length ≤ argument.getOutOfLineData.length :=
    CString.length_characters_le _
  unfold defaultUnaryOperator
  simp only [notNull, Bool.and_false, Bool.false_eq_true, if_false, lengths.unchecked]
  refine ⟨_, rfl, ?_⟩
  rw [characters_writeSubstring (allocates _) covered]
  exact lengths.cut_eq

/-- What the loops append can always be put into the result: where there is no room for a terminator,
the next position begins where this one does. -/
theorem placeable_appended_of_lengths (valid : HasArgument type argument) :
    NativeColumnVector.Placeable (resultType startPosition substringLength type)
      (InMemory.appended startPosition substringLength type argument) := by
  unfold InMemory.appended
  cases null : argument.isNull with
  | true =>
    have nullable := valid.nullable null
    rw [nullable]
    exact NativeColumnVector.Value.Checked.placeable usable_resultType nullable
  | false =>
    have lengths := valid.lengths null
    rw [Bool.and_false, if_neg Bool.false_ne_true]
    refine ⟨nofun, fun _ column position _ => ?_⟩
    have spec := @Lengths.computeSubstring_spec startPosition substringLength type argument lengths
    apply NativeColumnVector.writesAt_store rfl
    · by_cases room : argument.characters.length ≤ startPosition.toNat →
          (computeMaximumSubstringLength startPosition substringLength type).toNat ≠ 0
      · exact .inl (spec.1.mpr room)
      · push Not at room
        exact .inr room.2
    · intro memory dest
      exact lengths.characters_computeSubstring.trans (spec.2 memory dest).symm

end Values

end SubstringOperation

end Quickstep.Types

namespace Quickstep.Expressions
open Quickstep.Lib Quickstep.Types Quickstep.Utility Bytes

/-! ## The loops -/

section Loops

variable {n m : Nat} (join : JoinSides n m) (attr : JoinedAttribute) (joinedTupleIds : JoinedTupleIds n m)
  (values_ : WordMemory 8)

/-- One result for each pair, appended to a column vector with some length reserved. -/
def appendForJoin (resultType : DataType) {reserved_length_ : Nat}
    (appended : TypedValue → NativeColumnVector.Value) (bits : BitVector false reserved_length_) :
    Exec (NativeColumnVector resultType reserved_length_) :=
  (NativeColumnVector.create resultType reserved_length_ values_ bits).appendAll
    (joinedTupleIds.map fun pair => appended (join.valueAt attr pair))

def NegateUncheckedUnaryOperator.applyToValueAccessorForJoin (functor : UnaryFunctor) (type : DataType)
    (bits : BitVector false joinedTupleIds.length) :=
  appendForJoin join attr joinedTupleIds values_ type (functor.appended type.isNullable) bits

def UncheckedNumericCastOperator.applyToValueAccessorForJoin (platform : Platform)
    (source target : NumericType) (targetType type : DataType)
    (bits : BitVector false joinedTupleIds.length) :=
  appendForJoin join attr joinedTupleIds values_ targetType
    (UnaryFunctor.appended ⟨.number source, .number target, staticCast platform source target⟩
      type.isNullable) bits

def DateExtractUncheckedOperator.applyToValueAccessorForJoin (platform : Platform)
    (unit : DateExtractUnit) (type : DataType) (bits : BitVector false joinedTupleIds.length) :=
  appendForJoin join attr joinedTupleIds values_ (.long type.isNullable)
    ((DateExtractOperation.dateExtract platform unit).appended type.isNullable) bits

/-- Here the length reserved is the number of tuples of the accessor. -/
def SubstringUncheckedOperator.applyToValueAccessorForJoin (startPosition substringLength : BitVec 64)
    (type : DataType) (bits : BitVector false (join.getNumTuples attr.usingLeftRelation)) :=
  appendForJoin join attr joinedTupleIds values_
    (SubstringOperation.resultType startPosition substringLength type)
    (SubstringOperation.InMemory.appended startPosition substringLength type) bits

end Loops

/-! ## One value for each pair -/

section Operators

variable {n m : Nat} {join : JoinSides n m} {attr : JoinedAttribute} {joinedTupleIds : JoinedTupleIds n m}

/-- The results that are expected of an operator. -/
def expectedForJoin (fastOperator : UncheckedUnaryOperator) (join : JoinSides n m) (attr : JoinedAttribute)
    (joinedTupleIds : JoinedTupleIds n m) : List TypedValue :=
  joinedTupleIds.map fun pair => fastOperator.applyToTypedValue (join.valueAt attr pair)

/-- The loop of the operator that an operation makes for a type gives one value for each pair, that of
`applyToTypedValue`. -/
def ExactForJoin (platform : Platform) (operation : UnaryOperation) (type : DataType)
    (fastOperator : UncheckedUnaryOperator) (join : JoinSides n m) (attr : JoinedAttribute)
    (joinedTupleIds : JoinedTupleIds n m) : Prop :=
  match operation with
  | .negate => ∀ functor values_ bits,
    NegateUnaryOperation.negateFunctor type.getTypeID = some functor →
      NativeColumnVector.Exactly (NegateUncheckedUnaryOperator.applyToValueAccessorForJoin join attr joinedTupleIds
        values_ functor type bits) (expectedForJoin fastOperator join attr joinedTupleIds)
  | .numericCast targetType => ∀ source target values_ bits,
    type.numericType? = some source → targetType.numericType? = some target →
      NativeColumnVector.Exactly (UncheckedNumericCastOperator.applyToValueAccessorForJoin join attr joinedTupleIds
        values_ platform source target targetType type bits)
        (expectedForJoin fastOperator join attr joinedTupleIds)
  | .dateExtract unit => ∀ values_ bits,
    NativeColumnVector.Exactly (DateExtractUncheckedOperator.applyToValueAccessorForJoin join attr joinedTupleIds
      values_ platform unit type bits) (expectedForJoin fastOperator join attr joinedTupleIds)
  | .substring startPosition substringLength => ∀ values_ bits,
    NativeColumnVector.Exactly (SubstringUncheckedOperator.applyToValueAccessorForJoin join attr joinedTupleIds
      values_ startPosition substringLength type bits)
      (expectedForJoin fastOperator join attr joinedTupleIds)

/-- The attribute has values of its type, strings as the debug checks demand them. -/
structure HasAttribute (type : DataType) (join : JoinSides n m) (attr : JoinedAttribute)
    (joinedTupleIds : JoinedTupleIds n m) : Prop where
  admits : ∀ pair ∈ joinedTupleIds, type.Admits (join.valueAt attr pair)
  strings : type.getSuperTypeID = .asciiString → ∀ pair ∈ joinedTupleIds,
    SubstringOperation.HasArgument type (join.valueAt attr pair)

/-- The loops of the operators on literals have room for all pairs. -/
theorem literals_exactlyForJoin {functor : UnaryFunctor} {type resultType : DataType}
    {f : TypedValue → TypedValue} (sameType : resultType.getTypeID = functor.result.typeId)
    (nullable : type.isNullable = true → resultType.isNullable = true)
    (agrees : ∀ pair ∈ joinedTupleIds, f (join.valueAt attr pair) =
      if type.isNullable && (join.valueAt attr pair).isNull then resultType.makeNullValue
      else functor.applyTo (join.valueAt attr pair))
    (values_ : WordMemory 8) (bits : BitVector false joinedTupleIds.length) :
    NativeColumnVector.Exactly (appendForJoin join attr joinedTupleIds values_ resultType
      (functor.appended type.isNullable) bits)
      (joinedTupleIds.map fun pair => f (join.valueAt attr pair)) := by
  apply (NativeColumnVector.appendAll_exactly_iff _ _ values_ bits).mpr (Nat.le_refl _)
  · intro pair _
    exact (UnaryFunctor.appended_spec sameType nullable).1
  · intro pair mem read same
    rw [agrees pair mem]
    rwa [(UnaryFunctor.appended_spec sameType nullable).2] at same

theorem negate_exactForJoin {platform : Platform} {type : DataType}
    {fastOperator : UncheckedUnaryOperator}
    (made : NegateUnaryOperation.makeUncheckedUnaryOperatorForType type = some fastOperator)
    (has : HasAttribute type join attr joinedTupleIds) :
    ExactForJoin platform .negate type fastOperator join attr joinedTupleIds := by
  intro functor values_ bits found
  have sameType : type.getTypeID = functor.result.typeId := by
    cases type <;> cases found <;> rfl
  unfold NegateUnaryOperation.makeUncheckedUnaryOperatorForType at made
  rw [found] at made
  cases made
  apply literals_exactlyForJoin sameType id
  intro pair mem
  have admits := has.admits pair mem
  unfold defaultUnaryOperator
  simp only
  split
  · next isNull =>
    -- The operator returns the NULL that it was given.
    obtain ⟨-, null⟩ := Bool.and_eq_true_iff.mp isNull
    cases value : join.valueAt attr pair with
    | null typeId =>
      rw [value] at admits
      exact congrArg TypedValue.null admits.typeId
    | int _ | long _ | float _ | double _ | char _ | varChar _ | date _ _ _ | datetime _
    | datetimeInterval _ | yearMonthInterval _ =>
      rw [value] at null
      cases null
  · rfl

theorem numericCast_exactForJoin {platform : Platform} {type targetType : DataType}
    {fastOperator : UncheckedUnaryOperator}
    (can : targetType.isCoercibleFrom type = true)
    (made : NumericCastOperation.makeUncheckedUnaryOperatorForType platform targetType type =
      some fastOperator) :
    ExactForJoin platform (.numericCast targetType) type fastOperator join attr joinedTupleIds := by
  intro source target values_ bits isSource isTarget
  have sameType : targetType.getTypeID = target.typeId := by
    rw [DataType.eq_type_of_numericType? isTarget, NumericType.getTypeID_type]
  unfold NumericCastOperation.makeUncheckedUnaryOperatorForType at made
  rw [isSource, isTarget] at made
  cases made
  apply literals_exactlyForJoin sameType (nullable_of_isCoercibleFrom can)
  intro pair _
  unfold defaultUnaryOperator DataType.makeNullValue
  rw [sameType]

theorem dateExtract_exactForJoin {platform : Platform} {unit : DateExtractUnit} {type : DataType}
    {fastOperator : UncheckedUnaryOperator}
    (made : DateExtractOperation.makeUncheckedUnaryOperatorForType platform unit type =
      some fastOperator) :
    ExactForJoin platform (.dateExtract unit) type fastOperator join attr joinedTupleIds := by
  intro values_ bits
  cases made
  apply literals_exactlyForJoin
  · rfl
  · exact id
  · exact fun _ _ => rfl

/-- **The substring operator** has room only for as many pairs as its accessor has tuples. -/
theorem substring_exactForJoin_iff {platform : Platform} {startPosition substringLength : BitVec 64}
    {type : DataType} {fastOperator : UncheckedUnaryOperator}
    (allocates : ∀ size, (platform.malloc size).length = size.toNat)
    (isString : type.getSuperTypeID = .asciiString)
    (made : SubstringOperation.makeUncheckedUnaryOperatorForType platform startPosition substringLength
      type = some fastOperator)
    (has : HasAttribute type join attr joinedTupleIds) :
    ExactForJoin platform (.substring startPosition substringLength) type fastOperator join attr
        joinedTupleIds ↔
      joinedTupleIds.length ≤ join.getNumTuples attr.usingLeftRelation := by
  have strings := has.strings isString
  have meant : ∀ pair ∈ joinedTupleIds, ∀ read,
      ((SubstringOperation.InMemory.appended startPosition substringLength type
        (join.valueAt attr pair)).meaning
          (SubstringOperation.resultType startPosition substringLength type)).SameValue read →
        (fastOperator.applyToTypedValue (join.valueAt attr pair)).SameValue read := by
    intro pair mem read same
    unfold SubstringOperation.InMemory.appended at same
    cases null : (join.valueAt attr pair).isNull with
    | true =>
      have nullable := (strings pair mem).nullable null
      obtain ⟨resultType, found, rfl⟩ := Option.map_eq_some_iff.mp made
      rw [SubstringOperation.resultTypeForArgumentType_eq isString] at found
      cases found
      rw [null, nullable] at same
      unfold defaultUnaryOperator
      simp only [null, nullable, Bool.and_self, if_true]
      exact same
    | false =>
      have lengths := (strings pair mem).lengths null
      obtain ⟨data, returned, characters⟩ := lengths.applyToTypedValue_spec allocates made null
      rw [null, Bool.and_false, if_neg Bool.false_ne_true] at same
      rw [returned]
      exact TypedValue.sameValue_char_of_characters
        (characters.trans lengths.characters_computeSubstring.symm) same
  have loop := @NativeColumnVector.appendAll_exactly_iff _ (join.getNumTuples attr.usingLeftRelation) _
    joinedTupleIds _ _
    (fun pair mem => SubstringOperation.placeable_appended_of_lengths (strings pair mem)) meant
  constructor
  · intro exact
    exact (loop _ _).mp (exact (fun _ => 0) (.regular (by simp [ShortVersion]) fun _ => 0))
  · intro room values_ bits
    exact (loop values_ bits).mpr room

/-- **The operators over joined tuples** return one value for each pair, but for the substring operator
over more pairs than its accessor has tuples. -/
theorem unaryOperators_exactForJoin_iff {platform : Platform} {operation : UnaryOperation}
    {type : DataType} {fastOperator : UncheckedUnaryOperator}
    (allocates : ∀ size, (platform.malloc size).length = size.toNat)
    (can : operation.canApplyToType type = true)
    (made : operation.makeUncheckedUnaryOperatorForType platform type = some fastOperator)
    (has : HasAttribute type join attr joinedTupleIds) :
    ExactForJoin platform operation type fastOperator join attr joinedTupleIds ↔
      ∀ startPosition substringLength, operation = .substring startPosition substringLength →
        joinedTupleIds.length ≤ join.getNumTuples attr.usingLeftRelation := by
  cases operation with
  | negate => exact iff_of_true (negate_exactForJoin made has) nofun
  | numericCast targetType => exact iff_of_true (numericCast_exactForJoin can made) nofun
  | dateExtract unit => exact iff_of_true (dateExtract_exactForJoin made) nofun
  | substring startPosition substringLength =>
    have isString : type.getSuperTypeID = .asciiString := of_decide_eq_true can
    rw [substring_exactForJoin_iff allocates isString made has]
    constructor
    · intro room _ _ _
      exact room
    · intro room
      exact room startPosition substringLength rfl

end Operators

/-! ## Tuples that are joined twice -/

/-- Tuples of the CHAR "ab", which are joined to the tuples of the other side. -/
def abAndOthers (n m : Nat) : JoinSides n m where
  leftRelationId := 0
  leftAccessor := ⟨.tupleVector (.replicate n [.char [97#8, 98#8]]), none⟩
  rightAccessor := ⟨.tupleVector (.replicate m []), none⟩
  leftNotAdapter := rfl
  rightNotAdapter := rfl

theorem abAndOthers_hasAttribute {n m : Nat} (joinedTupleIds : JoinedTupleIds n m) :
    HasAttribute (.char 2 false) (abAndOthers n m) ⟨true, 0⟩ joinedTupleIds := by
  have value (pair : Fin n × Fin m) :
      (abAndOthers n m).valueAt ⟨true, 0⟩ pair = .char [97#8, 98#8] := by
    show ((Vector.replicate n [TypedValue.char [97#8, 98#8]])[pair.1][0]?).getD _ = _
    rw [Fin.getElem_fin, Vector.getElem_replicate]
    rfl
  constructor
  · intro pair _
    rw [value pair]
    exact ⟨rfl, nofun⟩
  · intro _ pair _
    rw [value pair]
    exact ⟨nofun, fun _ => .char (by decide) (.inl rfl), nofun⟩

/-- The second of two tuples is joined twice, which the length reserved allows; then both are. -/
theorem unaryOperators_exactForJoin_iff_twice :
    ∃ fastOperator, (UnaryOperation.substring 1 1).makeUncheckedUnaryOperatorForType integerPlatform
        (.char 2 false) = some fastOperator ∧
      ExactForJoin integerPlatform (.substring 1 1) (.char 2 false) fastOperator (abAndOthers 2 2)
        ⟨true, 0⟩ [(1, 0), (1, 1)] ∧
      ¬ ExactForJoin integerPlatform (.substring 1 1) (.char 2 false) fastOperator (abAndOthers 2 2)
        ⟨true, 0⟩ [(0, 0), (0, 1), (1, 0), (1, 1)] := by
  refine ⟨_, rfl, ?_, fun exact => ?_⟩
  · exact (unaryOperators_exactForJoin_iff (fun size => List.length_replicate) (by decide) rfl
      (abAndOthers_hasAttribute _)).mpr fun _ _ _ => by decide
  · have room := (unaryOperators_exactForJoin_iff (fun size => List.length_replicate) (by decide) rfl
      (abAndOthers_hasAttribute _)).mp exact 1 1 rfl
    exact absurd room (by decide)

/-- A tuple that two tuples of the other side are joined to exceeds the length reserved. -/
theorem not_unaryOperators_exactForJoin :
    ¬ ∀ (platform : Platform) (operation : UnaryOperation) (type : DataType)
      (fastOperator : UncheckedUnaryOperator) (n m : Nat) (join : JoinSides n m)
      (attr : JoinedAttribute) (joinedTupleIds : JoinedTupleIds n m),
      (∀ size, (platform.malloc size).length = size.toNat) → operation.canApplyToType type = true →
        operation.makeUncheckedUnaryOperatorForType platform type = some fastOperator →
          HasAttribute type join attr joinedTupleIds →
            ExactForJoin platform operation type fastOperator join attr joinedTupleIds := by
  intro always
  have exact := always integerPlatform (.substring 1 1) (.char 2 false) _ 1 2 (abAndOthers 1 2)
    ⟨true, 0⟩ [(0, 0), (0, 1)] (fun size => List.length_replicate) (by decide) rfl
    (abAndOthers_hasAttribute _)
  have room := (substring_exactForJoin_iff (fun size => List.length_replicate) rfl rfl
    (abAndOthers_hasAttribute _)).mp exact
  exact absurd room (by decide)

end Quickstep.Expressions
