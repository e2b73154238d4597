import Quickstep.Lib.CString
import Quickstep.Types.Coercion
import Quickstep.Types.ComparisonFunctors

/-!
# The order of strings

Strings are compared by a checked helper and by unchecked comparators whose template arguments say
which strings are terminated and which type is longer. All of them follow the lexicographic order of
the characters, except that the checked helper trusts the size of a VARCHAR next to a CHAR.
-/

namespace Quickstep.Types
open Quickstep.Lib CString

/-! ## The unchecked comparators -/

/-- The template arguments and the members of the comparator. -/
structure AsciiStringUncheckedComparator where
  leftNullable : Bool
  leftNullTerminated : Bool
  leftLonger : Bool
  rightNullable : Bool
  rightNullTerminated : Bool
  rightLonger : Bool
  leftLength : Nat
  rightLength : Nat
  deriving DecidableEq, Repr

namespace AsciiStringUncheckedComparator

def strcmpHelper (comparator : AsciiStringUncheckedComparator) (left right : List (BitVec 8)) :
    Exec Int :=
  if comparator.leftNullTerminated && comparator.rightNullTerminated then strcmp left right
  else if comparator.rightLonger then do
    let res ← strncmp left right comparator.leftLength
    if res ≠ 0 then pure res
    else if strnlen right comparator.rightLength > comparator.leftLength then pure (-1) else pure res
  else if comparator.leftLonger then do
    let res ← strncmp left right comparator.rightLength
    if res ≠ 0 then pure res
    else if strnlen left comparator.leftLength > comparator.rightLength then pure 1 else pure res
  else strncmp left right comparator.leftLength

end AsciiStringUncheckedComparator

namespace BasicComparison

def makeStringComparatorInnerHelper
    (leftNullable leftNullTerminated rightNullable rightNullTerminated : Bool)
    (leftLength rightLength : BitVec 64) : AsciiStringUncheckedComparator :=
  if leftLength < rightLength then
    ⟨leftNullable, leftNullTerminated, false, rightNullable, rightNullTerminated, true,
      leftLength.toNat, rightLength.toNat⟩
  else if leftLength > rightLength then
    ⟨leftNullable, leftNullTerminated, true, rightNullable, rightNullTerminated, false,
      leftLength.toNat, rightLength.toNat⟩
  else
    ⟨leftNullable, leftNullTerminated, false, rightNullable, rightNullTerminated, false,
      leftLength.toNat, rightLength.toNat⟩

/-- `none` where the exception `OperationInapplicableToType` is thrown. -/
def makeStringComparatorMiddleHelper (leftNullable leftNullTerminated : Bool) (right : DataType)
    (leftLength : BitVec 64) : Option AsciiStringUncheckedComparator :=
  match right with
  | .char _ nullable => some (makeStringComparatorInnerHelper leftNullable leftNullTerminated nullable
      false leftLength right.maximumByteLength)
  | .varChar _ nullable => some (makeStringComparatorInnerHelper leftNullable leftNullTerminated
      nullable true leftLength (right.maximumByteLength - 1))
  | .int _ | .long _ | .float _ | .double _ | .date _ | .datetime _ | .datetimeInterval _
  | .yearMonthInterval _ | .nullType => none

def makeStringComparatorOuterHelper (left right : DataType) : Option AsciiStringUncheckedComparator :=
  match left with
  | .char _ nullable => makeStringComparatorMiddleHelper nullable false right left.maximumByteLength
  | .varChar _ nullable =>
    makeStringComparatorMiddleHelper nullable true right (left.maximumByteLength - 1)
  | .int _ | .long _ | .float _ | .double _ | .date _ | .datetime _ | .datetimeInterval _
  | .yearMonthInterval _ | .nullType => none

end BasicComparison

/-- The comparator that `InvokeOnLessComparatorForTypeIgnoreNullability` makes for a string type. -/
def lessComparatorForTypeIgnoreNullability : DataType → Option AsciiStringUncheckedComparator
  | .char length _ => some ⟨false, false, false, false, false, false, length.toNat, length.toNat⟩
  | .varChar _ _ => some ⟨false, true, false, false, true, false, 0, 0⟩
  | .int _ | .long _ | .float _ | .double _ | .date _ | .datetime _ | .datetimeInterval _
  | .yearMonthInterval _ | .nullType => none

/-- The terminators of `InvokeOnLessComparatorForDifferentTypesIgnoreNullability`. -/
def nullTerminated? : DataType → Option Bool
  | .char _ _ => some false
  | .varChar _ _ => some true
  | .int _ | .long _ | .float _ | .double _ | .date _ | .datetime _ | .datetimeInterval _
  | .yearMonthInterval _ | .nullType => none

/-- The comparator that `InvokeOnLessComparatorForDifferentTypesIgnoreNullability` makes for two
string types. -/
def lessComparatorForDifferentTypesIgnoreNullability (left right : DataType) :
    Option AsciiStringUncheckedComparator := do
  let leftTerminated ← nullTerminated? left
  let rightTerminated ← nullTerminated? right
  let leftLength := left.getStringLength
  let rightLength := right.getStringLength
  if leftLength < rightLength then
    pure ⟨false, leftTerminated, false, false, rightTerminated, true, leftLength.toNat,
      rightLength.toNat⟩
  else if rightLength < leftLength then
    pure ⟨false, leftTerminated, true, false, rightTerminated, false, leftLength.toNat,
      rightLength.toNat⟩
  else
    pure ⟨false, leftTerminated, false, false, rightTerminated, false, leftLength.toNat,
      rightLength.toNat⟩

/-! ## The checked helper -/

def BasicComparison.strcmpHelper (left right : TypedValue) : Exec Int :=
  if left.getTypeID = .varChar ∧ right.getTypeID = .varChar then
    strcmp left.getOutOfLineData right.getOutOfLineData
  else
    let leftLength := left.getAsciiStringLength
    let rightLength := right.getAsciiStringLength
    if leftLength < rightLength then do
      let res ← strncmp left.getOutOfLineData right.getOutOfLineData leftLength
      if res ≠ 0 then pure res else pure (-1)
    else if leftLength > rightLength then do
      let res ← strncmp left.getOutOfLineData right.getOutOfLineData rightLength
      if res ≠ 0 then pure res else pure 1
    else strncmp left.getOutOfLineData right.getOutOfLineData leftLength

/-! ## Stored strings -/

/-- A string as a type stores it. A CHAR is terminated unless it fills its length. A VARCHAR is
terminated, and its data may go on behind the terminator. -/
inductive DataType.Stores : DataType → TypedValue → Prop where
  | char {length : BitVec 64} {nullable : Bool} {data : List (BitVec 8)} :
    data.length ≤ length.toNat → (data.length = length.toNat ∨ 0 ∈ data) →
      Stores (.char length nullable) (.char data)
  | varChar {length : BitVec 64} {nullable : Bool} {data : List (BitVec 8)} :
    0 ∈ data → (characters data).length ≤ length.toNat →
      Stores (.varChar length nullable) (.varChar data)

/-- The characters of a string value. -/
def TypedValue.characters (value : TypedValue) : List Nat := CString.characters value.getOutOfLineData

theorem strnlen_eq (data : List (BitVec 8)) (maxLength : Nat) :
    strnlen data maxLength = min maxLength (CString.characters data).length := by
  unfold strnlen CString.characters
  rw [List.length_map]
  induction data generalizing maxLength with
  | nil => simp
  | cons c data ih =>
    cases maxLength with
    | zero => simp
    | succ maxLength =>
      rw [List.take_succ_cons, List.takeWhile_cons, List.takeWhile_cons]
      split
      · rw [List.length_cons, List.length_cons, ih, Nat.succ_min_succ]
      · rfl

/-- What a comparator assumes of one side. -/
structure FitsSide (data : List (BitVec 8)) (terminated : Bool) (length : Nat) : Prop where
  fits : (CString.characters data).length ≤ length
  readable : Readable data length
  ends : terminated = true → 0 ∈ data

/-! ## The unchecked comparators follow the order -/

section Unchecked

variable {left right : List (BitVec 8)} {leftLength rightLength : Nat}

namespace AsciiStringUncheckedComparator

theorem strcmpHelper_of_terminated {comparator : AsciiStringUncheckedComparator}
    (leftTerminated : comparator.leftNullTerminated = true)
    (rightTerminated : comparator.rightNullTerminated = true) (leftEnds : 0 ∈ left)
    (rightEnds : 0 ∈ right) :
    comparator.strcmpHelper left right =
      .ok (orderSign (CString.characters left) (CString.characters right)) := by
  unfold strcmpHelper
  rw [leftTerminated, rightTerminated]
  exact strcmp_spec leftEnds rightEnds

theorem returned_eq (res other : Int) (p : Prop) [Decidable p] :
    (if res ≠ 0 then pure res else if p then pure other else pure res : Exec Int) =
      .ok (if res ≠ 0 then res else if p then other else 0) := by
  by_cases differ : res ≠ 0
  · rw [if_pos differ, if_pos differ]
    rfl
  · obtain rfl := not_not.mp differ
    rw [if_neg differ, if_neg differ]
    split <;> rfl

/-- The helper of a comparator whose switches say which side is longer. -/
theorem strcmpHelper_spec {comparator : AsciiStringUncheckedComparator}
    (leftFits : FitsSide left comparator.leftNullTerminated comparator.leftLength)
    (rightFits : FitsSide right comparator.rightNullTerminated comparator.rightLength)
    (leftLonger : comparator.leftLonger = decide (comparator.rightLength < comparator.leftLength))
    (rightLonger :
      comparator.rightLonger = decide (comparator.leftLength < comparator.rightLength)) :
    comparator.strcmpHelper left right =
      .ok (orderSign (CString.characters left) (CString.characters right)) := by
  by_cases terminated :
      (comparator.leftNullTerminated && comparator.rightNullTerminated) = true
  · obtain ⟨leftTerminated, rightTerminated⟩ := Bool.and_eq_true_iff.mp terminated
    exact strcmpHelper_of_terminated leftTerminated rightTerminated (leftFits.ends leftTerminated)
      (rightFits.ends rightTerminated)
  unfold strcmpHelper
  rw [if_neg terminated, leftLonger, rightLonger]
  simp only [decide_eq_true_eq]
  rcases Nat.lt_trichotomy comparator.leftLength comparator.rightLength with less | same | greater
  · rw [if_pos less, strncmp_left leftFits.fits leftFits.readable
      (rightFits.readable.mono less.le), strnlen_eq, Nat.min_eq_right rightFits.fits,
      Exec.ok_bind]
    exact (returned_eq _ _ (_ < _)).trans
      (congrArg Except.ok (orderSign_take_right leftFits.fits).symm)
  · rw [if_neg (by omega), if_neg (by omega), strncmp_left leftFits.fits leftFits.readable
      (same ▸ rightFits.readable), List.take_of_length_le (same ▸ rightFits.fits)]
  · rw [if_neg greater.asymm, if_pos greater, strncmp_right rightFits.fits
      (leftFits.readable.mono greater.le) rightFits.readable, strnlen_eq,
      Nat.min_eq_right leftFits.fits, Exec.ok_bind]
    exact (returned_eq _ _ (_ < _)).trans
      (congrArg Except.ok (orderSign_take_left rightFits.fits).symm)

end AsciiStringUncheckedComparator

end Unchecked

/-! ## The factories -/

section Factories

theorem DataType.Stores.fitsSide {type : DataType} {value : TypedValue} (stores : type.Stores value)
    {terminated : Bool} (kind : nullTerminated? type = some terminated) :
    FitsSide value.getOutOfLineData terminated type.getStringLength.toNat := by
  cases stores with
  | char short ends =>
    cases kind
    refine ⟨(length_characters_le _).trans short, ?_, fun contra => nomatch contra⟩
    exact ends.imp_left fun full => full.ge
  | varChar ends short =>
    cases kind
    exact ⟨short, .inr ends, fun _ => ends⟩

/-- The comparator of two string types, for either nullability. -/
theorem makeStringComparatorOuterHelper_eq {leftType rightType : DataType}
    {leftTerminated rightTerminated : Bool} (leftKind : nullTerminated? leftType = some leftTerminated)
    (rightKind : nullTerminated? rightType = some rightTerminated) :
    BasicComparison.makeStringComparatorOuterHelper leftType rightType =
      some (BasicComparison.makeStringComparatorInnerHelper leftType.isNullable leftTerminated
        rightType.isNullable rightTerminated leftType.getStringLength
        rightType.getStringLength) := by
  have minusOne : ∀ length : BitVec 64, length + 1 - 1 = length := by
    intro length
    rw [BitVec.add_sub_cancel]
  cases leftType <;> cases leftKind <;> cases rightType <;> cases rightKind <;>
    simp only [BasicComparison.makeStringComparatorOuterHelper,
      BasicComparison.makeStringComparatorMiddleHelper, DataType.maximumByteLength, minusOne] <;> rfl

theorem lessComparatorForDifferentTypesIgnoreNullability_eq {leftType rightType : DataType}
    {leftTerminated rightTerminated : Bool} (leftKind : nullTerminated? leftType = some leftTerminated)
    (rightKind : nullTerminated? rightType = some rightTerminated) :
    lessComparatorForDifferentTypesIgnoreNullability leftType rightType =
      some (BasicComparison.makeStringComparatorInnerHelper false leftTerminated false
        rightTerminated leftType.getStringLength rightType.getStringLength) := by
  unfold lessComparatorForDifferentTypesIgnoreNullability
    BasicComparison.makeStringComparatorInnerHelper
  rw [leftKind, rightKind]
  simp only [Option.bind_eq_bind, Option.bind_some, Option.pure_def]
  split
  · rfl
  · split <;> rfl

/-- The comparators that know which side is longer. -/
theorem makeStringComparatorInnerHelper_spec {left right : List (BitVec 8)}
    {leftLength rightLength : BitVec 64} {leftTerminated rightTerminated : Bool}
    (leftNullable rightNullable : Bool) (leftFits : FitsSide left leftTerminated leftLength.toNat)
    (rightFits : FitsSide right rightTerminated rightLength.toNat) :
    (BasicComparison.makeStringComparatorInnerHelper leftNullable leftTerminated rightNullable
      rightTerminated leftLength rightLength).strcmpHelper left right =
      .ok (orderSign (CString.characters left) (CString.characters right)) := by
  unfold BasicComparison.makeStringComparatorInnerHelper
  split
  · rename_i less
    have less : leftLength.toNat < rightLength.toNat := less
    exact AsciiStringUncheckedComparator.strcmpHelper_spec leftFits rightFits
      (decide_eq_false less.asymm).symm (decide_eq_true less).symm
  · rename_i notLess
    have notLess : ¬leftLength.toNat < rightLength.toNat := notLess
    split
    · rename_i greater
      have greater : rightLength.toNat < leftLength.toNat := greater
      exact AsciiStringUncheckedComparator.strcmpHelper_spec leftFits rightFits
        (decide_eq_true greater).symm (decide_eq_false notLess).symm
    · rename_i notGreater
      have notGreater : ¬rightLength.toNat < leftLength.toNat := notGreater
      exact AsciiStringUncheckedComparator.strcmpHelper_spec leftFits rightFits
        (decide_eq_false notGreater).symm (decide_eq_false notLess).symm

/-- The comparator for one type on both sides. -/
theorem lessComparatorForTypeIgnoreNullability_spec {type : DataType} {left right : TypedValue}
    {terminated : Bool} (kind : nullTerminated? type = some terminated)
    (leftStores : type.Stores left) (rightStores : type.Stores right) :
    ∃ comparator, lessComparatorForTypeIgnoreNullability type = some comparator ∧
      comparator.strcmpHelper left.getOutOfLineData right.getOutOfLineData =
        .ok (orderSign left.characters right.characters) := by
  have leftFits := leftStores.fitsSide kind
  have rightFits := rightStores.fitsSide kind
  cases type with
  | char length nullable =>
    cases kind
    exact ⟨_, rfl, AsciiStringUncheckedComparator.strcmpHelper_spec leftFits rightFits
      (decide_eq_false (Nat.lt_irrefl _)).symm (decide_eq_false (Nat.lt_irrefl _)).symm⟩
  | varChar length nullable =>
    cases kind
    exact ⟨_, rfl, AsciiStringUncheckedComparator.strcmpHelper_of_terminated rfl rfl
      (leftFits.ends rfl) (rightFits.ends rfl)⟩
  | int _ | long _ | float _ | double _ | date _ | datetime _ | datetimeInterval _
  | yearMonthInterval _ | nullType => cases kind

end Factories

/-! ## The checked helper -/

section Checked

theorem DataType.Stores.exists_kind {type : DataType} {value : TypedValue}
    (stores : type.Stores value) : ∃ terminated, nullTerminated? type = some terminated := by
  cases stores with
  | char _ _ => exact ⟨false, rfl⟩
  | varChar _ _ => exact ⟨true, rfl⟩

/-- The length that the checked helper takes for a value covers its characters. -/
theorem DataType.Stores.getAsciiStringLength_covers {type : DataType} {value : TypedValue}
    (stores : type.Stores value) :
    value.characters.length ≤ value.getAsciiStringLength ∧
      Readable value.getOutOfLineData value.getAsciiStringLength := by
  cases stores with
  | @char _ _ data _ _ =>
    have short := length_characters_le data
    have length : (TypedValue.char data).getAsciiStringLength = (CString.characters data).length :=
      (strnlen_eq data data.length).trans (Nat.min_eq_right short)
    rw [length]
    exact ⟨le_rfl, .inl short⟩
  | @varChar _ _ data ends _ =>
    have short := length_characters_lt ends
    exact ⟨Nat.le_sub_one_of_lt short, .inr ends⟩

variable {leftType rightType : DataType} {left right : TypedValue}

/-- Equal first characters are told apart by the length, also where nothing differs behind them. -/
theorem returned_by_length {x y : List Nat} {res other : Int} {p : Prop} [Decidable p]
    (order : orderSign x y = if res ≠ 0 then res else if p then other else 0) :
    (if res ≠ 0 then pure res else pure other : Exec Int) =
      .ok (if x = y then other else orderSign x y) := by
  by_cases differ : res ≠ 0
  · rw [if_pos differ] at order
    have notSame : x ≠ y := fun same => differ (order ▸ orderSign_eq_zero.mpr same)
    rw [if_pos differ, if_neg notSame, order]
    rfl
  · rw [if_neg differ] at order ⊢
    by_cases same : x = y
    · rw [if_pos same]
      rfl
    · have longer : p := by
        by_contra notLonger
        rw [if_neg notLonger] at order
        exact same (orderSign_eq_zero.mp order)
      rw [if_neg same, order, if_pos longer]
      rfl

theorem strcmpHelper_of_lt (leftStores : leftType.Stores left) (rightStores : rightType.Stores right)
    (different : ¬(left.getTypeID = .varChar ∧ right.getTypeID = .varChar))
    (less : left.getAsciiStringLength < right.getAsciiStringLength) :
    BasicComparison.strcmpHelper left right =
      .ok (if left.characters = right.characters then -1
        else orderSign left.characters right.characters) := by
  obtain ⟨leftCovers, leftReadable⟩ := leftStores.getAsciiStringLength_covers
  obtain ⟨-, rightReadable⟩ := rightStores.getAsciiStringLength_covers
  unfold BasicComparison.strcmpHelper
  rw [if_neg different, if_pos less, strncmp_left leftCovers leftReadable
    (rightReadable.mono less.le), Exec.ok_bind]
  exact returned_by_length (orderSign_take_right leftCovers)

theorem strcmpHelper_of_gt (leftStores : leftType.Stores left) (rightStores : rightType.Stores right)
    (different : ¬(left.getTypeID = .varChar ∧ right.getTypeID = .varChar))
    (greater : right.getAsciiStringLength < left.getAsciiStringLength) :
    BasicComparison.strcmpHelper left right =
      .ok (if left.characters = right.characters then 1
        else orderSign left.characters right.characters) := by
  obtain ⟨-, leftReadable⟩ := leftStores.getAsciiStringLength_covers
  obtain ⟨rightCovers, rightReadable⟩ := rightStores.getAsciiStringLength_covers
  unfold BasicComparison.strcmpHelper
  rw [if_neg different, if_neg greater.asymm, if_pos greater, strncmp_right rightCovers
    (leftReadable.mono greater.le) rightReadable, Exec.ok_bind]
  exact returned_by_length (orderSign_take_left rightCovers)

theorem strcmpHelper_of_eq (leftStores : leftType.Stores left) (rightStores : rightType.Stores right)
    (different : ¬(left.getTypeID = .varChar ∧ right.getTypeID = .varChar))
    (same : left.getAsciiStringLength = right.getAsciiStringLength) :
    BasicComparison.strcmpHelper left right =
      .ok (orderSign left.characters right.characters) := by
  obtain ⟨leftCovers, leftReadable⟩ := leftStores.getAsciiStringLength_covers
  obtain ⟨rightCovers, rightReadable⟩ := rightStores.getAsciiStringLength_covers
  unfold BasicComparison.strcmpHelper
  rw [if_neg different, if_neg (by omega), if_neg (by omega), strncmp_left leftCovers leftReadable
    (same ▸ rightReadable), List.take_of_length_le (same ▸ rightCovers)]
  rfl

theorem strcmpHelper_of_varChar (leftStores : leftType.Stores left)
    (rightStores : rightType.Stores right) (leftKind : left.getTypeID = .varChar)
    (rightKind : right.getTypeID = .varChar) :
    BasicComparison.strcmpHelper left right =
      .ok (orderSign left.characters right.characters) := by
  cases leftStores with
  | char _ _ => cases leftKind
  | varChar leftEnds _ =>
    cases rightStores with
    | char _ _ => cases rightKind
    | varChar rightEnds _ =>
      unfold BasicComparison.strcmpHelper
      rw [if_pos ⟨leftKind, rightKind⟩]
      exact strcmp_spec leftEnds rightEnds

/-- **The checked helper** follows the order unless it compares a CHAR and a VARCHAR with the same
characters and takes different lengths for them. -/
theorem strcmpHelper_follows_iff (leftStores : leftType.Stores left)
    (rightStores : rightType.Stores right) :
    BasicComparison.strcmpHelper left right =
        .ok (orderSign left.characters right.characters) ↔
      (left.getTypeID = .varChar ∧ right.getTypeID = .varChar) ∨
        left.characters ≠ right.characters ∨
          left.getAsciiStringLength = right.getAsciiStringLength := by
  by_cases kinds : left.getTypeID = .varChar ∧ right.getTypeID = .varChar
  · exact iff_of_true (strcmpHelper_of_varChar leftStores rightStores kinds.1 kinds.2) (.inl kinds)
  rw [or_iff_right kinds]
  rcases Nat.lt_trichotomy left.getAsciiStringLength right.getAsciiStringLength with
    less | same | greater
  · rw [strcmpHelper_of_lt leftStores rightStores kinds less, or_iff_left less.ne]
    by_cases same : left.characters = right.characters
    · rw [if_pos same, same, orderSign_self]
      exact iff_of_false (fun contra => nomatch contra) (fun differ => differ rfl)
    · rw [if_neg same]
      exact iff_of_true rfl same
  · exact iff_of_true (strcmpHelper_of_eq leftStores rightStores kinds same) (.inr same)
  · rw [strcmpHelper_of_gt leftStores rightStores kinds greater, or_iff_left greater.ne']
    by_cases same : left.characters = right.characters
    · rw [if_pos same, same, orderSign_self]
      exact iff_of_false (fun contra => nomatch contra) (fun differ => differ rfl)
    · rw [if_neg same]
      exact iff_of_true rfl same

end Checked

/-! ## One order -/

/-- The comparator that a factory makes, if it makes one, follows the order on two strings. -/
def Follows (made : Option AsciiStringUncheckedComparator) (left right : TypedValue) : Prop :=
  ∃ comparator, made = some comparator ∧
    comparator.strcmpHelper left.getOutOfLineData right.getOutOfLineData =
      .ok (orderSign left.characters right.characters)

/-- All helpers follow the lexicographic order on two strings, and so do the functors that see their
results. -/
structure StringsOrdered (leftType rightType : DataType) (left right : TypedValue) : Prop where
  basic : Follows (BasicComparison.makeStringComparatorOuterHelper leftType rightType) left right
  lessDifferentTypes :
    Follows (lessComparatorForDifferentTypesIgnoreNullability leftType rightType) left right
  lessOneType :
    leftType = rightType → Follows (lessComparatorForTypeIgnoreNullability leftType) left right
  checked :
    BasicComparison.strcmpHelper left right = .ok (orderSign left.characters right.characters)
  functors : ∀ functor : ComparisonFunctor,
    functor.apply (some (compare (orderSign left.characters right.characters) 0)) = true ↔
      functor.Holds left.characters right.characters

/-- A CHAR next to a VARCHAR whose data goes on behind its terminator. -/
def TrailingData : TypedValue → TypedValue → Prop
  | .char _, .varChar data | .varChar data, .char _ =>
    data.length ≠ (CString.characters data).length + 1
  | _, _ => False

section Order

variable {leftType rightType : DataType} {left right : TypedValue}

theorem functor_orderSign (functor : ComparisonFunctor) (x y : List Nat) :
    functor.apply (some (compare (orderSign x y) 0)) = true ↔ functor.Holds x y := by
  apply functor.apply_iff_holds orderSign_neg_iff
  have swapped := orderSign_swap x y
  rw [← orderSign_neg_iff (x := y) (y := x)]
  omega

/-- Strings with the same characters have different lengths exactly where data trails. -/
theorem trailingData_iff (leftStores : leftType.Stores left) (rightStores : rightType.Stores right)
    (same : left.characters = right.characters) :
    ¬TrailingData left right ↔
      (left.getTypeID = .varChar ∧ right.getTypeID = .varChar) ∨
        left.getAsciiStringLength = right.getAsciiStringLength := by
  have charLength : ∀ data,
      (TypedValue.char data).getAsciiStringLength = (CString.characters data).length := fun data =>
    (strnlen_eq data data.length).trans (Nat.min_eq_right (length_characters_le data))
  cases leftStores with
  | @char _ _ leftData _ _ =>
    have same : CString.characters leftData = right.characters := same
    cases rightStores with
    | @char _ _ rightData _ _ =>
      have same : CString.characters leftData = CString.characters rightData := same
      rw [charLength, charLength, same]
      exact iff_of_true not_false (.inr rfl)
    | @varChar _ _ rightData ends _ =>
      have same : CString.characters leftData = CString.characters rightData := same
      have short := length_characters_lt ends
      have notBoth : ¬((TypedValue.char leftData).getTypeID = .varChar ∧
          (TypedValue.varChar rightData).getTypeID = .varChar) := by
        rintro ⟨kind, -⟩
        cases kind
      rw [charLength, same, or_iff_right notBoth]
      change ¬rightData.length ≠ (CString.characters rightData).length + 1 ↔
        (CString.characters rightData).length = rightData.length - 1
      omega
  | @varChar _ _ leftData ends _ =>
    have same : CString.characters leftData = right.characters := same
    have short := length_characters_lt ends
    cases rightStores with
    | @char _ _ rightData _ _ =>
      have same : CString.characters leftData = CString.characters rightData := same
      have notBoth : ¬((TypedValue.varChar leftData).getTypeID = .varChar ∧
          (TypedValue.char rightData).getTypeID = .varChar) := by
        rintro ⟨-, kind⟩
        cases kind
      rw [charLength, ← same, or_iff_right notBoth]
      change ¬leftData.length ≠ (CString.characters leftData).length + 1 ↔
        leftData.length - 1 = (CString.characters leftData).length
      omega
    | @varChar _ _ rightData _ _ => exact iff_of_true not_false (.inl ⟨rfl, rfl⟩)

/-- **The order of strings**: stored strings of every two string types are ordered by their
characters, unless a CHAR and a VARCHAR hold the same characters and the data of the VARCHAR goes on
behind its terminator. -/
theorem stringsOrdered_iff (leftStores : leftType.Stores left)
    (rightStores : rightType.Stores right) :
    StringsOrdered leftType rightType left right ↔
      ¬(left.characters = right.characters ∧ TrailingData left right) := by
  obtain ⟨leftTerminated, leftKind⟩ := leftStores.exists_kind
  obtain ⟨rightTerminated, rightKind⟩ := rightStores.exists_kind
  have leftFits := leftStores.fitsSide leftKind
  have rightFits := rightStores.fitsSide rightKind
  have follows := strcmpHelper_follows_iff leftStores rightStores
  have holds : BasicComparison.strcmpHelper left right =
        .ok (orderSign left.characters right.characters) ↔
      ¬(left.characters = right.characters ∧ TrailingData left right) := by
    rw [follows]
    by_cases same : left.characters = right.characters
    · have trailing := trailingData_iff leftStores rightStores same
      rw [or_iff_right (not_not.mpr same), ← trailing]
      exact not_congr (and_iff_right same).symm
    · exact iff_of_true (.inr (.inl same)) fun both => same both.1
  constructor
  · intro ordered
    exact holds.mp ordered.checked
  · intro regular
    refine ⟨⟨_, makeStringComparatorOuterHelper_eq leftKind rightKind,
        makeStringComparatorInnerHelper_spec _ _ leftFits rightFits⟩,
      ⟨_, lessComparatorForDifferentTypesIgnoreNullability_eq leftKind rightKind,
        makeStringComparatorInnerHelper_spec _ _ leftFits rightFits⟩, ?_, holds.mpr regular,
      fun functor => functor_orderSign functor _ _⟩
    rintro rfl
    exact lessComparatorForTypeIgnoreNullability_spec leftKind leftStores rightStores

theorem stringsOrdered_iff_terminated :
    StringsOrdered (.char 3 false) (.varChar 10 false) (.char [97, 98, 0]) (.varChar [97, 98, 0]) ↔
      ¬((TypedValue.char [97, 98, 0]).characters = (TypedValue.varChar [97, 98, 0]).characters ∧
        TrailingData (.char [97, 98, 0]) (.varChar [97, 98, 0])) :=
  stringsOrdered_iff (.char (by decide) (by decide)) (.varChar (by decide) (by decide))

/-- `"ab"` in a CHAR(2), and in a CHAR(5) that is coerced to a VARCHAR(10) with its padding. -/
theorem not_stringsOrdered :
    coerceToVarChar 10 (.char 5 false) [97, 98, 0, 0, 0] = .varChar [97, 98, 0, 0, 0] ∧
      (DataType.varChar 10 false).Stores (.varChar [97, 98, 0, 0, 0]) ∧
      (DataType.char 2 false).Stores (.char [97, 98]) ∧
      BasicComparison.strcmpHelper (.char [97, 98]) (.varChar [97, 98, 0, 0, 0]) = .ok (-1) ∧
      ¬StringsOrdered (.char 2 false) (.varChar 10 false) (.char [97, 98])
        (.varChar [97, 98, 0, 0, 0]) := by
  have returned : BasicComparison.strcmpHelper (.char [97, 98]) (.varChar [97, 98, 0, 0, 0]) =
      .ok (-1) := rfl
  refine ⟨by decide, .varChar (by decide) (by decide), .char (by decide) (by decide), returned, ?_⟩
  intro ordered
  have same := returned.symm.trans ordered.checked
  have zero : orderSign (TypedValue.char [97, 98]).characters
      (TypedValue.varChar [97, 98, 0, 0, 0]).characters = 0 := orderSign_eq_zero.mpr rfl
  rw [zero] at same
  cases same

end Order

end Quickstep.Types
