import Mathlib.Order.Compare
import Quickstep.Types.Operations

/-!
# Comparison functors

The function objects of the standard library that the basic comparisons are instantiated with. They
see how their arguments are ordered, if they are: a NaN is not ordered with anything.
-/

namespace Quickstep.Types

/-- `std::equal_to` and its siblings. -/
inductive ComparisonFunctor where
  | equalTo | notEqualTo | less | lessEqual | greater | greaterEqual
  deriving DecidableEq, Repr

namespace ComparisonFunctor

/-- The functor of a basic comparison. -/
def ofComparison? : ComparisonID → Option ComparisonFunctor
  | .equal => some equalTo
  | .notEqual => some notEqualTo
  | .less => some less
  | .lessOrEqual => some lessEqual
  | .greater => some greater
  | .greaterOrEqual => some greaterEqual
  | .like | .notLike | .regexMatch | .notRegexMatch => none

/-- The result on arguments that are ordered in this way, or unordered. -/
def apply (functor : ComparisonFunctor) (order : Option Ordering) : Bool :=
  match functor with
  | equalTo => order == some .eq
  | notEqualTo => order != some .eq
  | less => order == some .lt
  | lessEqual => order == some .lt || order == some .eq
  | greater => order == some .gt
  | greaterEqual => order == some .gt || order == some .eq

/-- What a functor says of two arguments in a linear order. -/
def Holds {α : Type} [LinearOrder α] (functor : ComparisonFunctor) (left right : α) : Prop :=
  match functor with
  | equalTo => left = right
  | notEqualTo => left ≠ right
  | less => left < right
  | lessEqual => left ≤ right
  | greater => right < left
  | greaterEqual => right ≤ left

/-- Arguments whose images in another linear order are ordered in the same way. -/
theorem apply_iff_holds {α β : Type} [LinearOrder α] [LinearOrder β] (functor : ComparisonFunctor)
    {a b : α} {left right : β} (less : a < b ↔ left < right) (greater : b < a ↔ right < left) :
    functor.apply (some (compare a b)) = true ↔ functor.Holds left right := by
  rcases lt_trichotomy left right with lt | rfl | gt
  · rw [compare_lt_iff_lt.mpr (less.mpr lt)]
    cases functor <;> simp [apply, Holds, lt, lt.le, lt.ne, lt.asymm, lt.not_ge]
  · have notLess : ¬a < b := fun lt => lt_irrefl _ (less.mp lt)
    have notGreater : ¬b < a := fun gt => lt_irrefl _ (greater.mp gt)
    rw [compare_eq_iff_eq.mpr (le_antisymm (not_lt.mp notGreater) (not_lt.mp notLess))]
    cases functor <;> simp [apply, Holds]
  · rw [compare_gt_iff_gt.mpr (greater.mpr gt)]
    cases functor <;> simp [apply, Holds, gt, gt.le, gt.ne', gt.asymm, gt.not_ge]

end ComparisonFunctor

end Quickstep.Types
