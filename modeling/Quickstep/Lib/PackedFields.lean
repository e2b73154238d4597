import Mathlib.Algebra.BigOperators.Group.List.Basic
import Mathlib.Algebra.Order.Ring.Nat
import Mathlib.Logic.ExistsUnique

/-!
# Fields packed one after the other

Elements of a list are chosen by a test, and the chosen ones are numbered, or laid out by their size,
in the order of the list. Elements are added at the end.
-/

namespace Quickstep.Lib.PackedFields

variable {α : Type}

/-- The total size of the chosen elements. -/
def total (chosen : α → Bool) (size : α → Nat) (xs : List α) : Nat :=
  ((xs.filter chosen).map size).sum

/-- The number of the element at a position among the chosen ones, or `-1`. -/
def number (chosen : α → Bool) (xs : List α) (i : Nat) (x : α) : Int :=
  if chosen x then ((xs.take i).countP chosen : Int) else -1

section Totals

variable {chosen : α → Bool} {size : α → Nat} {xs : List α}

@[simp] theorem total_nil : total chosen size [] = 0 := rfl

theorem total_append_singleton (x : α) :
    total chosen size (xs ++ [x]) = total chosen size xs + if chosen x then size x else 0 := by
  unfold total
  rw [List.filter_append, List.map_append, List.sum_append]
  cases isChosen : chosen x <;> simp [isChosen]

theorem total_le (chosen : α → Bool) (size : α → Nat) (xs : List α) :
    total chosen size xs ≤ total (fun _ => true) size xs := by
  induction xs with
  | nil => exact le_rfl
  | cons x xs ih =>
    unfold total at ih ⊢
    have all : (x :: xs).filter (fun _ => true) = x :: xs.filter fun _ => true := rfl
    rw [all, List.map_cons, List.sum_cons]
    cases isChosen : chosen x with
    | true =>
      rw [List.filter_cons_of_pos isChosen, List.map_cons, List.sum_cons]
      exact Nat.add_le_add_left ih _
    | false =>
      rw [List.filter_cons_of_neg (Bool.not_eq_true _ ▸ isChosen)]
      exact ih.trans (Nat.le_add_left _ _)

/-- The offset behind the element at a position. -/
theorem total_take_succ {i : Nat} {x : α} (here : xs[i]? = some x) :
    total chosen size (xs.take (i + 1)) =
      total chosen size (xs.take i) + if chosen x then size x else 0 := by
  rw [List.take_add_one, here, Option.toList_some, total_append_singleton]

/-- Past the end there is nothing more to take. -/
theorem take_succ_of_none {i : Nat} (past : xs[i]? = none) : xs.take (i + 1) = xs.take i := by
  rw [List.take_add_one, past, Option.toList_none, List.append_nil]

theorem total_take_mono {i j : Nat} (le : i ≤ j) :
    total chosen size (xs.take i) ≤ total chosen size (xs.take j) := by
  induction le with
  | refl => exact le_rfl
  | @step j le ih =>
    cases here : xs[j]? with
    | some x =>
      rw [Nat.succ_eq_add_one, total_take_succ here]
      exact ih.trans (Nat.le_add_right _ _)
    | none =>
      rw [Nat.succ_eq_add_one, take_succ_of_none here]
      exact ih

theorem total_take_le (chosen : α → Bool) (size : α → Nat) (xs : List α) (i : Nat) :
    total chosen size (xs.take i) ≤ total chosen size xs := by
  rcases Nat.le_total i xs.length with inside | past
  · calc total chosen size (xs.take i) ≤ total chosen size (xs.take xs.length) :=
        total_take_mono inside
      _ = total chosen size xs := by rw [List.take_length]
  · rw [List.take_of_length_le past]

/-- A chosen element and its bytes, `b` among them. -/
def Covers (chosen : α → Bool) (size : α → Nat) (xs : List α) (b i : Nat) : Prop :=
  ∃ x, xs[i]? = some x ∧ chosen x = true ∧ total chosen size (xs.take i) ≤ b ∧
    b < total chosen size (xs.take i) + size x

theorem Covers.below {b i : Nat} (covers : Covers chosen size xs b i) :
    total chosen size (xs.take i) ≤ b ∧ b < total chosen size (xs.take (i + 1)) := by
  obtain ⟨x, here, isChosen, lower, upper⟩ := covers
  rw [total_take_succ here, if_pos isChosen]
  exact ⟨lower, upper⟩

/-- **The chosen elements are packed**: every byte below the total size belongs to exactly one. -/
theorem existsUnique_covers {b : Nat} (below : b < total chosen size xs) :
    ∃! i, Covers chosen size xs b i := by
  have exists_ : ∀ n, b < total chosen size (xs.take n) → ∃ i, Covers chosen size xs b i := by
    intro n
    induction n with
    | zero => exact fun below => absurd below (Nat.not_lt_zero b)
    | succ n ih =>
      intro below
      cases here : xs[n]? with
      | none =>
        rw [take_succ_of_none here] at below
        exact ih below
      | some x =>
        by_cases before : b < total chosen size (xs.take n)
        · exact ih before
        · rw [total_take_succ here] at below
          cases isChosen : chosen x with
          | true =>
            rw [if_pos isChosen] at below
            exact ⟨n, x, here, isChosen, Nat.le_of_not_lt before, below⟩
          | false =>
            rw [if_neg (Bool.not_eq_true _ ▸ isChosen)] at below
            exact absurd below before
  obtain ⟨i, covers⟩ := exists_ xs.length (by rw [List.take_length]; exact below)
  refine ⟨i, covers, fun j covers' => ?_⟩
  obtain ⟨lower, upper⟩ := covers.below
  obtain ⟨lower', upper'⟩ := covers'.below
  by_contra differ
  rcases Nat.lt_or_gt_of_ne differ with less | greater
  · have later := @total_take_mono α chosen size xs _ _ (Nat.succ_le_of_lt less)
    exact absurd (upper'.trans_le later) (Nat.not_lt_of_ge lower)
  · have later := @total_take_mono α chosen size xs _ _ (Nat.succ_le_of_lt greater)
    exact absurd (upper.trans_le later) (Nat.not_lt_of_ge lower')

end Totals

section Numbers

/-- A vector of numbers, and the number that was given last. -/
structure Numbered (chosen : α → Bool) (xs : List α) (numbers : List Int) (current : Int) : Prop where
  length : numbers.length = xs.length
  number : ∀ i x, xs[i]? = some x → numbers[i]? = some (number chosen xs i x)
  current : current = (xs.countP chosen : Int) - 1

variable {chosen : α → Bool} {xs : List α} {numbers : List Int} {current : Int}

theorem numbered_nil : Numbered chosen ([] : List α) [] (-1) :=
  ⟨rfl, nofun, rfl⟩

/-- An element at the end gets the next number, or none. -/
theorem Numbered.append (numbered : Numbered chosen xs numbers current) (x : α) :
    Numbered chosen (xs ++ [x]) (numbers ++ [if chosen x then current + 1 else -1])
      (if chosen x then current + 1 else current) := by
  obtain ⟨length, isNumber, isCurrent⟩ := numbered
  have taken : ∀ i, i ≤ xs.length → (xs ++ [x]).take i = xs.take i := fun i le =>
    List.take_append_of_le_length le
  refine ⟨?_, fun i y here => ?_, ?_⟩
  · rw [List.length_append, List.length_append, length]
    rfl
  · rcases Nat.lt_trichotomy i xs.length with old | rfl | beyond
    · rw [List.getElem?_append_left old] at here
      rw [List.getElem?_append_left (length.symm ▸ old), isNumber i y here]
      unfold PackedFields.number
      rw [taken i old.le]
    · rw [List.getElem?_append_right le_rfl, Nat.sub_self] at here
      obtain rfl : x = y := Option.some.inj here
      rw [← length, List.getElem?_append_right le_rfl, Nat.sub_self]
      unfold PackedFields.number
      rw [length, taken _ le_rfl, List.take_length, isCurrent]
      simp
    · rw [List.getElem?_eq_none (by simp only [List.length_append, List.length_singleton]; omega)] at here
      cases here
  · rw [List.countP_append, isCurrent]
    cases isChosen : chosen x <;> simp [isChosen]

end Numbers

end Quickstep.Lib.PackedFields
