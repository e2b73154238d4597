import Mathlib.Data.List.FinRange
import Mathlib.Data.List.GetD

/-!
# Positional writes

Two loops that write a list of values into an output, one at given positions, the other at the
selected positions of a walk. An output is described by a function of what its positions stand for.
-/

namespace Quickstep.Lib

variable {ι α : Type}

/-- Write each value at its position. -/
def scatter (positions : List Nat) (values output : List α) : List α :=
  (positions.zip values).foldl (fun output write => output.set write.1 write.2) output

/-- Walk along the output and write the next value wherever the index is selected. -/
def distribute [Inhabited α] (selected : ι → Bool) (values : List α) :
    List ι → Nat → Nat → List α → List α
  | [], _, _, output => output
  | index :: indices, outputPos, inputPos, output =>
    if selected index then
      distribute selected values indices (outputPos + 1) (inputPos + 1)
        (output.set outputPos (values.getD inputPos default))
    else distribute selected values indices (outputPos + 1) inputPos output

theorem finRange_set {n : Nat} (h : Fin n → α) (i : Fin n) (value : α) :
    ((List.finRange n).map h).set i value =
      (List.finRange n).map fun j => if j = i then value else h j := by
  apply List.ext_getElem
  · simp
  · intro k bound bound'
    simp only [List.getElem_set, List.getElem_map, List.getElem_finRange, Fin.ext_iff]
    simp only [Fin.val_cast, eq_comm]

/-- **Scatter** changes the output exactly at the written indices. -/
theorem scatter_finRange {n : Nat} (ids : List (Fin n)) (f h : Fin n → α) :
    scatter (ids.map Fin.val) (ids.map f) ((List.finRange n).map h) =
      (List.finRange n).map fun i => if i ∈ ids then f i else h i := by
  unfold scatter
  induction ids generalizing h with
  | nil => simp
  | cons id ids ih =>
    rw [List.map_cons, List.map_cons, List.zip_cons_cons, List.foldl_cons, finRange_set, ih]
    refine List.map_congr_left fun i _ => ?_
    by_cases later : i ∈ ids
    · simp [later]
    · by_cases here : i = id
      · simp [here]
      · simp [later, here]

/-- The walk past the indices that are done. -/
theorem distribute_append [Inhabited α] (selected : ι → Bool) (values : List α) (f h : ι → α)
    (done : List α) (indices : List ι) {inputPos : Nat}
    (next : values.drop inputPos = (indices.filter selected).map f) :
    distribute selected values indices done.length inputPos (done ++ indices.map h) =
      done ++ indices.map fun i => if selected i then f i else h i := by
  induction indices generalizing done inputPos with
  | nil => rfl
  | cons index indices ih =>
    unfold distribute
    by_cases here : selected index = true
    · rw [List.filter_cons_of_pos here, List.map_cons] at next
      have value : values.getD inputPos default = f index := by
        rw [List.getD_eq_getElem?_getD, ← List.head?_drop, next]
        rfl
      have rest : values.drop (inputPos + 1) = (indices.filter selected).map f := by
        rw [← List.tail_drop, next, List.tail_cons]
      have moved := ih (done ++ [f index]) rest
      rw [if_pos here, value, List.map_cons, List.map_cons, if_pos here]
      simpa using moved
    · rw [List.filter_cons_of_neg here] at next
      have moved := ih (done ++ [h index]) next
      rw [if_neg here, List.map_cons, List.map_cons, if_neg here]
      simpa using moved

/-- **Distribute** changes the output exactly at the selected indices. -/
theorem distribute_map [Inhabited α] (selected : ι → Bool) (f h : ι → α) (indices : List ι) :
    distribute selected ((indices.filter selected).map f) indices 0 0 (indices.map h) =
      indices.map fun i => if selected i then f i else h i := by
  simpa using distribute_append selected _ f h [] indices List.drop_zero

end Quickstep.Lib
