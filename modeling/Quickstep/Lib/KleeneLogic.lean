import Mathlib.Data.List.Basic

/-!
# Connectives on partly known operands

AND and OR as one connective with an absorbing value, and Kleene's extension of it to operands of
which some are unknown. Both depend on the set of the operands alone, so operands may be regrouped.
-/

namespace Quickstep.Lib

/-- AND if `false` is absorbing, OR if `true` is. -/
def connective (absorbing : Bool) (operands : List Bool) : Bool :=
  if absorbing ∈ operands then absorbing else !absorbing

/-- The connective of operands of which `none` is unknown. -/
def kleene (absorbing : Bool) (operands : List (Option Bool)) : Option Bool :=
  if some absorbing ∈ operands then some absorbing
  else if none ∈ operands then none
  else some !absorbing

section Regrouping

variable {absorbing : Bool}

theorem connective_congr {operands operands' : List Bool}
    (same : ∀ x, x ∈ operands ↔ x ∈ operands') :
    connective absorbing operands = connective absorbing operands' := by
  unfold connective
  simp only [same]

theorem kleene_congr {operands operands' : List (Option Bool)}
    (same : ∀ x, x ∈ operands ↔ x ∈ operands') :
    kleene absorbing operands = kleene absorbing operands' := by
  unfold kleene
  simp only [same]

@[simp] theorem kleene_nil : kleene absorbing [] = some !absorbing := rfl

@[simp] theorem kleene_singleton (x : Option Bool) : kleene absorbing [x] = x := by
  cases absorbing <;> rcases x with _ | _ | _ <;> rfl

@[simp] theorem connective_singleton (x : Bool) : connective absorbing [x] = x := by
  cases absorbing <;> cases x <;> rfl

/-- The connective is absorbed by a known operand, and by nothing else. -/
theorem kleene_eq_absorbing {operands : List (Option Bool)} :
    kleene absorbing operands = some absorbing ↔ some absorbing ∈ operands := by
  unfold kleene
  split
  · rename_i absorbed
    exact iff_of_true rfl absorbed
  · rename_i notAbsorbed
    apply iff_of_false _ notAbsorbed
    split
    · nofun
    · cases absorbing <;> decide

/-- The connective is known when an operand absorbs it, and when no operand is unknown. -/
theorem isSome_kleene {operands : List (Option Bool)} :
    (kleene absorbing operands).isSome = true ↔ some absorbing ∈ operands ∨ none ∉ operands := by
  unfold kleene
  split
  · rename_i absorbed
    exact iff_of_true rfl (.inl absorbed)
  · rename_i notAbsorbed
    rw [or_iff_right notAbsorbed]
    split
    · rename_i unknown
      exact iff_of_false nofun (not_not_intro unknown)
    · rename_i allKnown
      exact iff_of_true rfl allKnown

/-- Unknown operands alone. -/
theorem kleene_of_unknown {operands : List (Option Bool)} (unknown : ∀ x ∈ operands, x = none) :
    kleene absorbing operands = if operands.isEmpty then some !absorbing else none := by
  cases operands with
  | nil => rfl
  | cons x operands =>
    have first : x = none := unknown x List.mem_cons_self
    have notAbsorbing : ¬ some absorbing ∈ x :: operands := by
      intro mem
      cases unknown _ mem
    unfold kleene
    rw [if_neg notAbsorbing, if_pos (first ▸ List.mem_cons_self)]
    rfl

/-- Part of the operands may be replaced by their connective. -/
theorem connective_append (operands operands' : List Bool) :
    connective absorbing (operands ++ operands') =
      connective absorbing [connective absorbing operands, connective absorbing operands'] := by
  unfold connective
  by_cases left : absorbing ∈ operands <;> by_cases right : absorbing ∈ operands' <;>
    cases absorbing <;> simp [left, right]

theorem kleene_append (operands operands' : List (Option Bool)) :
    kleene absorbing (operands ++ operands') =
      kleene absorbing [kleene absorbing operands, kleene absorbing operands'] := by
  unfold kleene
  by_cases left : some absorbing ∈ operands <;> by_cases right : some absorbing ∈ operands' <;>
    by_cases left' : none ∈ operands <;> by_cases right' : none ∈ operands' <;>
    cases absorbing <;> simp [left, right, left', right']

/-- A connective among the operands of another one is flattened into it. -/
theorem connective_flatten (operands operands' : List Bool) :
    connective absorbing (connective absorbing operands :: operands') =
      connective absorbing (operands ++ operands') := by
  have split : connective absorbing ([_] ++ operands') = _ :=
    connective_append [connective absorbing operands] operands'
  rw [connective_singleton] at split
  rw [connective_append]
  exact split

theorem kleene_flatten (operands operands' : List (Option Bool)) :
    kleene absorbing (kleene absorbing operands :: operands') =
      kleene absorbing (operands ++ operands') := by
  have split : kleene absorbing ([_] ++ operands') = _ :=
    kleene_append [kleene absorbing operands] operands'
  rw [kleene_singleton] at split
  rw [kleene_append]
  exact split

theorem kleene_flatten_right (operands operands' : List (Option Bool)) :
    kleene absorbing (operands ++ [kleene absorbing operands']) =
      kleene absorbing (operands ++ operands') := by
  rw [kleene_append, kleene_singleton, ← kleene_append]

theorem connective_flatten_right (operands operands' : List Bool) :
    connective absorbing (operands ++ [connective absorbing operands']) =
      connective absorbing (operands ++ operands') := by
  rw [connective_append, connective_singleton, ← connective_append]

theorem connective_false {α : Type} (operands : List α) (value : α → Bool) :
    connective false (operands.map value) = operands.all value := by
  unfold connective
  rw [Bool.eq_iff_iff, List.all_eq_true]
  simp

theorem connective_true {α : Type} (operands : List α) (value : α → Bool) :
    connective true (operands.map value) = operands.any value := by
  unfold connective
  rw [Bool.eq_iff_iff, List.any_eq_true]
  simp

end Regrouping

section Known

variable {α : Type} {absorbing : Bool} {known : α → Option Bool} {value : α → Bool}

/-- **A known result** is the result, whatever the unknown operands are. -/
theorem connective_of_kleene {operands : List α}
    (sound : ∀ x ∈ operands, ∀ result, known x = some result → value x = result) {result : Bool}
    (same : kleene absorbing (operands.map known) = some result) :
    connective absorbing (operands.map value) = result := by
  unfold kleene at same
  split at same
  · rename_i absorbed
    cases same
    obtain ⟨x, isOperand, isKnown⟩ := List.mem_map.mp absorbed
    apply if_pos
    exact List.mem_map.mpr ⟨x, isOperand, sound x isOperand _ isKnown⟩
  · rename_i notAbsorbed
    split at same
    · cases same
    · rename_i allKnown
      cases same
      apply if_neg
      intro mem
      obtain ⟨x, isOperand, same⟩ := List.mem_map.mp mem
      cases isKnown : known x with
      | none => exact allKnown (List.mem_map.mpr ⟨x, isOperand, isKnown⟩)
      | some r =>
        have : r = absorbing := (sound x isOperand r isKnown).symm.trans same
        subst this
        exact notAbsorbed (List.mem_map.mpr ⟨x, isOperand, isKnown⟩)

/-- **An unknown result** is decided by the unknown operands alone. -/
theorem connective_of_unknown {statics dynamics : List α}
    (sound : ∀ x ∈ statics, ∀ result, known x = some result → value x = result)
    (allKnown : ∀ x ∈ statics, (known x).isSome)
    (unknown : kleene absorbing ((statics ++ dynamics).map known) = none) :
    connective absorbing ((statics ++ dynamics).map value) =
      connective absorbing (dynamics.map value) := by
  have notAbsorbed : ¬ absorbing ∈ statics.map value := by
    intro mem
    obtain ⟨x, isStatic, same⟩ := List.mem_map.mp mem
    obtain ⟨r, isKnown⟩ := Option.isSome_iff_exists.mp (allKnown x isStatic)
    have : r = absorbing := (sound x isStatic r isKnown).symm.trans same
    subst this
    unfold kleene at unknown
    rw [if_pos] at unknown
    · cases unknown
    · exact List.mem_map.mpr ⟨x, List.mem_append_left _ isStatic, isKnown⟩
  unfold connective
  simp only [List.map_append, List.mem_append, notAbsorbed, false_or]

end Known

end Quickstep.Lib
