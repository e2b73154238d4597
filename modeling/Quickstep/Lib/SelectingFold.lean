import Mathlib.Data.List.Induction
import Quickstep.Lib.WhileLoop

/-!
# Folds that keep the best value

A fold over values, some of them absent, that replaces the value it holds by every better one. It ends
with a value of the list that no other is strictly better than, and it does not see how the list is
cut.
-/

namespace Quickstep.Lib

variable {α : Type}

/-- `better` lets a value replace another one, `strict` is the part of it that breaks ties. -/
structure Preference (better : α → α → Bool) (strict : α → α → Prop) : Prop where
  irrefl : ∀ a, ¬strict a a
  better_of_strict : ∀ a b, strict a b → better a b = true
  strict_of_better : ∀ a b c, strict a b → better b c = true → strict a c

/-- The value that is held after another one was seen. -/
def keepBest (absent : α → Bool) (better : α → α → Bool) (current value : α) : α :=
  if absent value then current
  else if absent current || better value current then value
  else current

def foldBest (absent : α → Bool) (better : α → α → Bool) (current : α) (values : List α) : α :=
  values.foldl (keepBest absent better) current

/-- A value that no other is strictly better than, absent only if all are. -/
structure IsBest (absent : α → Bool) (strict : α → α → Prop) (current : α) (values : List α)
    (best : α) : Prop where
  absent_iff : absent best = true ↔ absent current = true ∧ ∀ value ∈ values, absent value = true
  notBetter : ∀ value, value = current ∨ value ∈ values → absent value = false → ¬strict value best

section Folds

variable {absent : α → Bool} {better : α → α → Bool} {strict : α → α → Prop}

theorem keepBest_absent {current value : α} (gone : absent value = true) :
    keepBest absent better current value = current := if_pos gone

theorem keepBest_replaced {current value : α} (present : absent value = false)
    (replaced : (absent current || better value current) = true) :
    keepBest absent better current value = value := by
  unfold keepBest
  rw [present, replaced]
  rfl

theorem keepBest_kept {current value : α} (kept : (absent current || better value current) = false) :
    keepBest absent better current value = current := by
  unfold keepBest
  rw [kept]
  exact ite_self current

theorem keepBest_cases (current value : α) :
    keepBest absent better current value = current ∨
      keepBest absent better current value = value ∧ absent value = false := by
  cases gone : absent value with
  | true => exact .inl (keepBest_absent gone)
  | false =>
    cases replaced : absent current || better value current with
    | true => exact .inr ⟨keepBest_replaced gone replaced, rfl⟩
    | false => exact .inl (keepBest_kept replaced)

/-- The fold ends with one of the values. -/
theorem foldBest_mem (current : α) (values : List α) :
    foldBest absent better current values = current ∨
      foldBest absent better current values ∈ values ∧
        absent (foldBest absent better current values) = false := by
  induction values generalizing current with
  | nil => exact .inl rfl
  | cons value values ih =>
    have step : foldBest absent better current (value :: values) =
        foldBest absent better (keepBest absent better current value) values := rfl
    rw [step]
    rcases ih (keepBest absent better current value) with held | ⟨mem, present⟩
    · rw [held]
      rcases keepBest_cases current value with kept | ⟨replaced, present⟩
      · exact .inl kept
      · rw [replaced]
        exact .inr ⟨List.mem_cons_self, present⟩
    · exact .inr ⟨List.mem_cons_of_mem value mem, present⟩

theorem eq_of_foldBest_absent {current : α} {values : List α}
    (gone : absent (foldBest absent better current values) = true) :
    foldBest absent better current values = current := by
  rcases foldBest_mem current values with same | ⟨-, present⟩
  · exact same
  · rw [gone] at present
    cases present

/-- One more value. -/
theorem IsBest.keepBest (preference : Preference better strict) {current best value : α}
    {values : List α} (isBest : IsBest absent strict current values best) :
    IsBest absent strict current (values ++ [value]) (keepBest absent better best value) := by
  have seen : ∀ v, v = current ∨ v ∈ values ++ [value] ↔ (v = current ∨ v ∈ values) ∨ v = value := by
    intro v
    rw [List.mem_append, List.mem_singleton, or_assoc]
  have last : value ∈ values ++ [value] := List.mem_append_right _ (List.mem_singleton_self value)
  cases gone : absent value with
  | true =>
    rw [keepBest_absent gone]
    constructor
    · rw [isBest.absent_iff, List.forall_mem_append, List.forall_mem_singleton]
      exact and_congr_right fun _ => (and_iff_left gone).symm
    · intro v mem present
      rcases (seen v).mp mem with before | rfl
      · exact isBest.notBetter v before present
      · rw [gone] at present
        cases present
  | false =>
    have notAll : ¬(absent current = true ∧ ∀ v ∈ values ++ [value], absent v = true) := by
      rintro ⟨-, all⟩
      rw [all value last] at gone
      cases gone
    cases replaced : absent best || better value best with
    | true =>
      rw [keepBest_replaced gone replaced]
      refine ⟨iff_of_false (Bool.eq_false_iff.mp gone) notAll, ?_⟩
      intro v mem present strictly
      rcases (seen v).mp mem with before | rfl
      · rcases Bool.or_eq_true_iff.mp replaced with allGone | better
        · obtain ⟨currentGone, valuesGone⟩ := isBest.absent_iff.mp allGone
          rcases before with rfl | listed
          · rw [currentGone] at present
            cases present
          · rw [valuesGone v listed] at present
            cases present
        · apply isBest.notBetter v before present
          exact preference.strict_of_better v value best strictly better
      · exact preference.irrefl v strictly
    | false =>
      rw [keepBest_kept replaced]
      obtain ⟨held, notBetter⟩ := Bool.or_eq_false_iff.mp replaced
      refine ⟨iff_of_false (Bool.eq_false_iff.mp held) notAll, ?_⟩
      intro v mem present strictly
      rcases (seen v).mp mem with before | rfl
      · exact isBest.notBetter v before present strictly
      · rw [preference.better_of_strict v best strictly] at notBetter
        cases notBetter

/-- **The fold** ends with a best value. -/
theorem foldBest_isBest (preference : Preference better strict) (current : α) (values : List α) :
    IsBest absent strict current values (foldBest absent better current values) := by
  induction values using List.reverseRecOn with
  | nil =>
    constructor
    · exact (and_iff_left fun value mem => nomatch mem).symm
    · intro value mem _
      rcases mem with rfl | listed
      · exact preference.irrefl value
      · cases listed
  | append_singleton values value ih =>
    have step : foldBest absent better current (values ++ [value]) =
        Quickstep.Lib.keepBest absent better (foldBest absent better current values) value := by
      unfold foldBest
      rw [List.foldl_append]
      rfl
    rw [step]
    exact ih.keepBest preference

/-- A loop whose body keeps the best value, held as `hold` says, as long as the values fit. -/
theorem foldlM_eq_foldBest {σ : Type} {step : σ → α → Exec σ} {hold : α → σ} {Fits : α → Prop}
    {current : α} {values : List α}
    (body : ∀ held, Fits held → ∀ value ∈ values,
      step (hold held) value = .ok (hold (keepBest absent better held value)))
    (currentFits : Fits current) (valuesFit : ∀ value ∈ values, Fits value) :
    values.foldlM step (hold current) = .ok (hold (foldBest absent better current values)) := by
  induction values generalizing current with
  | nil => rfl
  | cons value values ih =>
    have fits : Fits (Quickstep.Lib.keepBest absent better current value) := by
      rcases keepBest_cases current value with kept | ⟨replaced, -⟩
      · rwa [kept]
      · rw [replaced]
        exact valuesFit value List.mem_cons_self
    rw [List.foldlM_cons, body current currentFits value List.mem_cons_self, Exec.ok_bind]
    apply ih _ fits
    · exact fun value mem => valuesFit value (List.mem_cons_of_mem _ mem)
    · exact fun held heldFits value mem => body held heldFits value (List.mem_cons_of_mem _ mem)

end Folds

end Quickstep.Lib
