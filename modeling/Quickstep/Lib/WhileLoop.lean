/-!
# Loops with faults

A loop whose condition and body may have undefined behaviour is run with fuel. The relation `Ends`
hides the fuel: it holds exactly for the loops that end without a fault. `Folds` does the same for
a loop over the elements of a list whose body needs fuel.
-/

namespace Quickstep.Lib

/-- Why an execution has no result. -/
inductive Fault where
  | undefinedBehaviour
  | outOfFuel
  deriving DecidableEq, Repr

/-- An execution that may have no result. -/
abbrev Exec := Except Fault

/-- Peel one step off an execution that has a result. -/
theorem Exec.bind_ok {α β : Type} {first : Exec α} {next : α → Exec β} {result : β}
    (run : (first >>= next) = .ok result) : ∃ value, first = .ok value ∧ next value = .ok result := by
  cases first with
  | error fault => cases run
  | ok value => exact ⟨value, rfl, run⟩

/-- The test of a loop that runs until something is found. -/
theorem Exec.of_not_ok {test : Exec Bool} {out : Bool}
    (run : (do pure !(← test) : Exec Bool) = .ok out) : test = .ok !out := by
  obtain ⟨found, ran, same⟩ := bind_ok run
  cases same
  rw [ran, Bool.not_not]

theorem Exec.ok_bind {α β : Type} (value : α) (next : α → Exec β) :
    (Except.ok value >>= next) = next value := rfl

/-- The execution has a result. -/
def Exec.Returns {α : Type} (execution : Exec α) : Prop := ∃ result, execution = .ok result

/-- Peel one step off an execution that has some result. -/
theorem Exec.Returns.of_bind {α β : Type} {first : Exec α} {next : α → Exec β}
    (returns : (first >>= next).Returns) : ∃ value, first = .ok value ∧ (next value).Returns := by
  obtain ⟨result, run⟩ := returns
  obtain ⟨value, ran, rest⟩ := bind_ok run
  exact ⟨value, ran, result, rest⟩

/-- Executions that all have a result, one after the other. -/
theorem Exec.mapM_eq_ok {α β : Type} {f : α → Exec β} {g : α → β} {xs : List α}
    (results : ∀ x ∈ xs, f x = .ok (g x)) : xs.mapM f = .ok (xs.map g) := by
  induction xs with
  | nil => rfl
  | cons x xs ih =>
    obtain ⟨first, rest⟩ := List.forall_mem_cons.mp results
    rw [List.mapM_cons, first, ok_bind, ih rest, ok_bind]
    rfl

theorem Exec.Returns.of_mapM {α β : Type} {f : α → Exec β} {xs : List α}
    (returns : (xs.mapM f).Returns) : ∀ x ∈ xs, (f x).Returns := by
  induction xs with
  | nil =>
    intro x isElement
    cases isElement
  | cons x xs ih =>
    rw [List.mapM_cons] at returns
    obtain ⟨first, ran, later⟩ := returns.of_bind
    obtain ⟨rest, ranRest, _⟩ := later.of_bind
    exact List.forall_mem_cons.mpr ⟨⟨first, ran⟩, ih ⟨rest, ranRest⟩⟩

/-- A fold in which every step has a result or none does not depend on what is folded. -/
theorem Exec.foldlM_guarded {α β : Type} {f : β → α → β} {allowed : α → Prop} [DecidablePred allowed]
    {fault : Fault} (xs : List α) (start : β) :
    xs.foldlM (fun current x => if allowed x then (.ok (f current x) : Exec β) else .error fault)
        start =
      if ∀ x ∈ xs, allowed x then .ok (xs.foldl f start) else .error fault := by
  induction xs generalizing start with
  | nil => simp [pure, Except.pure]
  | cons x xs ih =>
    rw [List.foldlM_cons, List.foldl_cons]
    by_cases here : allowed x
    · rw [if_pos here, ok_bind, ih]
      simp [here]
    · rw [if_neg here, if_neg fun all => here (all x List.mem_cons_self)]
      rfl

section Vectors

variable {α : Type}

/-- `operator[]`: an index out of range is undefined behaviour. -/
def readAt (xs : List α) (i : Nat) : Exec α :=
  match xs[i]? with
  | some x => .ok x
  | none => .error .undefinedBehaviour

/-- Assignment to an element. -/
def writeAt (xs : List α) (i : Nat) (x : α) : Exec (List α) :=
  if i < xs.length then .ok (xs.set i x) else .error .undefinedBehaviour

theorem readAt_of_lt {xs : List α} {i : Nat} (inside : i < xs.length) : readAt xs i = .ok xs[i] := by
  unfold readAt
  rw [List.getElem?_eq_getElem inside]

theorem writeAt_of_lt {xs : List α} {i : Nat} (inside : i < xs.length) (x : α) :
    writeAt xs i x = .ok (xs.set i x) := if_pos inside

end Vectors

section Loops

variable {σ : Type} (cond : σ → Exec Bool) (body : σ → Exec σ)

/-- `while (cond) body`, for at most `fuel - 1` rounds. -/
def whileLoop : Nat → σ → Exec σ
  | 0, _ => .error .outOfFuel
  | fuel + 1, s => do
    if ← cond s then whileLoop fuel (← body s) else pure s

/-- The loop ends in `s'` after some number of rounds. -/
def Ends (s s' : σ) : Prop := ∃ fuel, whileLoop cond body fuel s = .ok s'

variable {cond body}

theorem whileLoop_exit {fuel : Nat} {s : σ} (done : cond s = .ok false) :
    whileLoop cond body (fuel + 1) s = .ok s := by
  simp only [whileLoop, done]
  rfl

theorem whileLoop_round {fuel : Nat} {s s' : σ} (again : cond s = .ok true) (round : body s = .ok s') :
    whileLoop cond body (fuel + 1) s = whileLoop cond body fuel s' := by
  simp only [whileLoop, again, round]
  rfl

/-- What the first test decides about a loop that ends. -/
theorem whileLoop_succ_ok {fuel : Nat} {s s' : σ}
    (run : whileLoop cond body (fuel + 1) s = .ok s') :
    (cond s = .ok false ∧ s' = s) ∨
      ∃ next, cond s = .ok true ∧ body s = .ok next ∧ whileLoop cond body fuel next = .ok s' := by
  simp only [whileLoop] at run
  cases test : cond s with
  | error fault => rw [test] at run; cases run
  | ok again =>
    rw [test] at run
    cases again with
    | false =>
      cases run
      exact .inl ⟨rfl, rfl⟩
    | true =>
      cases round : body s with
      | error fault => rw [round] at run; cases run
      | ok next =>
        rw [round] at run
        exact .inr ⟨next, rfl, rfl, run⟩

/-- More fuel does not change a result. -/
theorem whileLoop_mono {fuel fuel' : Nat} {s s' : σ} (le : fuel ≤ fuel')
    (run : whileLoop cond body fuel s = .ok s') : whileLoop cond body fuel' s = .ok s' := by
  induction fuel generalizing fuel' s with
  | zero => cases run
  | succ fuel ih =>
    obtain ⟨more, rfl⟩ := Nat.exists_eq_add_of_le' (Nat.le_trans (Nat.succ_pos fuel) le)
    rcases whileLoop_succ_ok run with ⟨done, rfl⟩ | ⟨next, again, round, rest⟩
    · exact whileLoop_exit done
    · rw [whileLoop_round again round]
      exact ih (Nat.le_of_succ_le_succ le) rest

theorem Ends.exit {s : σ} (done : cond s = .ok false) : Ends cond body s s :=
  ⟨1, whileLoop_exit done⟩

theorem Ends.round {s next s' : σ} (again : cond s = .ok true) (round : body s = .ok next)
    (rest : Ends cond body next s') : Ends cond body s s' := by
  obtain ⟨fuel, run⟩ := rest
  exact ⟨fuel + 1, by rw [whileLoop_round again round, run]⟩

/-- A loop that ends either stops at once or runs a round and then ends. -/
theorem Ends.cases_first {s s' : σ} (ends : Ends cond body s s') :
    (cond s = .ok false ∧ s' = s) ∨
      ∃ next, cond s = .ok true ∧ body s = .ok next ∧ Ends cond body next s' := by
  obtain ⟨fuel, run⟩ := ends
  cases fuel with
  | zero => cases run
  | succ fuel =>
    rcases whileLoop_succ_ok run with done | ⟨next, again, round, rest⟩
    · exact .inl done
    · exact .inr ⟨next, again, round, fuel, rest⟩

/-- **The loop rule**: what the rounds preserve holds where the loop ends. -/
theorem Ends.invariant (Inv : σ → Prop) {s s' : σ} (ends : Ends cond body s s') (start : Inv s)
    (step : ∀ s next, cond s = .ok true → body s = .ok next → Inv s → Inv next) :
    Inv s' ∧ cond s' = .ok false := by
  obtain ⟨fuel, run⟩ := ends
  induction fuel generalizing s with
  | zero => cases run
  | succ fuel ih =>
    rcases whileLoop_succ_ok run with ⟨done, rfl⟩ | ⟨next, again, round, rest⟩
    · exact ⟨start, done⟩
    · exact ih (step s next again round start) rest

/-- **The termination rule**: rounds that keep an invariant and lower a bound come to an end. -/
theorem exists_ends_within (Inv : Nat → σ → Prop)
    (step : ∀ bound s, Inv bound s → cond s = .ok false ∨
      ∃ next lower, cond s = .ok true ∧ body s = .ok next ∧ Inv lower next ∧ lower < bound)
    {bound : Nat} {s : σ} (start : Inv bound s) :
    ∃ s', Ends cond body s s' ∧ (∃ last, Inv last s') ∧ cond s' = .ok false := by
  induction bound using Nat.strongRecOn generalizing s with
  | ind bound ih =>
    rcases step bound s start with done | ⟨next, lower, again, round, inv, less⟩
    · exact ⟨s, .exit done, ⟨bound, start⟩, done⟩
    · obtain ⟨s', rest, inv', done⟩ := ih lower less inv
      exact ⟨s', .round again round rest, inv', done⟩

/-- The bound may be a rank of the states. -/
theorem exists_ends (Inv : σ → Prop) (rank : σ → Nat)
    (step : ∀ s, Inv s → cond s = .ok false ∨
      ∃ next, cond s = .ok true ∧ body s = .ok next ∧ Inv next ∧ rank next < rank s)
    {s : σ} (start : Inv s) : ∃ s', Ends cond body s s' ∧ Inv s' ∧ cond s' = .ok false := by
  let Bounded (bound : Nat) (s : σ) : Prop := Inv s ∧ rank s = bound
  have ended : ∃ s', Ends cond body s s' ∧ (∃ last, Bounded last s') ∧ cond s' = .ok false := by
    refine exists_ends_within Bounded ?_ ⟨start, rfl⟩
    rintro bound s ⟨inv, rfl⟩
    rcases step s inv with done | ⟨next, again, round, inv', lower⟩
    · exact .inl done
    · exact .inr ⟨next, rank next, again, round, ⟨inv', rfl⟩, lower⟩
  obtain ⟨s', ends, ⟨_, inv, _⟩, done⟩ := ended
  exact ⟨s', ends, inv, done⟩

/-- A loop whose test always succeeds from here on does not end. -/
theorem not_ends_of_forever (Inv : σ → Prop) {s s' : σ} (start : Inv s)
    (step : ∀ s next, body s = .ok next → Inv s → Inv next)
    (forever : ∀ s, Inv s → cond s ≠ .ok false) : ¬ Ends cond body s s' := fun ends =>
  have final := ends.invariant Inv start fun s next _ round inv => step s next round inv
  forever s' final.1 final.2

end Loops

section Folds

variable {σ α : Type}

/-- The elements of a list are processed one after the other, each step related by `step`. -/
inductive Folds (step : σ → α → σ → Prop) : σ → List α → σ → Prop
  | nil (s : σ) : Folds step s [] s
  | cons {s mid s' : σ} {a : α} {as : List α} (first : step s a mid) (rest : Folds step mid as s') :
      Folds step s (a :: as) s'

namespace Folds

variable {step : σ → α → σ → Prop} {s s' : σ}

theorem nil_iff : Folds step s [] s' ↔ s' = s := by
  constructor
  · intro folds
    cases folds
    rfl
  · rintro rfl
    exact .nil s'

theorem cons_iff {a : α} {as : List α} :
    Folds step s (a :: as) s' ↔ ∃ mid, step s a mid ∧ Folds step mid as s' := by
  constructor
  · intro folds
    cases folds with
    | cons first rest => exact ⟨_, first, rest⟩
  · rintro ⟨mid, first, rest⟩
    exact .cons first rest

theorem append_iff {as bs : List α} :
    Folds step s (as ++ bs) s' ↔ ∃ mid, Folds step s as mid ∧ Folds step mid bs s' := by
  induction as generalizing s with
  | nil => simp [nil_iff]
  | cons a as ih =>
    simp only [List.cons_append, cons_iff, ih]
    constructor
    · rintro ⟨mid, first, mid', rest, later⟩
      exact ⟨mid', ⟨mid, first, rest⟩, later⟩
    · rintro ⟨mid', ⟨mid, first, rest⟩, later⟩
      exact ⟨mid, first, mid', rest, later⟩

/-- Folding over the pieces of a list is folding over the list. -/
theorem flatten_iff {pieces : List (List α)} :
    Folds (Folds step) s pieces s' ↔ Folds step s pieces.flatten s' := by
  induction pieces generalizing s with
  | nil => simp [nil_iff]
  | cons piece pieces ih => simp only [List.flatten_cons, cons_iff, append_iff, ih]

/-- A step relation may be replaced where an invariant makes the two agree. -/
theorem congr {other : σ → α → σ → Prop} (Inv : σ → Prop) {as : List α} (start : Inv s)
    (keeps : ∀ s a s', Inv s → other s a s' → Inv s')
    (same : ∀ s a s', Inv s → (step s a s' ↔ other s a s')) :
    Folds step s as s' ↔ Folds other s as s' := by
  induction as generalizing s with
  | nil => simp only [nil_iff]
  | cons a as ih =>
    simp only [cons_iff]
    constructor
    · rintro ⟨mid, first, rest⟩
      have first' := (same s a mid start).mp first
      exact ⟨mid, first', (ih (keeps s a mid start first')).mp rest⟩
    · rintro ⟨mid, first, rest⟩
      exact ⟨mid, (same s a mid start).mpr first, (ih (keeps s a mid start first)).mpr rest⟩

/-- **The fold rule**: what each step preserves holds at the end. -/
theorem invariant (Inv : σ → Prop) {as : List α} (folds : Folds step s as s') (start : Inv s)
    (keeps : ∀ s a s', Inv s → step s a s' → Inv s') : Inv s' := by
  induction folds with
  | nil s => exact start
  | cons first rest ih => exact ih (keeps _ _ _ start first)

/-- **The indexed fold rule**: an invariant that counts the elements processed. -/
theorem invariant_take (Inv : Nat → σ → Prop) {as : List α} (start : Inv 0 s)
    (keeps : ∀ n s s', (_ : n < as.length) → Inv n s → step s as[n] s' → Inv (n + 1) s')
    {n : Nat} (size : n ≤ as.length) (folds : Folds step s (as.take n) s') : Inv n s' := by
  induction n generalizing s' with
  | zero =>
    obtain rfl := nil_iff.mp folds
    exact start
  | succ n ih =>
    rw [List.take_succ_eq_append_getElem size] at folds
    obtain ⟨mid, before, last⟩ := append_iff.mp folds
    obtain ⟨s', here, done⟩ := cons_iff.mp last
    obtain rfl := nil_iff.mp done
    exact keeps n mid _ size (ih (Nat.le_of_succ_le size) before) here

/-- Steps that an invariant makes possible add up to a fold. -/
theorem exists_take (Inv : Nat → σ → Prop) {as : List α} (start : Inv 0 s)
    (next : ∀ n s, (_ : n < as.length) → Inv n s → ∃ s', step s as[n] s' ∧ Inv (n + 1) s')
    {n : Nat} (size : n ≤ as.length) : ∃ s', Folds step s (as.take n) s' ∧ Inv n s' := by
  induction n with
  | zero => exact ⟨s, .nil s, start⟩
  | succ n ih =>
    obtain ⟨mid, before, inv⟩ := ih (Nat.le_of_succ_le size)
    obtain ⟨s', here, inv'⟩ := next n mid size inv
    refine ⟨s', ?_, inv'⟩
    rw [List.take_succ_eq_append_getElem size]
    exact append_iff.mpr ⟨mid, before, .cons here (.nil s')⟩

/-- A fold of a functional step relation has at most one result. -/
theorem unique (functional : ∀ s a s₁ s₂, step s a s₁ → step s a s₂ → s₁ = s₂) {s₁ s₂ : σ}
    {as : List α} (first : Folds step s as s₁) (second : Folds step s as s₂) : s₁ = s₂ := by
  induction first with
  | nil s => exact (nil_iff.mp second).symm
  | cons head tail ih =>
    obtain ⟨mid, head', tail'⟩ := cons_iff.mp second
    obtain rfl := functional _ _ _ _ head head'
    exact ih tail'

end Folds

/-- **The rule for loops that do not fault**: an invariant of the elements done makes the next step
possible. -/
theorem exists_foldlM {step : σ → α → Exec σ} (Inv : List α → σ → Prop) {as : List α} {s : σ}
    (start : Inv [] s)
    (next : ∀ done a rest s, as = done ++ a :: rest → Inv done s →
      ∃ s', step s a = .ok s' ∧ Inv (done ++ [a]) s') :
    ∃ s', as.foldlM step s = .ok s' ∧ Inv as s' := by
  have suffix : ∀ todo done s, as = done ++ todo → Inv done s →
      ∃ s', todo.foldlM step s = .ok s' ∧ Inv as s' := by
    intro todo
    induction todo with
    | nil =>
      intro done s split inv
      rw [split, List.append_nil]
      exact ⟨s, rfl, inv⟩
    | cons a rest ih =>
      intro done s split inv
      obtain ⟨mid, here, inv'⟩ := next done a rest s split inv
      have split' : as = (done ++ [a]) ++ rest := by rw [split, List.append_assoc, List.singleton_append]
      obtain ⟨s', later, final⟩ := ih (done ++ [a]) mid split' inv'
      refine ⟨s', ?_, final⟩
      rw [List.foldlM_cons, here]
      exact later
  exact suffix as [] s rfl start

variable (step : Nat → σ → α → Exec σ)
  (mono : ∀ fuel fuel' s a s', fuel ≤ fuel' → step fuel s a = .ok s' → step fuel' s a = .ok s')
include mono

/-- Different amounts of fuel give the same result. -/
theorem fuel_unique {fuel₁ fuel₂ : Nat} {s s₁ s₂ : σ} {a : α} (first : step fuel₁ s a = .ok s₁)
    (second : step fuel₂ s a = .ok s₂) : s₁ = s₂ := by
  have same := (mono _ _ _ _ _ (Nat.le_max_left fuel₁ fuel₂) first).symm.trans
    (mono _ _ _ _ _ (Nat.le_max_right fuel₁ fuel₂) second)
  simpa using same

theorem foldlM_mono {fuel fuel' : Nat} {s s' : σ} {as : List α} (le : fuel ≤ fuel')
    (run : as.foldlM (step fuel) s = .ok s') : as.foldlM (step fuel') s = .ok s' := by
  induction as generalizing s with
  | nil => exact run
  | cons a as ih =>
    rw [List.foldlM_cons] at run
    obtain ⟨mid, first, rest⟩ := Exec.bind_ok run
    rw [List.foldlM_cons, mono _ _ _ _ _ le first]
    exact ih rest

/-- A loop over a list that needs fuel is a fold of its body. -/
theorem foldlM_iff_folds {s s' : σ} {as : List α} :
    (∃ fuel, as.foldlM (step fuel) s = .ok s') ↔
      Folds (fun s a s' => ∃ fuel, step fuel s a = .ok s') s as s' := by
  induction as generalizing s with
  | nil =>
    rw [Folds.nil_iff]
    constructor
    · rintro ⟨_, run⟩
      cases run
      rfl
    · rintro rfl
      exact ⟨0, rfl⟩
  | cons a as ih =>
    rw [Folds.cons_iff]
    constructor
    · rintro ⟨fuel, run⟩
      rw [List.foldlM_cons] at run
      obtain ⟨mid, first, rest⟩ := Exec.bind_ok run
      exact ⟨mid, ⟨fuel, first⟩, ih.mp ⟨fuel, rest⟩⟩
    · rintro ⟨mid, ⟨fuel, first⟩, folds⟩
      obtain ⟨fuel', rest⟩ := ih.mpr folds
      refine ⟨max fuel fuel', ?_⟩
      rw [List.foldlM_cons, mono _ _ _ _ _ (Nat.le_max_left fuel fuel') first]
      exact foldlM_mono step mono (Nat.le_max_right fuel fuel') rest

end Folds

end Quickstep.Lib
