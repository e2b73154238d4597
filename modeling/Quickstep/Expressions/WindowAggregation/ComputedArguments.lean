import Quickstep.Expressions.WindowAggregation.Runs

/-!
# Computed arguments

`calculate` over the accessor it is given. The evaluation of an argument that is not an attribute is
itself a pass over that accessor, and leaves it before the first or behind the last tuple, where
`calculate` then asks for the current tuple.
-/

namespace Quickstep.Expressions.WindowAggregation
open Quickstep.Lib

/-- A `TupleVectorValueAccessor`. Tuple ids are `int`s, and a batch has no tuple without an id. -/
structure TupleVectorValueAccessor where
  tuples : List Tuple
  addressable : tuples.length < 2 ^ 31
  currentPosition : Nat := 2 ^ 64 - 1

namespace TupleVectorValueAccessor

/-- The accessor at another position. -/
def moveTo (a : TupleVectorValueAccessor) (position : Nat) : TupleVectorValueAccessor :=
  { a with currentPosition := position }

def beginIteration (a : TupleVectorValueAccessor) : TupleVectorValueAccessor := a.moveTo (2 ^ 64 - 1)

/-- `next` increments a `size_t`, ... -/
def next (a : TupleVectorValueAccessor) : TupleVectorValueAccessor :=
  a.moveTo ((a.currentPosition + 1) % 2 ^ 64)

/-- ... and returns whether there is a tuple at the position reached. -/
def onTuple (a : TupleVectorValueAccessor) : Bool := decide (a.currentPosition < a.tuples.length)

/-- `getTuple`: the current position has to be the id of a tuple. -/
def getTuple (a : TupleVectorValueAccessor) : Exec Tuple :=
  match a.tuples[a.currentPosition]? with
  | some t => .ok t
  | none => .error .undefinedBehaviour

section Iteration

variable {σ : Type}

/-- `while (accessor->next()) body`, for at most the given number of tests. -/
def forEachRounds (body : TupleVectorValueAccessor → σ → Exec σ) :
    Nat → TupleVectorValueAccessor → σ → Exec (TupleVectorValueAccessor × σ)
  | 0, _, _ => .error .outOfFuel
  | rounds + 1, a, s =>
    if a.next.onTuple then do
      let s ← body a.next s
      forEachRounds body rounds a.next s
    else pure (a.next, s)

/-- A pass over the accessor tests `next` once for each tuple and once more. -/
def forEach (body : TupleVectorValueAccessor → σ → Exec σ) (a : TupleVectorValueAccessor) (s : σ) :
    Exec (TupleVectorValueAccessor × σ) :=
  forEachRounds body (a.tuples.length + 1) a s

variable {body : TupleVectorValueAccessor → σ → Exec σ} {a : TupleVectorValueAccessor}

@[simp] theorem moveTo_tuples (position : Nat) : (a.moveTo position).tuples = a.tuples := rfl

@[simp] theorem moveTo_moveTo (first second : Nat) :
    (a.moveTo first).moveTo second = a.moveTo second := rfl

theorem next_of_lt {n : Nat} (position : n < 2 ^ 31) : (a.moveTo n).next = a.moveTo (n + 1) := by
  show a.moveTo ((n + 1) % 2 ^ 64) = _
  rw [Nat.mod_eq_of_lt (by omega)]

theorem next_beginIteration : a.beginIteration.next = a.moveTo 0 := by
  show a.moveTo ((2 ^ 64 - 1 + 1) % 2 ^ 64) = _
  norm_num

theorem getTuple_of_lt {n : Nat} (inside : n < a.tuples.length) :
    (a.moveTo n).getTuple = .ok a.tuples[n] := by
  unfold getTuple
  rw [show (a.moveTo n).tuples[(a.moveTo n).currentPosition]? = some a.tuples[n] from
    List.getElem?_eq_getElem inside]

theorem getTuple_of_ge {n : Nat} (outside : a.tuples.length ≤ n) :
    (a.moveTo n).getTuple = .error .undefinedBehaviour := by
  unfold getTuple
  rw [show (a.moveTo n).tuples[(a.moveTo n).currentPosition]? = none from
    List.getElem?_eq_none outside]

/-- From the tuple before the `n`-th on, the loop folds its body over the tuples left. -/
theorem forEachRounds_eq (step : σ → Tuple → Exec σ)
    (reads : ∀ n s, (_ : n < a.tuples.length) → body (a.moveTo n) s = step s a.tuples[n])
    {b : TupleVectorValueAccessor} {n : Nat} (reached : b.next = a.moveTo n)
    (size : n ≤ a.tuples.length) (s : σ) :
    forEachRounds body (a.tuples.length - n + 1) b s = (do
      let s ← (a.tuples.drop n).foldlM step s
      pure (a.moveTo a.tuples.length, s)) := by
  obtain ⟨left, length⟩ := Nat.exists_eq_add_of_le size
  induction left generalizing b n s with
  | zero =>
    obtain rfl : n = a.tuples.length := length.symm
    have done : (a.moveTo a.tuples.length).onTuple = false := decide_eq_false (Nat.lt_irrefl _)
    rw [Nat.sub_self, forEachRounds, reached, done, List.drop_length]
    rfl
  | succ left ih =>
    have inside : n < a.tuples.length := by omega
    have again : (a.moveTo n).onTuple = true := decide_eq_true inside
    have reached' : (a.moveTo n).next = a.moveTo (n + 1) :=
      next_of_lt (Nat.lt_trans inside a.addressable)
    have rounds : a.tuples.length - n = a.tuples.length - (n + 1) + 1 := by omega
    rw [forEachRounds, reached, again, if_pos rfl, reads n s inside,
      List.drop_eq_getElem_cons inside, List.foldlM_cons, rounds, bind_assoc]
    apply bind_congr
    intro s'
    exact ih reached' (Nat.succ_le_of_lt inside) s' (by omega)

/-- **A pass** over an accessor folds its body over the tuples and ends behind the last one. -/
theorem forEach_eq (step : σ → Tuple → Exec σ)
    (reads : ∀ n s, (_ : n < a.tuples.length) → body (a.moveTo n) s = step s a.tuples[n]) (s : σ) :
    forEach body a.beginIteration s = (do
      let s ← a.tuples.foldlM step s
      pure (a.moveTo a.tuples.length, s)) := by
  apply forEachRounds_eq step reads next_beginIteration (Nat.zero_le _) s

end Iteration

end TupleVectorValueAccessor

/-- A scalar that is not an attribute: it is static, or it is evaluated on every tuple. -/
inductive ComputedArgument where
  | static (value : TypedValue)
  | overTuples (value : Tuple → TypedValue)

namespace ComputedArgument

def value : ComputedArgument → Tuple → TypedValue
  | static value, _ => value
  | overTuples value, t => value t

/-- `getAllValues`: a static value fills the column without a look at the accessor. -/
def getAllValues (argument : ComputedArgument) (a : TupleVectorValueAccessor) :
    Exec (TupleVectorValueAccessor × List TypedValue) :=
  match argument with
  | static value => pure (a, List.replicate a.tuples.length value)
  | overTuples value =>
    a.beginIteration.forEach (fun a column => do
      let t ← a.getTuple
      pure (column ++ [value t])) []

/-- The column holds the value of every tuple, and the accessor does not stand on a tuple. -/
theorem getAllValues_eq (argument : ComputedArgument) (a : TupleVectorValueAccessor) :
    ∃ position, a.tuples.length ≤ position ∧
      argument.getAllValues a.beginIteration = .ok (a.moveTo position, a.tuples.map argument.value) := by
  cases argument with
  | static value =>
    refine ⟨2 ^ 64 - 1, by have := a.addressable; omega, ?_⟩
    show Except.ok (a.beginIteration, List.replicate a.tuples.length value) = _
    rw [show a.tuples.map (static value).value = List.replicate a.tuples.length value from
      List.map_const']
    rfl
  | overTuples value =>
    have appends (ts : List Tuple) (column : List TypedValue) :
        ts.foldlM (fun column t => (pure (column ++ [value t]) : Exec _)) column =
          .ok (column ++ ts.map value) := by
      induction ts generalizing column with
      | nil => simp [pure, Except.pure]
      | cons t ts ih =>
        rw [List.foldlM_cons, pure_bind, ih, List.map_cons, List.append_assoc, List.singleton_append]
    refine ⟨a.tuples.length, le_refl _, ?_⟩
    show a.beginIteration.forEach _ [] = _
    rw [TupleVectorValueAccessor.forEach_eq fun column t => pure (column ++ [value t]), appends]
    · rfl
    · intro n column inside
      rw [TupleVectorValueAccessor.getTuple_of_lt inside]
      rfl

end ComputedArgument

/-- The argument of a handle, as `calculate` meets it. -/
inductive ScalarArgument where
  | ofAttribute (attributeId : Nat)
  | computed (argument : ComputedArgument)

/-- What the calls have left: the handle, the emissions, and the input tuples they have processed. -/
abbrev Progress := (Handle × List Emission) × List Tuple

namespace Handle

/-- One round of the loop over the accessor. The tuple is copied, the value of a computed argument is
added to the copy, and the copy arrives. -/
def processCurrent (fuel argumentId : Nat) (argumentColumn : Option (List TypedValue))
    (input : TupleVectorValueAccessor) (s : Progress) : Exec Progress := do
  let t ← input.getTuple
  let copy ← match argumentColumn with
    | none => pure t
    | some column => match column[input.currentPosition]? with
      | some value => pure (t ++ [value])
      | none => .error .undefinedBehaviour
  let s' ← processTuple fuel argumentId s.1 copy
  pure (s', s.2 ++ [t])

/-- `calculate`, over its accessor. The id of a computed argument is the width of the current tuple. -/
def calculateOver (fuel : Nat) (argument : ScalarArgument) (s : Progress)
    (input : TupleVectorValueAccessor) : Exec Progress := do
  let input := input.beginIteration
  match argument with
  | .ofAttribute argumentId =>
    let (_, s) ← input.forEach (processCurrent fuel argumentId none) s
    pure s
  | .computed argument =>
    let (input, column) ← argument.getAllValues input
    let current ← input.getTuple
    let (_, s) ← input.forEach (processCurrent fuel current.length (some column)) s
    pure s

/-- The calls over the accessors return with this progress. -/
def ReturnsOver (h : Handle) (argument : ScalarArgument) (batches : List TupleVectorValueAccessor)
    (s : Progress) : Prop :=
  ∃ fuel, batches.foldlM (calculateOver fuel argument) ((h, []), []) = .ok s

end Handle

/-! ## An attribute as argument -/

/-- The loop over the accessor is the loop over its tuples; each is processed once. -/
theorem calculateOver_attribute (fuel argumentId : Nat) (s : Progress)
    (input : TupleVectorValueAccessor) :
    Handle.calculateOver fuel (.ofAttribute argumentId) s input = (do
      let s' ← input.tuples.foldlM (Handle.processTuple fuel argumentId) s.1
      pure (s', s.2 ++ input.tuples)) := by
  have logs (ts : List Tuple) (s : Progress) :
      ts.foldlM (fun s t => do
        let s' ← Handle.processTuple fuel argumentId s.1 t
        (pure (s', s.2 ++ [t]) : Exec Progress)) s = (do
      let s' ← ts.foldlM (Handle.processTuple fuel argumentId) s.1
      pure (s', s.2 ++ ts)) := by
    induction ts generalizing s with
    | nil => simp only [List.foldlM_nil, pure_bind, List.append_nil]
    | cons t ts ih =>
      simp only [List.foldlM_cons, bind_assoc, pure_bind, ih, List.append_assoc,
        List.singleton_append]
  show (do
    let (_, s) ← input.beginIteration.forEach (Handle.processCurrent fuel argumentId none) s
    pure s) = _
  rw [TupleVectorValueAccessor.forEach_eq fun s t => do
    let s' ← Handle.processTuple fuel argumentId s.1 t
    (pure (s', s.2 ++ [t]) : Exec Progress)]
  · simp only [bind_assoc, pure_bind, logs]
  · intro n s inside
    unfold Handle.processCurrent
    rw [TupleVectorValueAccessor.getTuple_of_lt inside]
    rfl

theorem foldlM_calculateOver (fuel argumentId : Nat) (batches : List TupleVectorValueAccessor)
    (s : Progress) (plain : s.1.1.argument = .ofAttribute argumentId) :
    batches.foldlM (Handle.calculateOver fuel (.ofAttribute argumentId)) s = (do
      let s' ← (batches.map (·.tuples)).foldlM (Handle.calculate fuel) s.1
      pure (s', s.2 ++ (batches.map (·.tuples)).flatten)) := by
  induction batches generalizing s with
  | nil => simp only [List.foldlM_nil, List.map_nil, List.flatten_nil, List.append_nil, pure_bind]
  | cons input batches ih =>
    have call : Handle.calculate fuel s.1 input.tuples =
        input.tuples.foldlM (Handle.processTuple fuel argumentId) s.1 := by
      unfold Handle.calculate
      rw [plain]
    rw [List.foldlM_cons, calculateOver_attribute, List.map_cons, List.foldlM_cons, call]
    cases run : input.tuples.foldlM (Handle.processTuple fuel argumentId) s.1 with
    | error fault => rfl
    | ok mid =>
      have received : Received argumentId s.1 input.tuples mid :=
        (foldlM_iff_folds (fun fuel => Handle.processTuple fuel argumentId)
          fun _ _ _ _ _ => processTuple_mono).mp ⟨fuel, run⟩
      have plain' : mid.1.argument = .ofAttribute argumentId :=
        (SameHandle.received received).argument.trans plain
      show batches.foldlM _ (mid, s.2 ++ input.tuples) = _
      rw [ih (mid, s.2 ++ input.tuples) plain', List.flatten_cons, List.append_assoc]
      rfl

/-- **Calls over accessors refine to calls over lists of tuples** when the argument is an attribute,
and every tuple of every batch is processed once, in order. -/
theorem returnsOver_attribute_iff {h : Handle} {argumentId : Nat}
    (plain : h.argument = .ofAttribute argumentId) {batches : List TupleVectorValueAccessor}
    {h' : Handle} {emissions : List Emission} {processed : List Tuple} :
    h.ReturnsOver (.ofAttribute argumentId) batches ((h', emissions), processed) ↔
      h.Returns (batches.map (·.tuples)) h' emissions ∧
        processed = (batches.map (·.tuples)).flatten := by
  have calls (fuel : Nat) := foldlM_calculateOver fuel argumentId batches ((h, []), []) plain
  constructor
  · rintro ⟨fuel, run⟩
    rw [calls fuel] at run
    obtain ⟨s', returns, result⟩ := Exec.bind_ok run
    cases result
    exact ⟨⟨fuel, returns⟩, rfl⟩
  · rintro ⟨⟨fuel, returns⟩, rfl⟩
    refine ⟨fuel, ?_⟩
    unfold Handle.calculateAll at returns
    rw [calls fuel, returns]
    rfl

/-! ## A computed argument -/

/-- After the evaluation the accessor has no current tuple, whatever is in the batch. -/
theorem calculateOver_computed (fuel : Nat) (argument : ComputedArgument) (s : Progress)
    (input : TupleVectorValueAccessor) :
    Handle.calculateOver fuel (.computed argument) s input = .error .undefinedBehaviour := by
  obtain ⟨position, outside, evaluated⟩ := argument.getAllValues_eq input
  unfold Handle.calculateOver
  simp only [evaluated]
  show ((input.moveTo position).getTuple >>= fun current => _) = _
  rw [TupleVectorValueAccessor.getTuple_of_ge outside]
  rfl

/-- The input as the reference handle gets it: the value of the argument is the last attribute. -/
def withArgument (argument : ComputedArgument) (input : TupleVectorValueAccessor) : List Tuple :=
  input.tuples.map fun t => t ++ [argument.value t]

/-- **Computed arguments.** The calls of a handle with a computed argument return what a handle returns
that finds the same values in an attribute, and process every tuple once, exactly when there is no
call. -/
theorem computed_agrees_iff (streamingId width : Nat) (argument : ComputedArgument)
    (emitDuration startValue : Option ℚ) (frame : Frame) (batches : List TupleVectorValueAccessor) :
    (∃ h emissions processed,
      (Handle.create streamingId (.computed argument.value) emitDuration startValue frame).ReturnsOver
        (.computed argument) batches ((h, emissions), processed) ∧
      (Handle.create streamingId (.ofAttribute width) emitDuration startValue frame).Returns
        (batches.map (withArgument argument)) { h with argument := .ofAttribute width } emissions ∧
      processed = (batches.map (·.tuples)).flatten) ↔ batches = [] := by
  constructor
  · rintro ⟨h, emissions, processed, ⟨fuel, run⟩, -, -⟩
    cases batches with
    | nil => rfl
    | cons input batches =>
      rw [List.foldlM_cons, calculateOver_computed] at run
      cases run
  · rintro rfl
    exact ⟨_, [], [], ⟨0, rfl⟩, ⟨0, rfl⟩, rfl⟩

/-- One tuple, and its second attribute doubled as argument: the call does not return. -/
theorem not_computed_agrees_doubled :
    ¬ ∃ h emissions processed,
      (Handle.create 0 (.computed fun t => .ofNumber? ((getNumber t 1).map (2 * ·))) none none
        (.rows none 0)).ReturnsOver
        (.computed (.overTuples fun t => .ofNumber? ((getNumber t 1).map (2 * ·))))
        [⟨[reading 0 3], by decide, 2 ^ 64 - 1⟩] ((h, emissions), processed) ∧
      (Handle.create 0 (.ofAttribute 2) none none (.rows none 0)).Returns
        [[reading 0 3 ++ [.number 6]]] { h with argument := .ofAttribute 2 } emissions ∧
      processed = [reading 0 3] := by
  rintro ⟨h, emissions, processed, ⟨fuel, run⟩, -⟩
  rw [List.foldlM_cons, calculateOver_computed] at run
  cases run

end Quickstep.Expressions.WindowAggregation
