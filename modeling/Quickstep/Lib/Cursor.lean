/-!
# Cursors over a list

A cursor starts in front of the elements of a list and is advanced from one to the next.
The contract of a run says what each of its calls has to answer. The rule of this file reduces it
to what one call does in terms of the number of advances since the iteration began.
-/

namespace Quickstep.Lib

/-- The calls of an iteration. -/
inductive CursorCall where
  | beginIteration
  | next
  | iterationFinished
  deriving DecidableEq

/-- A cursor with states `σ` that delivers elements of `α`. `current` has no result where reading
the cursor would be out of range. -/
structure Cursor (σ α : Type) where
  initial : σ
  beginIteration : σ → σ
  next : σ → Bool × σ
  iterationFinished : σ → Bool
  current : σ → Option α

/-- A state in a run, with what happened since the iteration began: the number of calls of `next`,
and what the cursor delivered after those that returned true. -/
structure CursorRun (σ α : Type) where
  state : σ
  advances : Nat
  visited : List (Option α)

namespace Cursor

variable {σ α : Type} (c : Cursor σ α)

def start : CursorRun σ α := ⟨c.initial, 0, []⟩

def step (run : CursorRun σ α) : CursorCall → CursorRun σ α
  | .beginIteration => ⟨c.beginIteration run.state, 0, []⟩
  | .next =>
    let (more, state) := c.next run.state
    ⟨state, run.advances + 1, if more then run.visited ++ [c.current state] else run.visited⟩
  | .iterationFinished => run

/-- The contract of a call: `next` visits the next element if there is one and returns whether
there is, and `iterationFinished` foretells what `next` returns. -/
def Right (elements : List α) (run : CursorRun σ α) : CursorCall → Prop
  | .beginIteration => True
  | .next => (c.next run.state).1 = decide (run.advances < elements.length) ∧
      (c.step run .next).visited = (elements.take (run.advances + 1)).map some
  | .iterationFinished => c.iterationFinished run.state = true ↔ (c.next run.state).1 = false

/-- Every call of a run meets its contract. -/
def RunRight (elements : List α) : CursorRun σ α → List CursorCall → Prop
  | _, [] => True
  | run, call :: calls => c.Right elements run call ∧ RunRight elements (c.step run call) calls

end Cursor

/-- The advances since the iteration began, after one more call. -/
def advancesAfter (advances : Nat) : CursorCall → Nat
  | .beginIteration => 0
  | .next => advances + 1
  | .iterationFinished => advances

/-- Every call of a run is one that its condition on the advances so far allows. -/
def RunAllowed (allowed : Nat → CursorCall → Prop) : Nat → List CursorCall → Prop
  | _, [] => True
  | advances, call :: calls =>
    allowed advances call ∧ RunAllowed allowed (advancesAfter advances call) calls

/-- What the calls of a cursor do in a state that `inv` relates to a number of advances, in the
calls that are allowed there and in those that are not. -/
structure Cursor.Follows {σ α : Type} (c : Cursor σ α) (elements : List α)
    (inv : Nat → σ → Prop) (allowed : Nat → CursorCall → Prop) : Prop where
  initial : inv 0 c.initial
  begins : ∀ k s, inv k s → allowed k .beginIteration ∧ inv 0 (c.beginIteration s)
  advances : ∀ k s, inv k s → allowed k .next →
    (c.next s).1 = decide (k < elements.length) ∧ inv (k + 1) (c.next s).2 ∧
      ∀ inside : k < elements.length, c.current (c.next s).2 = some elements[k]
  foretells : ∀ k s, inv k s → allowed k .iterationFinished →
    (c.iterationFinished s = true ↔ (c.next s).1 = false)
  advances_wrong : ∀ k s, inv k s → ¬ allowed k .next →
    (c.next s).1 ≠ decide (k < elements.length)
  foretells_wrong : ∀ k s, inv k s → ¬ allowed k .iterationFinished →
    ¬ (c.iterationFinished s = true ↔ (c.next s).1 = false)

namespace Cursor.Follows

variable {σ α : Type} {c : Cursor σ α} {elements : List α} {inv : Nat → σ → Prop}
  {allowed : Nat → CursorCall → Prop} {run : CursorRun σ α} {call : CursorCall}

/-- A run that has visited what it should. -/
def Tracks (elements : List α) (inv : Nat → σ → Prop) (run : CursorRun σ α) : Prop :=
  inv run.advances run.state ∧ run.visited = (elements.take run.advances).map some

/-- **One call**: it meets its contract exactly when it is allowed. -/
theorem right_iff (follows : c.Follows elements inv allowed) (tracks : Tracks elements inv run) :
    c.Right elements run call ↔ allowed run.advances call := by
  obtain ⟨holds, visited⟩ := tracks
  cases call with
  | beginIteration => exact ⟨fun _ => (follows.begins _ _ holds).1, fun _ => trivial⟩
  | next =>
    constructor
    · intro right
      exact Classical.byContradiction fun refused =>
        follows.advances_wrong _ _ holds refused right.1
    · intro permitted
      obtain ⟨answer, _, element⟩ := follows.advances _ _ holds permitted
      refine ⟨answer, ?_⟩
      simp only [step, answer, decide_eq_true_eq, visited]
      split
      · rename_i inside
        rw [element inside, List.take_succ_eq_append_getElem inside, List.map_append]
        rfl
      · rename_i outside
        rw [List.take_of_length_le (by omega), List.take_of_length_le (by omega)]
  | iterationFinished =>
    constructor
    · intro right
      exact Classical.byContradiction fun refused =>
        follows.foretells_wrong _ _ holds refused right
    · exact follows.foretells _ _ holds

/-- An allowed call leads on to such a run. -/
theorem tracks_step (follows : c.Follows elements inv allowed) (tracks : Tracks elements inv run)
    (permitted : allowed run.advances call) : Tracks elements inv (c.step run call) := by
  have right := (follows.right_iff tracks).mpr permitted
  obtain ⟨holds, visited⟩ := tracks
  cases call with
  | beginIteration => exact ⟨(follows.begins _ _ holds).2, by simp [step]⟩
  | next => exact ⟨(follows.advances _ _ holds permitted).2.1, right.2⟩
  | iterationFinished => exact ⟨holds, visited⟩

theorem advances_step (run : CursorRun σ α) (call : CursorCall) :
    (c.step run call).advances = advancesAfter run.advances call := by
  cases call with
  | beginIteration => rfl
  | next => rfl
  | iterationFinished => rfl

theorem runRight_iff_of_tracks (follows : c.Follows elements inv allowed)
    (tracks : Tracks elements inv run) (calls : List CursorCall) :
    c.RunRight elements run calls ↔ RunAllowed allowed run.advances calls := by
  induction calls generalizing run with
  | nil => exact Iff.rfl
  | cons call calls ih =>
    rw [RunRight, RunAllowed, follows.right_iff tracks]
    refine and_congr_right fun permitted => ?_
    rw [ih (follows.tracks_step tracks permitted), advances_step]

/-- **The cursor rule**: a run meets the contract exactly when all its calls are allowed. -/
theorem runRight_iff (follows : c.Follows elements inv allowed) (calls : List CursorCall) :
    c.RunRight elements c.start calls ↔ RunAllowed allowed 0 calls :=
  follows.runRight_iff_of_tracks ⟨follows.initial, by simp [start]⟩ calls

end Cursor.Follows

end Quickstep.Lib
