import Quickstep.Lib.WhileLoop
import Quickstep.Lib.WordMemory

/-!
# Bounded arrays of words

Accesses to an array of `size` words, and shifts of words whose width is limited. An access past the
array and a shift by the width or more have no result, so that an execution has one exactly if it
stays in the array. The arithmetic of words is a parameter, so that a result that does not depend on
it is one that nothing wraps in.
-/

namespace Quickstep.Lib

/-- A value that needs a condition. -/
def guarded {α : Type} (condition : Prop) [Decidable condition] (value : α) : Exec α :=
  if condition then .ok value else .error .undefinedBehaviour

theorem guarded_ok {α : Type} {condition : Prop} [Decidable condition] (holds : condition) (value : α) :
    guarded condition value = .ok value := if_pos holds

theorem guarded_error {α : Type} {condition : Prop} [Decidable condition] (fails : ¬ condition)
    (value : α) : guarded condition value = .error .undefinedBehaviour := if_neg fails

theorem guarded_congr {α : Type} {condition condition' : Prop} [Decidable condition]
    [Decidable condition'] (same : condition ↔ condition') (value : α) :
    guarded condition value = guarded condition' value := by
  simp only [guarded, same]

theorem guarded_map {α β : Type} {condition : Prop} [Decidable condition] (value : α) (f : α → β) :
    (guarded condition value).map f = guarded condition (f value) := by
  by_cases holds : condition
  · rw [guarded_ok holds, guarded_ok holds]
    rfl
  · rw [guarded_error holds, guarded_error holds]
    rfl

theorem guarded_eq_ok_iff {α : Type} {condition : Prop} [Decidable condition] {value : α} :
    (∃ result, guarded condition value = .ok result) ↔ condition := by
  by_cases holds : condition
  · rw [guarded_ok holds]
    exact ⟨fun _ => holds, fun _ => ⟨value, rfl⟩⟩
  · rw [guarded_error holds]
    exact ⟨nofun, fun condition => absurd condition holds⟩

theorem Exec.error_bind {α β : Type} (fault : Fault) (next : α → Exec β) :
    (Except.error fault >>= next) = .error fault := rfl

/-- A fault behind a guarded value is the fault of the whole. -/
theorem guarded_bind_error {α β : Type} {condition : Prop} [Decidable condition] {value : α}
    {next : α → Exec β} (fails : next value = .error .undefinedBehaviour) :
    (guarded condition value >>= next) = .error .undefinedBehaviour := by
  by_cases holds : condition
  · rw [guarded_ok holds, Exec.ok_bind, fails]
  · rw [guarded_error holds, Exec.error_bind]

section Shifts

variable {w limit count : Nat}

/-- A shift in a type of `limit` bits. -/
def shiftLeft (limit : Nat) (word : BitVec w) (count : Nat) : Exec (BitVec w) :=
  guarded (count < limit) (word <<< count)

def shiftRight (limit : Nat) (word : BitVec w) (count : Nat) : Exec (BitVec w) :=
  guarded (count < limit) (word >>> count)

theorem shiftLeft_ok (inside : count < limit) (word : BitVec w) :
    shiftLeft limit word count = .ok (word <<< count) := guarded_ok inside _

theorem shiftRight_ok (inside : count < limit) (word : BitVec w) :
    shiftRight limit word count = .ok (word >>> count) := guarded_ok inside _

theorem shiftLeft_error (outside : limit ≤ count) (word : BitVec w) :
    shiftLeft limit word count = .error .undefinedBehaviour := guarded_error (by omega) _

theorem shiftRight_error (outside : limit ≤ count) (word : BitVec w) :
    shiftRight limit word count = .error .undefinedBehaviour := guarded_error (by omega) _

end Shifts

namespace WordMemory

variable {w : Nat} {size position start dest src count : Nat}

def load (m : WordMemory w) (size position : Nat) : Exec (BitVec w) :=
  guarded (position < size) (m position)

def store (m : WordMemory w) (size position : Nat) (value : BitVec w) : Exec (WordMemory w) :=
  guarded (position < size) (m.write position value)

/-- `memset` over words; none of them is accessed if there are none. -/
def memsetWithin (m : WordMemory w) (size start : Nat) (value : BitVec w) (count : Nat) :
    Exec (WordMemory w) :=
  guarded (count = 0 ∨ start + count ≤ size) (m.memset start value count)

def memmoveWithin (m : WordMemory w) (size dest src count : Nat) : Exec (WordMemory w) :=
  guarded (count = 0 ∨ dest + count ≤ size ∧ src + count ≤ size) (m.memmove dest src count)

theorem load_ok (inside : position < size) (m : WordMemory w) : m.load size position = .ok (m position) :=
  guarded_ok inside _

theorem store_ok (inside : position < size) (m : WordMemory w) (value : BitVec w) :
    m.store size position value = .ok (m.write position value) := guarded_ok inside _

theorem memsetWithin_ok (inside : count = 0 ∨ start + count ≤ size) (m : WordMemory w)
    (value : BitVec w) : m.memsetWithin size start value count = .ok (m.memset start value count) :=
  guarded_ok inside _

theorem memmoveWithin_ok (inside : count = 0 ∨ dest + count ≤ size ∧ src + count ≤ size)
    (m : WordMemory w) : m.memmoveWithin size dest src count = .ok (m.memmove dest src count) :=
  guarded_ok inside _

theorem load_error (outside : size ≤ position) (m : WordMemory w) :
    m.load size position = .error .undefinedBehaviour := guarded_error (by omega) _

theorem store_error (outside : size ≤ position) (m : WordMemory w) (value : BitVec w) :
    m.store size position value = .error .undefinedBehaviour := guarded_error (by omega) _

theorem memmoveWithin_error (positive : count ≠ 0) (outside : size < dest + count)
    (m : WordMemory w) : m.memmoveWithin size dest src count = .error .undefinedBehaviour :=
  guarded_error (by omega) _

end WordMemory

/-- The words that `(stop - start) * 8` bytes are, in arithmetic of 64 bits. -/
def wordsBetween (start stop : Nat) : Nat := (stop + (2 ^ 64 - start)) * 8 % 2 ^ 64 / 8

theorem wordsBetween_eq {start stop : Nat} (order : start ≤ stop) (small : stop < 2 ^ 61) :
    wordsBetween start stop = stop - start := by
  unfold wordsBetween
  omega

/-- A negative number of words is a huge one. -/
theorem lt_wordsBetween {start stop : Nat} (order : stop < start) (near : start < 2 ^ 60) :
    2 ^ 60 < wordsBetween start stop := by
  unfold wordsBetween
  omega

/-! ## Loops -/

section Loops

variable {α β : Type}

/-- Run `body 0`, `body 1`, …, `body (n - 1)` in this order. -/
def forUpToM : Nat → (Nat → α → Exec α) → α → Exec α
  | 0, _, a => .ok a
  | n + 1, body, a => do body n (← forUpToM n body a)

/-- **Rounds that are guarded** add up to a loop that is guarded by all their conditions. -/
theorem forUpToM_guarded {n : Nat} {body : Nat → α → Exec α} {f : Nat → α → α} {P : Nat → Prop}
    [DecidablePred P] (rounds : ∀ k, k < n → ∀ a, body k a = guarded (P k) (f k a)) (a : α) :
    forUpToM n body a = guarded (∀ k, k < n → P k) (forUpTo n f a) := by
  induction n with
  | zero => exact (guarded_ok (fun k below => absurd below (Nat.not_lt_zero k)) a).symm
  | succ n ih =>
    rw [forUpToM, ih fun k below => rounds k (Nat.lt_succ_of_lt below)]
    have last := rounds n (Nat.lt_succ_self n) (forUpTo n f a)
    by_cases before : ∀ k, k < n → P k
    · rw [guarded_ok before, Exec.ok_bind, last]
      by_cases holds : P n
      · have every : ∀ k, k < n + 1 → P k := by
          intro k below
          rcases Nat.lt_succ_iff_lt_or_eq.mp below with earlier | rfl
          · exact before k earlier
          · exact holds
        rw [guarded_ok holds, guarded_ok every]
        rfl
      · rw [guarded_error holds, guarded_error fun every => holds (every n (Nat.lt_succ_self n))]
    · rw [guarded_error before, Exec.error_bind,
        guarded_error fun every => before fun k below => every k (Nat.lt_succ_of_lt below)]

/-- Rounds that all have a result add up to the loop without faults. -/
theorem forUpToM_ok {n : Nat} {body : Nat → α → Exec α} {f : Nat → α → α}
    (rounds : ∀ k, k < n → ∀ a, body k a = .ok (f k a)) (a : α) :
    forUpToM n body a = .ok (forUpTo n f a) := by
  have loop := @forUpToM_guarded α n body f (fun _ => True) _
    (fun k below a => (rounds k below a).trans (guarded_ok trivial _).symm) a
  rw [loop]
  exact guarded_ok (fun _ _ => trivial) _

/-- A loop over the indices from `index` on, which returns from within. -/
def forReturn (body : Nat → Exec (Option β)) : Nat → Nat → Exec (Option β)
  | 0, _ => .ok none
  | rounds + 1, index => do
    match ← body index with
    | some result => pure (some result)
    | none => forReturn body rounds (index + 1)

theorem forReturn_ok {body : Nat → Exec (Option β)} {f : Nat → Option β} {rounds index : Nat}
    (results : ∀ k, index ≤ k → k < index + rounds → body k = .ok (f k)) :
    forReturn body rounds index = .ok ((List.range' index rounds).findSome? f) := by
  induction rounds generalizing index with
  | zero => rfl
  | succ rounds ih =>
    rw [forReturn, results index (Nat.le_refl _) (by omega), Exec.ok_bind, List.range'_succ,
      List.findSome?_cons]
    cases f index with
    | some result => rfl
    | none => exact ih fun k lower upper => results k (by omega) (by omega)

/-- **The rule for loops that may return**: each index returns what is promised, or keeps the invariant. -/
theorem forReturn_rule {body : Nat → Exec (Option β)} (Inv : Nat → Prop) (Post : β → Prop)
    {rounds index : Nat} (start : Inv index)
    (step : ∀ k, index ≤ k → k < index + rounds → Inv k →
      (∃ result, body k = .ok (some result) ∧ Post result) ∨ (body k = .ok none ∧ Inv (k + 1))) :
    (∃ result, forReturn body rounds index = .ok (some result) ∧ Post result) ∨
      (forReturn body rounds index = .ok none ∧ Inv (index + rounds)) := by
  induction rounds generalizing index with
  | zero => exact .inr ⟨rfl, start⟩
  | succ rounds ih =>
    rw [forReturn]
    rcases step index (Nat.le_refl _) (by omega) start with ⟨result, run, post⟩ | ⟨run, inv⟩
    · rw [run]
      exact .inl ⟨result, rfl, post⟩
    · have rest := ih inv fun k lower upper => step k (by omega) (by omega)
      rw [run, Exec.ok_bind, show index + (rounds + 1) = index + 1 + rounds by omega]
      exact rest

end Loops

/-! ## Arithmetic of words -/

/-- Unsigned arithmetic in `width` bits, which is exact where a result fits. -/
structure WordArithmetic (width : Nat) where
  result : Int → Exec Nat
  result_ok : ∀ value : Nat, value < 2 ^ width → result value = .ok value

namespace WordArithmetic

/-- The arithmetic of the machine. -/
def wrapping (width : Nat) : WordArithmetic width where
  result value := .ok (value % 2 ^ width).toNat
  result_ok value fits := by
    have same : (value : Int) % 2 ^ width = value := Int.emod_eq_of_lt (by omega) (by exact_mod_cast fits)
    rw [same, Int.toNat_natCast]

/-- An arithmetic in which nothing wraps. -/
def checked (width : Nat) : WordArithmetic width where
  result value := guarded (0 ≤ value ∧ value < 2 ^ width) value.toNat
  result_ok value fits := guarded_ok ⟨by omega, by exact_mod_cast fits⟩ _

variable {width : Nat} (arithmetic : WordArithmetic width)

def add (x y : Nat) : Exec Nat := arithmetic.result (x + y)

def sub (x y : Nat) : Exec Nat := arithmetic.result (x - y)

def mul (x y : Nat) : Exec Nat := arithmetic.result (x * y)

variable {x y : Nat}

theorem add_ok (fits : x + y < 2 ^ width) : arithmetic.add x y = .ok (x + y) :=
  arithmetic.result_ok (x + y) fits

theorem mul_ok (fits : x * y < 2 ^ width) : arithmetic.mul x y = .ok (x * y) :=
  arithmetic.result_ok (x * y) fits

theorem sub_ok (le : y ≤ x) (fits : x < 2 ^ width) : arithmetic.sub x y = .ok (x - y) := by
  rw [sub, ← Int.ofNat_sub le]
  exact arithmetic.result_ok (x - y) (by omega)

end WordArithmetic

/-- Division, which needs a divisor. -/
def divide (x y : Nat) : Exec Nat := guarded (y ≠ 0) (x / y)

theorem divide_ok {y : Nat} (positive : 0 < y) (x : Nat) : divide x y = .ok (x / y) :=
  guarded_ok (by omega) _

end Quickstep.Lib
