import Mathlib.Algebra.Order.Ring.Nat

/-!
# Word memories and counted loops

A word memory maps every word index to a fixed-width word. The operations are the ones
low-level code uses on an array of words: single stores, `memset`, `memmove`, and loops that
run a fixed number of times. Bits are numbered most significant first within a word, and
consecutively across words.
-/

namespace Quickstep.Lib

/-- A flat array of words; nothing bounds the indices. -/
abbrev WordMemory (w : Nat) := Nat → BitVec w

namespace WordMemory

variable {w : Nat}

/-- Store one word. -/
def write (m : WordMemory w) (position : Nat) (value : BitVec w) : WordMemory w :=
  fun p => if p = position then value else m p

/-- Store `value` into `count` words from `start`. -/
def memset (m : WordMemory w) (start : Nat) (value : BitVec w) (count : Nat) : WordMemory w :=
  fun p => if start ≤ p ∧ p < start + count then value else m p

/-- Copy `count` words from `src` to `dest`; the ranges may overlap. -/
def memmove (m : WordMemory w) (dest src count : Nat) : WordMemory w :=
  fun p => if dest ≤ p ∧ p < dest + count then m (src + (p - dest)) else m p

/-- Bit `i` of the memory, most significant bit of word 0 first. -/
def bit (m : WordMemory w) (i : Nat) : Bool := (m (i / w)).getMsbD (i % w)

@[simp] theorem write_same (m : WordMemory w) (p : Nat) (v : BitVec w) : m.write p v p = v := by
  simp [write]

theorem write_other {m : WordMemory w} {p q : Nat} {v : BitVec w} (h : q ≠ p) :
    m.write p v q = m q := by
  simp [write, h]

theorem memset_inside {m : WordMemory w} {start count p : Nat} {v : BitVec w}
    (lower : start ≤ p) (upper : p < start + count) : m.memset start v count p = v := by
  simp [memset, lower, upper]

theorem memmove_inside {m : WordMemory w} {dest src count p : Nat}
    (lower : dest ≤ p) (upper : p < dest + count) :
    m.memmove dest src count p = m (src + (p - dest)) := by
  simp [memmove, lower, upper]

theorem memmove_outside {m : WordMemory w} {dest src count p : Nat}
    (h : p < dest ∨ dest + count ≤ p) : m.memmove dest src count p = m p := by
  simp only [memmove]
  rw [if_neg (by omega)]

/-- Storing one word changes only the bits of that word. -/
theorem bit_write (m : WordMemory w) (p : Nat) (v : BitVec w) (i : Nat) :
    (m.write p v).bit i = if i / w = p then v.getMsbD (i % w) else m.bit i := by
  simp only [bit, write]
  split <;> rfl

/-- A bit by its word and its place there. -/
theorem bit_at {m : WordMemory w} {i q j : Nat} (place : i = w * q + j) (inside : j < w) :
    m.bit i = (m q).getMsbD j := by
  subst place
  rw [bit, Nat.mul_add_div (by omega), Nat.div_eq_of_lt inside, Nat.add_zero,
    Nat.mul_add_mod, Nat.mod_eq_of_lt inside]

theorem bit_congr {m m' : WordMemory w} {i : Nat} (same : m (i / w) = m' (i / w)) :
    m.bit i = m'.bit i := by
  rw [bit, same, bit]

end WordMemory

/-- Run `body 0`, `body 1`, …, `body (n - 1)` in this order. -/
def forUpTo {α : Type} : Nat → (Nat → α → α) → α → α
  | 0, _, a => a
  | n + 1, body, a => body n (forUpTo n body a)

/-- **The loop rule**: an invariant indexed by the number of finished rounds. -/
theorem forUpTo_invariant {α : Type} {n : Nat} {a : α} (body : Nat → α → α)
    (Inv : Nat → α → Prop) (start : Inv 0 a)
    (step : ∀ k s, k < n → Inv k s → Inv (k + 1) (body k s)) : Inv n (forUpTo n body a) := by
  induction n with
  | zero => exact start
  | succ n ih =>
    exact step n _ (Nat.lt_succ_self n) (ih fun k s hk => step k s (Nat.lt_succ_of_lt hk))

/-- A loop that rewrites word `k` in round `k` from its own contents works word by word. -/
theorem forUpTo_pointwise {w : Nat} (m : WordMemory w) (n : Nat) (f : Nat → BitVec w → BitVec w)
    (p : Nat) :
    forUpTo n (fun k s => s.write k (f k (s k))) m p = if p < n then f p (m p) else m p := by
  let Inv (k : Nat) (s : WordMemory w) : Prop := ∀ q, s q = if q < k then f q (m q) else m q
  have h : Inv n (forUpTo n (fun k s => WordMemory.write s k (f k (s k))) m) := by
    refine forUpTo_invariant _ Inv (fun q => by simp) ?_
    intro k s _ inv q
    by_cases hq : q = k
    · subst hq
      rw [WordMemory.write_same, inv q]
      simp
    · rw [WordMemory.write_other hq, inv q]
      simp only [Nat.lt_succ_iff_lt_or_eq, hq, or_false]
  exact h p

end Quickstep.Lib
