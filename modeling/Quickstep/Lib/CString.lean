import Mathlib.Data.List.Lex
import Mathlib.Order.Defs.LinearOrder
import Quickstep.Lib.WhileLoop

/-!
# C strings

`strcmp` and `strncmp` on memory of known size. Reading past the end is undefined. Where it is
defined the result is the sign of the unsigned lexicographic order of the characters.
-/

namespace Quickstep.Lib.CString

/-- The characters before the first NUL, as numbers. -/
def characters (data : List (BitVec 8)) : List Nat := (data.takeWhile (· ≠ 0)).map BitVec.toNat

/-- The sign of the lexicographic order. -/
def orderSign (left right : List Nat) : Int :=
  if left < right then -1 else if right < left then 1 else 0

/-- The sign that a comparison of two different characters returns. -/
def charSign (left right : BitVec 8) : Int := if left.toNat < right.toNat then -1 else 1

def strcmp : List (BitVec 8) → List (BitVec 8) → Exec Int
  | l :: left, r :: right =>
    if l ≠ r then .ok (charSign l r) else if l = 0 then .ok 0 else strcmp left right
  | _, _ => .error .undefinedBehaviour

def strncmp : List (BitVec 8) → List (BitVec 8) → Nat → Exec Int
  | _, _, 0 => .ok 0
  | l :: left, r :: right, n + 1 =>
    if l ≠ r then .ok (charSign l r) else if l = 0 then .ok 0 else strncmp left right n
  | _, _, _ + 1 => .error .undefinedBehaviour

/-- Reading stops within the memory, at a NUL or after `n` characters. -/
def Readable (data : List (BitVec 8)) (n : Nat) : Prop := n ≤ data.length ∨ 0 ∈ data

/-! ## The order of strings -/

section Order

variable {x y : List Nat}

@[simp] theorem orderSign_self (x : List Nat) : orderSign x x = 0 := by
  unfold orderSign
  rw [if_neg (lt_irrefl x), if_neg (lt_irrefl x)]

theorem orderSign_eq_zero : orderSign x y = 0 ↔ x = y := by
  constructor
  · intro zero
    unfold orderSign at zero
    rcases lt_trichotomy x y with less | same | greater
    · rw [if_pos less] at zero
      cases zero
    · exact same
    · rw [if_neg greater.asymm, if_pos greater] at zero
      cases zero
  · rintro rfl
    exact orderSign_self x

theorem orderSign_neg_iff : orderSign x y < 0 ↔ x < y := by
  unfold orderSign
  split
  · rename_i less
    exact iff_of_true (by decide) less
  · rename_i notLess
    apply iff_of_false _ notLess
    split <;> decide

theorem orderSign_swap (x y : List Nat) : orderSign y x = -orderSign x y := by
  unfold orderSign
  rcases lt_trichotomy x y with less | rfl | greater
  · rw [if_neg less.asymm, if_pos less, if_pos less]
    rfl
  · rw [if_neg (lt_irrefl x), if_neg (lt_irrefl x)]
    rfl
  · rw [if_pos greater, if_neg greater.asymm, if_pos greater]

theorem orderSign_nil_cons (b : Nat) (y : List Nat) : orderSign [] (b :: y) = -1 :=
  if_pos (List.nil_lt_cons b y)

theorem orderSign_cons_nil (a : Nat) (x : List Nat) : orderSign (a :: x) [] = 1 := by
  rw [orderSign_swap, orderSign_nil_cons]
  rfl

theorem orderSign_cons_self (a : Nat) (x y : List Nat) :
    orderSign (a :: x) (a :: y) = orderSign x y := by
  unfold orderSign
  simp only [List.cons_lt_cons_iff, lt_irrefl, false_or, true_and]

theorem orderSign_cons_of_lt {a b : Nat} (less : a < b) (x y : List Nat) :
    orderSign (a :: x) (b :: y) = -1 := if_pos (List.cons_lt_cons_iff.mpr (.inl less))

theorem orderSign_cons_of_gt {a b : Nat} (greater : b < a) (x y : List Nat) :
    orderSign (a :: x) (b :: y) = 1 := by
  rw [orderSign_swap, orderSign_cons_of_lt greater]
  rfl

/-- A string that fits in `n` characters is compared with the first `n` of another one, and by
length when these are equal. -/
theorem orderSign_take_right {n : Nat} (fits : x.length ≤ n) :
    orderSign x y =
      if orderSign x (y.take n) ≠ 0 then orderSign x (y.take n)
      else if n < y.length then -1 else 0 := by
  induction x generalizing y n with
  | nil =>
    cases y with
    | nil => simp
    | cons b y =>
      cases n with
      | zero => simp [orderSign_nil_cons]
      | succ n => simp [orderSign_nil_cons]
  | cons a x ih =>
    obtain ⟨k, rfl⟩ : ∃ k, n = k + 1 := ⟨n - 1, by simp only [List.length_cons] at fits; omega⟩
    cases y with
    | nil => simp [orderSign_cons_nil]
    | cons b y =>
      rw [List.take_succ_cons]
      rcases lt_trichotomy a b with less | rfl | greater
      · simp [orderSign_cons_of_lt less]
      · simp only [orderSign_cons_self, List.length_cons, Nat.add_lt_add_iff_right]
        exact ih (Nat.le_of_succ_le_succ fits)
      · simp [orderSign_cons_of_gt greater]

/-- The same for a string on the right. -/
theorem orderSign_take_left {n : Nat} (fits : y.length ≤ n) :
    orderSign x y =
      if orderSign (x.take n) y ≠ 0 then orderSign (x.take n) y
      else if n < x.length then 1 else 0 := by
  have swapped := orderSign_take_right (y := x) fits
  rw [orderSign_swap x y, orderSign_swap (x.take n) y] at swapped
  split at swapped
  · rename_i differ
    rw [if_pos (by omega)]
    omega
  · rename_i same
    rw [if_neg (by omega)]
    split at swapped
    · rename_i longer
      rw [if_pos longer]
      omega
    · rename_i notLonger
      rw [if_neg notLonger]
      omega

end Order

/-! ## What the comparisons return -/

section Comparisons

theorem characters_cons_zero (data : List (BitVec 8)) : characters (0 :: data) = [] := rfl

theorem characters_cons {c : BitVec 8} (notNul : c ≠ 0) (data : List (BitVec 8)) :
    characters (c :: data) = c.toNat :: characters data := by
  unfold characters
  rw [List.takeWhile_cons, if_pos (by simpa using notNul)]
  rfl

theorem characters_append {data : List (BitVec 8)} (ends : 0 ∈ data) (rest : List (BitVec 8)) :
    characters (data ++ rest) = characters data := by
  induction data with
  | nil => cases ends
  | cons c data ih =>
    rw [List.cons_append]
    by_cases zero : c = 0
    · rw [zero, characters_cons_zero, characters_cons_zero]
    · have later := (List.mem_cons.mp ends).resolve_left (Ne.symm zero)
      rw [characters_cons zero, characters_cons zero, ih later]

/-- A terminator adds no character. -/
theorem characters_append_zero (data : List (BitVec 8)) :
    characters (data ++ [0]) = characters data := by
  induction data with
  | nil => rfl
  | cons c data ih =>
    rw [List.cons_append]
    by_cases nul : c = 0
    · subst nul
      rfl
    · rw [characters_cons nul, characters_cons nul, ih]

/-- The characters of the first bytes are the first characters. -/
theorem characters_take_eq (data : List (BitVec 8)) (n : Nat) :
    characters (data.take n) = (characters data).take n := by
  induction data generalizing n with
  | nil => rw [List.take_nil, characters, List.takeWhile_nil, List.map_nil, List.take_nil]
  | cons c data ih =>
    cases n with
    | zero => rfl
    | succ n =>
      rw [List.take_succ_cons]
      by_cases nul : c = 0
      · subst nul
        rw [characters_cons_zero, characters_cons_zero, List.take_nil]
      · rw [characters_cons nul, characters_cons nul, List.take_succ_cons, ih]

theorem characters_drop {data : List (BitVec 8)} {n : Nat}
    (covered : n ≤ (characters data).length) :
    characters (data.drop n) = (characters data).drop n := by
  induction data generalizing n with
  | nil => rw [List.drop_nil, characters, List.takeWhile_nil, List.map_nil, List.drop_nil]
  | cons c data ih =>
    cases n with
    | zero => rfl
    | succ n =>
      by_cases nul : c = 0
      · rw [nul, characters_cons_zero, List.length_nil] at covered
        omega
      · rw [characters_cons nul, List.length_cons] at covered
        rw [characters_cons nul, List.drop_succ_cons, List.drop_succ_cons,
          ih (Nat.le_of_succ_le_succ covered)]

theorem characters_drop_eq_nil_iff {data : List (BitVec 8)} {n : Nat} (inside : n < data.length) :
    characters (data.drop n) = [] ↔ data[n]? = some 0 := by
  rw [List.drop_eq_getElem_cons inside, List.getElem?_eq_getElem inside]
  by_cases nul : data[n] = 0
  · rw [nul, characters_cons_zero]
    exact iff_of_true rfl rfl
  · rw [characters_cons nul]
    exact iff_of_false nofun fun same => nul (Option.some.inj same)

/-- Two strings that differ in their first character. -/
theorem orderSign_of_ne {l r : BitVec 8} (differ : l ≠ r) (left right : List (BitVec 8)) (n : Nat) :
    orderSign ((characters (l :: left)).take (n + 1)) ((characters (r :: right)).take (n + 1)) =
      charSign l r := by
  unfold charSign
  have notSame : l.toNat ≠ r.toNat := fun same => differ (BitVec.eq_of_toNat_eq same)
  by_cases leftEnds : l = 0
  · subst leftEnds
    have pos : (0 : BitVec 8).toNat < r.toNat := by
      have zero : (0 : BitVec 8).toNat = 0 := rfl
      omega
    rw [characters_cons_zero, characters_cons (Ne.symm differ), if_pos pos, List.take_nil,
      List.take_succ_cons, orderSign_nil_cons]
  · by_cases rightEnds : r = 0
    · subst rightEnds
      have zero : (0 : BitVec 8).toNat = 0 := rfl
      rw [characters_cons_zero, characters_cons leftEnds, if_neg (by omega), List.take_nil,
        List.take_succ_cons, orderSign_cons_nil]
    · rw [characters_cons leftEnds, characters_cons rightEnds, List.take_succ_cons,
        List.take_succ_cons]
      split
      · rename_i less
        exact orderSign_cons_of_lt less _ _
      · exact orderSign_cons_of_gt (by omega) _ _

theorem Readable.tail {c : BitVec 8} {data : List (BitVec 8)} {n : Nat} (notNul : c ≠ 0)
    (readable : Readable (c :: data) (n + 1)) : Readable data n := by
  rcases readable with long | terminated
  · exact .inl (Nat.le_of_succ_le_succ long)
  · exact .inr ((List.mem_cons.mp terminated).resolve_left (Ne.symm notNul))

theorem Readable.mono {data : List (BitVec 8)} {n m : Nat} (readable : Readable data m)
    (le : n ≤ m) : Readable data n := readable.imp_left le.trans

/-- **`strncmp`** compares the first `n` characters. -/
theorem strncmp_spec {left right : List (BitVec 8)} {n : Nat} (leftReadable : Readable left n)
    (rightReadable : Readable right n) :
    strncmp left right n =
      .ok (orderSign ((characters left).take n) ((characters right).take n)) := by
  induction n generalizing left right with
  | zero => simp [strncmp]
  | succ n ih =>
    obtain ⟨l, left, rfl⟩ : ∃ l rest, left = l :: rest := by
      refine List.exists_cons_of_ne_nil ?_
      rintro rfl
      rcases leftReadable with long | terminated
      · cases long
      · cases terminated
    obtain ⟨r, right, rfl⟩ : ∃ r rest, right = r :: rest := by
      refine List.exists_cons_of_ne_nil ?_
      rintro rfl
      rcases rightReadable with long | terminated
      · cases long
      · cases terminated
    unfold strncmp
    split
    · rename_i differ
      rw [orderSign_of_ne differ]
    · rename_i same
      obtain rfl : l = r := not_not.mp same
      split
      · rename_i ends
        subst ends
        rw [characters_cons_zero, characters_cons_zero, orderSign_self]
      · rename_i notNul
        rw [ih (leftReadable.tail notNul) (rightReadable.tail notNul), characters_cons notNul,
          characters_cons notNul, List.take_succ_cons, List.take_succ_cons, orderSign_cons_self]

/-- `strncmp` of a string on the left that fits in `n` characters. -/
theorem strncmp_left {left right : List (BitVec 8)} {n : Nat} (fits : (characters left).length ≤ n)
    (leftReadable : Readable left n) (rightReadable : Readable right n) :
    strncmp left right n = .ok (orderSign (characters left) ((characters right).take n)) := by
  rw [strncmp_spec leftReadable rightReadable, List.take_of_length_le fits]

theorem strncmp_right {left right : List (BitVec 8)} {n : Nat}
    (fits : (characters right).length ≤ n) (leftReadable : Readable left n)
    (rightReadable : Readable right n) :
    strncmp left right n = .ok (orderSign ((characters left).take n) (characters right)) := by
  rw [strncmp_spec leftReadable rightReadable, List.take_of_length_le fits]

/-- `strcmp` of strings that end is `strncmp` beyond their ends. -/
theorem strcmp_eq_strncmp {left right : List (BitVec 8)} (leftEnds : 0 ∈ left) (rightEnds : 0 ∈ right)
    {n : Nat} (beyond : left.length ≤ n) : strcmp left right = strncmp left right n := by
  induction left generalizing right n with
  | nil => cases leftEnds
  | cons l left ih =>
    obtain ⟨r, right, rfl⟩ := List.exists_cons_of_ne_nil (List.ne_nil_of_mem rightEnds)
    obtain ⟨k, rfl⟩ : ∃ k, n = k + 1 := ⟨n - 1, by simp only [List.length_cons] at beyond; omega⟩
    unfold strcmp strncmp
    split
    · rfl
    · rename_i same
      obtain rfl : l = r := not_not.mp same
      split
      · rfl
      · rename_i notNul
        exact ih ((List.mem_cons.mp leftEnds).resolve_left (Ne.symm notNul))
          ((List.mem_cons.mp rightEnds).resolve_left (Ne.symm notNul))
          (Nat.le_of_succ_le_succ beyond)

theorem length_characters_le (data : List (BitVec 8)) : (characters data).length ≤ data.length := by
  unfold characters
  rw [List.length_map]
  exact (List.takeWhile_prefix _).length_le

theorem length_characters_lt {data : List (BitVec 8)} (ends : 0 ∈ data) :
    (characters data).length < data.length := by
  induction data with
  | nil => cases ends
  | cons c data ih =>
    by_cases nul : c = 0
    · subst nul
      rw [characters_cons_zero, List.length_cons, List.length_nil]
      omega
    · rw [characters_cons nul, List.length_cons, List.length_cons]
      exact Nat.succ_lt_succ (ih ((List.mem_cons.mp ends).resolve_left (Ne.symm nul)))

/-- Data is terminated if its characters do not fill it. -/
theorem terminated_of_length_characters_lt {data : List (BitVec 8)}
    (short : (characters data).length < data.length) : 0 ∈ data := by
  induction data with
  | nil => cases short
  | cons c data ih =>
    by_cases nul : c = 0
    · exact List.mem_cons.mpr (.inl nul.symm)
    · rw [characters_cons nul, List.length_cons, List.length_cons] at short
      exact List.mem_cons_of_mem c (ih (Nat.lt_of_succ_lt_succ short))

/-- **`strcmp`** compares all characters. -/
theorem strcmp_spec {left right : List (BitVec 8)} (leftEnds : 0 ∈ left) (rightEnds : 0 ∈ right) :
    strcmp left right = .ok (orderSign (characters left) (characters right)) := by
  have leftShort := length_characters_le left
  have rightShort := length_characters_le right
  rw [strcmp_eq_strncmp leftEnds rightEnds (Nat.le_max_left left.length right.length),
    strncmp_spec (.inr leftEnds) (.inr rightEnds), List.take_of_length_le (by omega),
    List.take_of_length_le (by omega)]

end Comparisons

/-! ## What follows the terminator -/

section Terminated

/-- The bytes behind the first NUL. -/
def trailing (data : List (BitVec 8)) : List (BitVec 8) := (data.dropWhile (· ≠ 0)).tail

variable {data left right : List (BitVec 8)}

theorem trailing_cons_zero (data : List (BitVec 8)) : trailing (0 :: data) = data := rfl

theorem trailing_cons {c : BitVec 8} (notNul : c ≠ 0) (data : List (BitVec 8)) :
    trailing (c :: data) = trailing data := by
  unfold trailing
  rw [List.dropWhile_cons, if_pos (by simpa using notNul)]

theorem characters_take {n : Nat} (covered : (characters data).length ≤ n) :
    characters (data.take n) = characters data := by
  rw [characters_take_eq, List.take_of_length_le covered]

/-- Data with the same characters agrees up to the end of the shorter of the two strings. -/
theorem take_eq_of_characters_eq (same : characters left = characters right) :
    left.take (characters left).length = right.take (characters left).length := by
  induction left generalizing right with
  | nil => rfl
  | cons l left ih =>
    by_cases leftEnds : l = 0
    · subst leftEnds
      rfl
    · rw [characters_cons leftEnds] at same ⊢
      cases right with
      | nil => cases same
      | cons r right =>
        by_cases rightEnds : r = 0
        · subst rightEnds
          cases same
        · rw [characters_cons rightEnds] at same
          obtain ⟨first, rest⟩ := List.cons.inj same
          rw [List.length_cons, List.take_succ_cons, List.take_succ_cons, ih rest,
            BitVec.eq_of_toNat_eq first]

/-- Terminated data with the same characters agrees on all bytes but the last if what follows the
terminators does. -/
theorem dropLast_eq_iff_of_characters_eq (leftEnds : 0 ∈ left) (rightEnds : 0 ∈ right)
    (same : characters left = characters right) :
    (left.length = right.length ∧ left.dropLast = right.dropLast) ↔
      (trailing left).length = (trailing right).length ∧
        (trailing left).dropLast = (trailing right).dropLast := by
  induction left generalizing right with
  | nil => cases leftEnds
  | cons l left ih =>
    obtain ⟨r, right, rfl⟩ := List.exists_cons_of_ne_nil (List.ne_nil_of_mem rightEnds)
    by_cases leftNul : l = 0
    · subst leftNul
      by_cases rightNul : r = 0
      · subst rightNul
        rw [trailing_cons_zero, trailing_cons_zero, List.length_cons, List.length_cons,
          Nat.add_right_cancel_iff]
        refine and_congr_right fun long => ?_
        cases left with
        | nil =>
          obtain rfl := List.eq_nil_of_length_eq_zero long.symm
          exact iff_of_true rfl rfl
        | cons l left =>
          obtain ⟨r, right, rfl⟩ := List.exists_cons_of_length_eq_add_one long.symm
          rw [List.dropLast_cons_cons, List.dropLast_cons_cons]
          exact ⟨fun both => (List.cons.inj both).2, fun rest => congrArg _ rest⟩
      · rw [characters_cons_zero, characters_cons rightNul] at same
        cases same
    · by_cases rightNul : r = 0
      · subst rightNul
        rw [characters_cons_zero, characters_cons leftNul] at same
        cases same
      · rw [characters_cons leftNul, characters_cons rightNul] at same
        obtain ⟨first, rest⟩ := List.cons.inj same
        obtain rfl := BitVec.eq_of_toNat_eq first
        have leftEnds := (List.mem_cons.mp leftEnds).resolve_left (Ne.symm leftNul)
        have rightEnds := (List.mem_cons.mp rightEnds).resolve_left (Ne.symm rightNul)
        rw [trailing_cons leftNul, trailing_cons rightNul, ← ih leftEnds rightEnds rest,
          List.length_cons, List.length_cons, Nat.add_right_cancel_iff,
          List.dropLast_cons_of_ne_nil (List.ne_nil_of_mem leftEnds),
          List.dropLast_cons_of_ne_nil (List.ne_nil_of_mem rightEnds)]
        exact and_congr_right fun _ => ⟨fun both => (List.cons.inj both).2, fun rest => congrArg _ rest⟩

end Terminated

end Quickstep.Lib.CString
