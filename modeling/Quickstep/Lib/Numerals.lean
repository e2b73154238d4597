import Mathlib.Data.List.TakeWhile
import Quickstep.Lib.CheckedInt

/-!
# Numerals

Numbers as `printf` writes them, and numerals as the conversions of the C library read them. A
string is its list of characters.
-/

namespace Quickstep.Lib

/-! ## Numbers -/

/-- `%d` and its kin: an optional plus sign, and zeros up to a width that counts the sign. -/
def printNumber (plus : Bool) (width : Nat) (value : Int) : List Char :=
  let sign := if value < 0 then ['-'] else if plus then ['+'] else []
  let digits := Nat.toDigits 10 value.natAbs
  sign ++ (List.replicate (width - sign.length - digits.length) '0' ++ digits)

/-- `snprintf` behind what is written already to a buffer of `size` characters. A text that does not
fit in with its NUL fails the check that follows. -/
def snprintf (size : Nat) (written text : List Char) : Exec (List Char) :=
  if written.length + text.length < size then .ok (written ++ text) else .error .undefinedBehaviour

/-- The sign of a numeral. -/
inductive Sign where
  | none
  | plus
  | minus
  deriving DecidableEq

def Sign.text : Sign → List Char
  | none => []
  | plus => ['+']
  | minus => ['-']

/-- The number that a sign and digits stand for. -/
def numeralValue (sign : Sign) (digits : List Char) : Int :=
  if sign = .minus then -(Nat.ofDigitChars 10 digits 0 : Int) else Nat.ofDigitChars 10 digits 0

/-- A text is a numeral of `value`: an optional sign and at least one digit. -/
def IsNumeral (text : List Char) (value : Int) : Prop :=
  ∃ sign digits, text = Sign.text sign ++ digits ∧ digits ≠ [] ∧ (∀ c ∈ digits, c.isDigit = true) ∧
    value = numeralValue sign digits

/-- The sign at the front of a field, and the field behind it. -/
def readSign : List Char → Sign × List Char
  | '-' :: field => (.minus, field)
  | '+' :: field => (.plus, field)
  | field => (.none, field)

/-- The longest numeral at the front of a field, as its value and length. -/
def readNumber (field : List Char) : Option (Int × Nat) :=
  let (sign, unsigned) := readSign field
  let digits := unsigned.takeWhile Char.isDigit
  if digits = [] then none else some (numeralValue sign digits, (Sign.text sign ++ digits).length)

/-- `isspace` in the C locale. -/
def isSpace (c : Char) : Bool := c.toNat == 32 || (9 ≤ c.toNat && c.toNat ≤ 13)

/-- The input goes on, if at all, with a character that `p` does not hold of. -/
def StopsAt (p : Char → Bool) (rest : List Char) : Prop := ∀ c ∈ rest.head?, p c = false

/-- In front of `rest`, a text is white space and then a numeral of `value`, which is as long as the
width admits. -/
def IsField (width : Option Nat) (text : List Char) (value : Int) (rest : List Char) : Prop :=
  ∃ blanks numeral, text = blanks ++ numeral ∧ (∀ c ∈ blanks, isSpace c = true) ∧
    IsNumeral numeral value ∧ (∀ most ∈ width, numeral.length ≤ most) ∧
    (width = some numeral.length ∨ StopsAt Char.isDigit rest)

/-- `atoi`. -/
def atoi (text : List Char) : Exec Int :=
  match readNumber (text.dropWhile isSpace) with
  | some (value, _) => int32 value
  | none => .ok 0

/-- A number of a signed type of `bits` bits, multiplied by ten for each digit that is missing. -/
def scaleByTen (bits : Nat) (value : Int) : Nat → Exec Int
  | 0 => .ok value
  | digits + 1 => do scaleByTen bits (← checked bits (value * 10)) digits

/-! ## The first character -/

section FirstCharacter

variable {text rest : List Char} {c : Char}

theorem stopsAt_nil (p : Char → Bool) : StopsAt p [] := nofun

theorem stopsAt_cons {p : Char → Bool} (fails : p c = false) : StopsAt p (c :: rest) := by
  intro first isFirst
  cases isFirst
  exact fails

theorem takeWhile_of_stopsAt {p : Char → Bool} (stops : StopsAt p rest) :
    rest.takeWhile p = [] ∧ rest.dropWhile p = rest := by
  cases rest with
  | nil => exact ⟨rfl, rfl⟩
  | cons first rest =>
    have fails := stops first rfl
    exact ⟨List.takeWhile_cons_of_neg (by simp [fails]), List.dropWhile_cons_of_neg (by simp [fails])⟩

theorem takeWhile_append_of_stopsAt {p : Char → Bool} (every : ∀ c ∈ text, p c = true)
    (stops : StopsAt p rest) : (text ++ rest).takeWhile p = text := by
  rw [List.takeWhile_append_of_pos every, (takeWhile_of_stopsAt stops).1, List.append_nil]

/-- The first character that a width leaves. -/
theorem stopsAt_take {p : Char → Bool} (stops : StopsAt p rest) (width : Nat) :
    StopsAt p (rest.take width) := by
  intro c isFirst
  refine stops c ?_
  cases width with
  | zero => cases isFirst
  | succ width =>
    cases rest with
    | nil => cases isFirst
    | cons first rest => exact isFirst

end FirstCharacter

/-! ## Numerals -/

section Numerals

variable {text rest : List Char} {value : Int} {c : Char}

theorem toNat_of_isDigit (digit : c.isDigit = true) : 48 ≤ c.toNat ∧ c.toNat ≤ 57 :=
  Char.isDigit_iff_toNat.mp digit

theorem isSpace_of_isDigit (digit : c.isDigit = true) : isSpace c = false := by
  have range := toNat_of_isDigit digit
  simp only [isSpace, Bool.or_eq_false_iff, beq_eq_false_iff_ne, Bool.and_eq_false_iff,
    decide_eq_false_iff_not]
  omega

/-- A sign is read back in front of digits. -/
theorem readSign_append (sign : Sign) {digits : List Char} (nonempty : digits ≠ [])
    (every : ∀ c ∈ digits, c.isDigit = true) :
    readSign (sign.text ++ (digits ++ rest)) = (sign, digits ++ rest) := by
  cases sign with
  | plus => rfl
  | minus => rfl
  | none =>
    cases digits with
    | nil => exact absurd rfl nonempty
    | cons first digits =>
      have digit := toNat_of_isDigit (every first List.mem_cons_self)
      have notMinus : first ≠ '-' := by
        rintro rfl
        exact absurd digit.1 (by decide)
      have notPlus : first ≠ '+' := by
        rintro rfl
        exact absurd digit.1 (by decide)
      simp only [Sign.text, List.nil_append, List.cons_append]
      unfold readSign
      split
      · rename_i same
        exact absurd (List.cons_eq_cons.mp same).1 notMinus
      · rename_i same
        exact absurd (List.cons_eq_cons.mp same).1 notPlus
      · rfl

/-- **A numeral is read back**, whatever follows its digits. -/
theorem readNumber_numeral (numeral : IsNumeral text value) (stops : StopsAt Char.isDigit rest) :
    readNumber (text ++ rest) = some (value, text.length) := by
  obtain ⟨sign, digits, rfl, nonempty, every, rfl⟩ := numeral
  unfold readNumber
  rw [List.append_assoc, readSign_append sign nonempty every]
  simp only [takeWhile_append_of_stopsAt every stops, if_neg nonempty]

theorem IsNumeral.not_space (numeral : IsNumeral text value) : StopsAt isSpace (text ++ rest) := by
  obtain ⟨sign, digits, rfl, nonempty, every, rfl⟩ := numeral
  cases sign with
  | plus => exact stopsAt_cons rfl
  | minus => exact stopsAt_cons rfl
  | none =>
    cases digits with
    | nil => exact absurd rfl nonempty
    | cons first digits => exact stopsAt_cons (isSpace_of_isDigit (every first List.mem_cons_self))

/-- Digits behind any number of zeros. -/
theorem zeros_toDigits (zeros number : Nat) :
    List.replicate zeros '0' ++ Nat.toDigits 10 number ≠ [] ∧
    (∀ c ∈ List.replicate zeros '0' ++ Nat.toDigits 10 number, c.isDigit = true) ∧
    Nat.ofDigitChars 10 (List.replicate zeros '0' ++ Nat.toDigits 10 number) 0 = number := by
  refine ⟨by simp, fun c inText => ?_, by simp [Nat.ofDigitChars_append]⟩
  rcases List.mem_append.mp inText with zero | digit
  · rw [(List.mem_replicate.mp zero).2]
    rfl
  · exact Nat.isDigit_of_mem_toDigits (by decide) (by decide) digit

/-- What `printf` writes for a number is a numeral of it. -/
theorem printNumber_isNumeral (plus : Bool) (width : Nat) (value : Int) :
    IsNumeral (printNumber plus width value) value := by
  unfold printNumber
  by_cases negative : value < 0
  · obtain ⟨nonempty, every, amount⟩ :=
      zeros_toDigits (width - ['-'].length - (Nat.toDigits 10 value.natAbs).length) value.natAbs
    refine ⟨.minus, _, by simp only [if_pos negative]; rfl, nonempty, every, ?_⟩
    rw [numeralValue, if_pos rfl, amount]
    omega
  · cases plus with
    | true =>
      obtain ⟨nonempty, every, amount⟩ :=
        zeros_toDigits (width - ['+'].length - (Nat.toDigits 10 value.natAbs).length) value.natAbs
      refine ⟨.plus, _, by simp only [if_neg negative, if_pos]; rfl, nonempty, every, ?_⟩
      rw [numeralValue, if_neg (by decide), amount]
      omega
    | false =>
      obtain ⟨nonempty, every, amount⟩ :=
        zeros_toDigits (width - [].length - (Nat.toDigits 10 value.natAbs).length) value.natAbs
      refine ⟨.none, _, by simp only [if_neg negative]; rfl, nonempty, every, ?_⟩
      rw [numeralValue, if_neg (by decide), amount]
      omega

/-- A number that is not negative is written as digits only. -/
theorem printNumber_digits (width number : Nat) :
    printNumber false width number ≠ [] ∧
    (∀ c ∈ printNumber false width number, c.isDigit = true) ∧
    Nat.ofDigitChars 10 (printNumber false width number) 0 = number := by
  have notNegative : ¬ ((number : Int) < 0) := by omega
  unfold printNumber
  simp only [if_neg notNegative, Bool.false_eq_true, if_false, List.nil_append, Int.natAbs_natCast]
  exact zeros_toDigits _ number

/-- A leading minus that is written apart makes the numeral negative. -/
theorem minus_printNumber_isNumeral (negative : Bool) (width number : Nat) :
    IsNumeral ((if negative then ['-'] else []) ++ printNumber false width number)
      (if negative then -number else number) := by
  obtain ⟨nonempty, every, amount⟩ := printNumber_digits width number
  cases negative with
  | true =>
    refine ⟨.minus, _, rfl, nonempty, every, ?_⟩
    rw [numeralValue, if_pos rfl, amount]
    rfl
  | false =>
    refine ⟨.none, _, rfl, nonempty, every, ?_⟩
    rw [numeralValue, if_neg (by decide), amount]
    rfl

/-- A number padded to a width that is large enough has this width. -/
theorem length_printNumber {width : Nat} {number : Nat} (positive : 0 < width)
    (fits : number < 10 ^ width) : (printNumber false width number).length = width := by
  have digits := (Nat.length_toDigits_le_iff (b := 10) (by decide) positive).mpr fits
  have notNegative : ¬ ((number : Int) < 0) := by omega
  simp only [printNumber, if_neg notNegative, Bool.false_eq_true, if_false, List.nil_append,
    List.length_append, List.length_replicate, List.length_nil, Int.natAbs_natCast]
  omega

theorem ofDigitChars_lt {digits : List Char} (every : ∀ c ∈ digits, c.isDigit = true) (start : Nat) :
    Nat.ofDigitChars 10 digits start < (start + 1) * 10 ^ digits.length := by
  induction digits generalizing start with
  | nil => simp
  | cons first digits ih =>
    obtain ⟨firstDigit, otherDigits⟩ := List.forall_mem_cons.mp every
    have range := toNat_of_isDigit firstDigit
    have zero : '0'.toNat = 48 := rfl
    rw [Nat.ofDigitChars_cons, List.length_cons, Nat.pow_succ']
    refine Nat.lt_of_lt_of_le (ih otherDigits _) ?_
    rw [← Nat.mul_assoc]
    exact Nat.mul_le_mul_right _ (by omega)

/-- A numeral is less than the power of ten of its length. -/
theorem IsNumeral.natAbs_lt (numeral : IsNumeral text value) : value.natAbs < 10 ^ text.length := by
  obtain ⟨sign, digits, rfl, -, every, rfl⟩ := numeral
  have amount := ofDigitChars_lt every 0
  rw [Nat.zero_add, Nat.one_mul] at amount
  have magnitude : (numeralValue sign digits).natAbs = Nat.ofDigitChars 10 digits 0 := by
    unfold numeralValue
    split
    · rw [Int.natAbs_neg, Int.natAbs_natCast]
    · exact Int.natAbs_natCast _
  rw [magnitude, List.length_append]
  exact Nat.lt_of_lt_of_le amount (Nat.pow_le_pow_right (by decide) (Nat.le_add_left _ _))

/-- What is read is a numeral at the front, behind which no digit stands. -/
theorem readNumber_eq_some {field : List Char} {length : Nat}
    (read : readNumber field = some (value, length)) :
    ∃ text rest, field = text ++ rest ∧ IsNumeral text value ∧ text.length = length ∧
      StopsAt Char.isDigit rest := by
  have parts : field = (readSign field).1.text ++ (readSign field).2 := by
    unfold readSign
    split
    · rfl
    · rfl
    · rfl
  have digits := List.takeWhile_append_dropWhile (p := Char.isDigit) (l := (readSign field).2)
  unfold readNumber at read
  simp only at read
  split at read
  · cases read
  · rename_i nonempty
    cases read
    refine ⟨_, (readSign field).2.dropWhile Char.isDigit, ?_, ⟨(readSign field).1, _, rfl, nonempty,
      fun c inDigits => ?_, rfl⟩, rfl, fun c isFirst => ?_⟩
    · rw [List.append_assoc, digits]
      exact parts
    · exact List.mem_takeWhile_imp inDigits
    · have fails := List.head?_dropWhile_not Char.isDigit (readSign field).2
      rw [isFirst] at fails
      exact Bool.eq_false_iff.mpr (by simpa using fails)

/-- The length of any number: its sign and its digits, or the width. -/
theorem length_printNumber_le_max {plus : Bool} {width most : Nat} {value : Int} (positive : 0 < most)
    (fits : value.natAbs < 10 ^ most) : (printNumber plus width value).length ≤ max width (most + 1) := by
  have digits := (Nat.length_toDigits_le_iff (b := 10) (by decide) positive).mpr fits
  have sign : (if value < 0 then ['-'] else if plus then ['+'] else []).length ≤ 1 := by
    split
    · exact Nat.le_refl 1
    · split
      · exact Nat.le_refl 1
      · exact Nat.zero_le 1
  unfold printNumber
  simp only [List.length_append, List.length_replicate]
  omega

/-- Without padding, a number is at most as long as its bound. -/
theorem length_printNumber_le {width number : Nat} (positive : 0 < width)
    (fits : number < 10 ^ width) : (printNumber false 0 number).length ≤ width := by
  have digits := (Nat.length_toDigits_le_iff (b := 10) (by decide) positive).mpr fits
  have notNegative : ¬ ((number : Int) < 0) := by omega
  simp only [printNumber, if_neg notNegative, Bool.false_eq_true, if_false, List.nil_append,
    List.length_append, List.length_replicate, List.length_nil, Int.natAbs_natCast]
  omega

theorem snprintf_ok {size : Nat} {written : List Char} (fits : written.length + text.length < size) :
    snprintf size written text = .ok (written ++ text) := if_pos fits

theorem isField_of_isNumeral {width : Option Nat} (numeral : IsNumeral text value)
    (short : ∀ most ∈ width, text.length ≤ most) (stops : StopsAt Char.isDigit rest) :
    IsField width text value rest := ⟨[], text, rfl, nofun, numeral, short, .inr stops⟩

/-- Digits alone are a numeral. -/
theorem isNumeral_digits {digits : List Char} (nonempty : digits ≠ [])
    (every : ∀ c ∈ digits, c.isDigit = true) :
    IsNumeral digits (Nat.ofDigitChars 10 digits 0 : Nat) :=
  ⟨.none, digits, rfl, nonempty, every, rfl⟩

theorem atoi_digits {digits : List Char} (nonempty : digits ≠ [])
    (every : ∀ c ∈ digits, c.isDigit = true)
    (fits : InSigned 32 (Nat.ofDigitChars 10 digits 0 : Nat)) :
    atoi digits = .ok (Nat.ofDigitChars 10 digits 0 : Nat) := by
  have numeral := isNumeral_digits nonempty every
  have read := readNumber_numeral numeral (stopsAt_nil Char.isDigit)
  have start := @IsNumeral.not_space digits [] _ numeral
  rw [List.append_nil] at read start
  unfold atoi
  rw [(takeWhile_of_stopsAt start).2, read]
  simp only [int32, checked, if_pos fits]

/-- Scaling multiplies by a power of ten. -/
theorem scaleByTen_eq {bits digits value : Nat}
    (fits : InSigned bits (value * 10 ^ digits : Nat)) :
    scaleByTen bits value digits = .ok (value * 10 ^ digits : Nat) := by
  induction digits generalizing value with
  | zero =>
    rw [Nat.pow_zero, Nat.mul_one]
    rfl
  | succ digits ih =>
    have power : value * 10 ^ (digits + 1) = value * 10 * 10 ^ digits := by
      rw [Nat.pow_succ']
      exact (Nat.mul_assoc _ _ _).symm
    have positive : 1 ≤ 10 ^ digits := Nat.one_le_two_pow.trans (Nat.pow_le_pow_left (by decide) _)
    have grows : value * 10 ≤ value * 10 * 10 ^ digits := Nat.le_mul_of_pos_right _ positive
    rw [power] at fits ⊢
    have step : InSigned bits ((value * 10 : Nat) : Int) := by
      obtain ⟨lower, upper⟩ := fits
      refine ⟨?_, ?_⟩
      · omega
      · omega
    have checkedStep : checked bits ((value : Int) * 10) = .ok ((value * 10 : Nat) : Int) := if_pos step
    rw [scaleByTen, checkedStep, Exec.ok_bind]
    exact ih fits

/-- A field without a width may have any length. -/
theorem noWidth : ∀ most ∈ (none : Option Nat), text.length ≤ most := nofun

/-- A field may fill its width. -/
theorem atMost {width : Nat} (length : text.length = width) :
    ∀ most ∈ some width, text.length ≤ most := by
  intro most isMost
  cases isMost
  exact Nat.le_of_eq length

end Numerals

/-! ## Text without NUL -/

/-- No character ends the text early. -/
def NoNul (text : List Char) : Prop := ∀ c ∈ text, (c.toNat != 0) = true

section NoNul

variable {text rest : List Char} {c : Char}

theorem noNul_nil : NoNul [] := nofun

theorem NoNul.cons (first : (c.toNat != 0) = true) (others : NoNul rest) : NoNul (c :: rest) :=
  List.forall_mem_cons.mpr ⟨first, others⟩

theorem NoNul.append (first : NoNul text) (others : NoNul rest) : NoNul (text ++ rest) :=
  List.forall_mem_append.mpr ⟨first, others⟩

theorem IsNumeral.noNul {value : Int} (numeral : IsNumeral text value) : NoNul text := by
  obtain ⟨sign, digits, rfl, -, every, -⟩ := numeral
  have noNulDigits : NoNul digits := by
    intro c inDigits
    have range := toNat_of_isDigit (every c inDigits)
    simp only [bne_iff_ne]
    omega
  cases sign with
  | none => exact noNulDigits
  | plus => exact .cons rfl noNulDigits
  | minus => exact .cons rfl noNulDigits

theorem noNul_printNumber (plus : Bool) (width : Nat) (value : Int) :
    NoNul (printNumber plus width value) := (printNumber_isNumeral plus width value).noNul

/-- A text whose first character is a digit. -/
def StartsWithDigit (text : List Char) : Prop := StopsAt (fun c => !c.isDigit) text

theorem startsWithDigit_append (nonempty : text ≠ []) (every : ∀ c ∈ text, c.isDigit = true) :
    StartsWithDigit (text ++ rest) := by
  cases text with
  | nil => exact absurd rfl nonempty
  | cons first text => exact stopsAt_cons (by simp [every first List.mem_cons_self])

/-- A scan stops at a digit if no digit is a member. -/
theorem StartsWithDigit.stopsAt {p : Char → Bool} (digit : StartsWithDigit text)
    (fails : ∀ c, c.isDigit = true → p c = false) : StopsAt p text := by
  intro c isFirst
  refine fails c ?_
  simpa using digit c isFirst

theorem StartsWithDigit.head_ne (digit : StartsWithDigit text) (notDigit : c.isDigit = false) :
    text.head? ≠ some c := by
  intro isFirst
  have isDigit : (!c.isDigit) = false := digit c isFirst
  rw [notDigit] at isDigit
  cases isDigit

end NoNul


end Quickstep.Lib
