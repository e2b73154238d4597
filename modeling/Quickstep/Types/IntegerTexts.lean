import Quickstep.Lib.ScannedFields
import Quickstep.Types.Literals

/-!
# Texts of whole numbers

How `types/IntType.cpp` and `types/LongType.cpp` print values and parse them. A value that is printed
to a file is padded with blanks, of which the parser skips those in front and refuses those behind.
-/

namespace Quickstep.Types
open Quickstep.Lib

/-- `"%d%n"`, with the conversion to a type of `bits` bits. -/
def integerFormat (bits : Nat) : List Directive := [.number bits none, .position]

/-- The number of a string that consists of it. -/
def parseInteger (bits : Nat) (valueString : List Char) : Exec (Option (BitVec bits)) := do
  match ← sscanf valueString (integerFormat bits) with
  | [.number parsed, .position readChars] =>
    pure (if readChars ≠ valueString.length then none else some (BitVec.ofInt bits parsed))
  | _ => pure none

/-- `"%*d"`: a negative padding puts the blanks behind. -/
def padded (padding : Int) (text : List Char) : List Char :=
  let blanks := List.replicate (padding.natAbs - text.length) ' '
  if padding < 0 then text ++ blanks else blanks ++ text

namespace IntType

/-- `std::numeric_limits<int>::digits10 + 2`. -/
def getPrintWidth : Nat := 9 + 2

def printValueToString (value : TypedValue) : List Char :=
  printNumber false 0 (value.getLiteral (.number .int)).toInt

def printValueToFile (value : TypedValue) (padding : Int) : List Char :=
  padded padding (printNumber false 0 (value.getLiteral (.number .int)).toInt)

def parseValueFromString (valueString : List Char) : Exec (Option TypedValue) := do
  let parsedInt ← parseInteger 32 valueString
  pure (parsedInt.map .int)

end IntType

namespace LongType

/-- `std::numeric_limits<std::int64_t>::digits10 + 2`. -/
def getPrintWidth : Nat := 18 + 2

def printValueToString (value : TypedValue) : List Char :=
  printNumber false 0 (value.getLiteral (.number .long)).toInt

def printValueToFile (value : TypedValue) (padding : Int) : List Char :=
  padded padding (printNumber false 0 (value.getLiteral (.number .long)).toInt)

def parseValueFromString (valueString : List Char) : Exec (Option TypedValue) := do
  let parsedLong ← parseInteger 64 valueString
  pure (parsedLong.map .long)

end LongType

/-! ## What is parsed -/

section Parser

variable {bits : Nat} {text : List Char}

/-- A scan for a number and the position behind it. -/
theorem scan_integerFormat_eq_cons {i₁ i₂ : Item} {items : List Item} {consumed : Nat}
    (run : scan (integerFormat bits) consumed text = .ok (i₁ :: i₂ :: items)) :
    ∃ front rest number, text = front ++ rest ∧ IsField none front number rest ∧
      InSigned bits number ∧ i₁ = .number number ∧ i₂ = .position (consumed + front.length) := by
  obtain ⟨front, rest, number, rfl, field, isNumber, fromPosition⟩ := scan_number_eq_cons run
  obtain ⟨isPosition, -⟩ := scan_position_eq_cons fromPosition
  refine ⟨front, rest, number, rfl, field, ?_, isNumber, isPosition⟩
  rw [integerFormat, scan_field field] at run
  split at run
  · assumption
  · cases run

/-- **A string is parsed to a literal** exactly if it is blanks and a numeral of the literal. -/
theorem parseInteger_eq_some_iff (positive : 0 < bits) {literal : BitVec bits} :
    parseInteger bits text = .ok (some literal) ↔ IsField none text literal.toInt [] := by
  constructor
  · intro run
    obtain ⟨items, scanned, run⟩ := Exec.bind_ok run
    split at run
    · obtain ⟨front, rest, number, whole, field, ⟨lower, upper⟩, isNumber, isPosition⟩ :=
        scan_integerFormat_eq_cons scanned
      cases isNumber
      cases isPosition
      split at run
      · cases run
      · next atEnd =>
        cases run
        have prefixed := (List.takeWhile_prefix (l := text) fun c => c.toNat != 0).length_le
        have length := congrArg List.length whole
        rw [List.length_append] at length
        change (cString text).length ≤ text.length at prefixed
        obtain rfl : rest = [] := List.eq_nil_of_length_eq_zero (by omega)
        obtain ⟨same, -⟩ := @noNul_of_length text (by omega)
        rw [same, List.append_nil] at whole
        rwa [BitVec.toInt_ofInt_eq_self positive lower upper, whole]
    · cases run
  · intro field
    have fits : InSigned bits literal.toInt := ⟨literal.le_toInt, literal.toInt_lt⟩
    have read := @scan_field text [] _ [.position] 0 bits none field
    rw [List.append_nil, if_pos fits] at read
    unfold parseInteger
    rw [sscanf_of_noNul field.noNul, integerFormat, read]
    simp [scan, Except.map, Exec.ok_bind, pure, Except.pure]

/-- **The parser has no result** exactly if the string starts with a number that does not fit. -/
theorem parseInteger_undefined_iff :
    (∀ result, parseInteger bits text ≠ .ok result) ↔
      ∃ front rest number, cString text = front ++ rest ∧ IsField none front number rest ∧
        ¬ InSigned bits number := by
  have defined := @scan_number_defined_iff bits none [.position] (by simp [Directive.Narrow]) 0
    (cString text)
  have results : (∃ result, parseInteger bits text = .ok result) ↔
      ∃ items, sscanf text (integerFormat bits) = .ok items := by
    constructor
    · rintro ⟨result, run⟩
      obtain ⟨items, scanned, -⟩ := Exec.bind_ok run
      exact ⟨items, scanned⟩
    · rintro ⟨items, scanned⟩
      unfold parseInteger
      rw [scanned, Exec.ok_bind]
      split
      · exact ⟨_, rfl⟩
      · exact ⟨_, rfl⟩
  rw [← not_exists, results]
  unfold sscanf integerFormat
  rw [defined]
  simp only [not_forall, exists_prop]

end Parser

/-! ## What is printed -/

section Printer

variable {number : Int}

/-- **A padded number is one field**, unless blanks stand behind it. -/
theorem isField_padded_iff (padding : Int) (value : Int) :
    IsField none (padded padding (printNumber false 0 number)) value [] ↔
      value = number ∧ (padding < 0 → padding.natAbs ≤ (printNumber false 0 number).length) := by
  have numeral := printNumber_isNumeral false 0 number
  have blank (count : Nat) : ∀ c ∈ List.replicate count ' ', isSpace c = true := by
    intro c inBlanks
    rw [List.eq_of_mem_replicate inBlanks]
    rfl
  have front (count : Nat) :
      IsField none (List.replicate count ' ' ++ printNumber false 0 number) number [] :=
    ⟨_, _, rfl, blank count, numeral, noWidth, .inr (stopsAt_nil _)⟩
  unfold padded
  dsimp only
  split
  · next behind =>
    rcases Nat.eq_zero_or_pos (padding.natAbs - (printNumber false 0 number).length) with none | some
    · have short : padding.natAbs ≤ (printNumber false 0 number).length := by omega
      have whole := front 0
      rw [List.replicate_zero, List.nil_append] at whole
      rw [none, List.replicate_zero, List.append_nil]
      constructor
      · intro field
        exact ⟨(field.unique whole rfl).2.2, fun _ => short⟩
      · rintro ⟨rfl, -⟩
        exact whole
    · constructor
      · intro field
        have last := field.isDigit_getLast ' ' (by
          obtain ⟨count, isCount⟩ := Nat.exists_eq_succ_of_ne_zero (Nat.ne_of_gt some)
          rw [isCount, List.replicate_succ', ← List.append_assoc]
          simp)
        cases last
      · rintro ⟨-, short⟩
        have := short behind
        omega
  · next notBehind =>
    constructor
    · intro field
      exact ⟨(field.unique (front _) rfl).2.2, fun behind => absurd behind notBehind⟩
    · rintro ⟨rfl, -⟩
      exact front _

theorem length_unpadded (value : Int) :
    (printNumber false 0 value).length =
      (if value < 0 then 1 else 0) + (Nat.toDigits 10 value.natAbs).length := by
  unfold printNumber
  split
  · simp [Nat.add_comm]
  · simp

/-- No number of a type needs more characters than its digits and a sign. -/
theorem length_unpadded_le {bits digits : Nat} {value : Int} (room : 2 ^ (bits - 1) < 10 ^ (digits + 1))
    (fits : InSigned bits value) : (printNumber false 0 value).length ≤ digits + 2 := by
  have power : ((2 ^ (bits - 1) : Nat) : Int) = 2 ^ (bits - 1) := by simp
  obtain ⟨lower, upper⟩ := fits
  have short := (@Nat.length_toDigits_le_iff 10 value.natAbs (digits + 1) (by decide)
    (Nat.succ_pos digits)).mpr (by omega)
  rw [length_unpadded]
  split
  · omega
  · omega

/-- The smallest one needs as many if its number of digits is right. -/
theorem le_length_unpadded {bits digits : Nat} (some : 0 < digits)
    (wide : 10 ^ digits ≤ 2 ^ (bits - 1)) :
    digits + 2 ≤ (printNumber false 0 (-2 ^ (bits - 1))).length := by
  have power : ((2 ^ (bits - 1) : Nat) : Int) = 2 ^ (bits - 1) := by simp
  have positive := Nat.two_pow_pos (bits - 1)
  have long := mt (@Nat.length_toDigits_le_iff 10 (-2 ^ (bits - 1) : Int).natAbs digits (by decide)
    some).mp (by omega)
  rw [length_unpadded, if_pos (by omega)]
  omega

end Printer

/-! ## The two types -/

/-- **Texts of a type of whole numbers.** The texts of a value are blanks and a numeral of it; the
parser is undefined only for a number that does not fit; what is printed with some padding is parsed to
the same value exactly if no blanks follow; and the print width is that of the widest value. -/
structure IntegerTexts {bits : Nat} (make : BitVec bits → TypedValue) (printWidth : Nat)
    (printValueToString : TypedValue → List Char) (printValueToFile : TypedValue → Int → List Char)
    (parseValueFromString : List Char → Exec (Option TypedValue)) : Prop where
  accepts (text : List Char) (value : TypedValue) :
    parseValueFromString text = .ok (some value) ↔
      ∃ literal, value = make literal ∧ IsField none text literal.toInt []
  undefined (text : List Char) :
    (∀ result, parseValueFromString text ≠ .ok result) ↔
      ∃ front rest number, cString text = front ++ rest ∧ IsField none front number rest ∧
        ¬ InSigned bits number
  readsString (literal : BitVec bits) :
    parseValueFromString (printValueToString (make literal)) = .ok (some (make literal))
  readsFile (literal : BitVec bits) (padding : Int) (value : TypedValue) :
    parseValueFromString (printValueToFile (make literal) padding) = .ok (some value) ↔
      value = make literal ∧
        (padding < 0 → padding.natAbs ≤ (printValueToString (make literal)).length)
  fitsWidth (literal : BitVec bits) : (printValueToString (make literal)).length ≤ printWidth
  widest : ∃ literal, (printValueToString (make literal)).length = printWidth

section Types

variable {bits : Nat} {make : BitVec bits → TypedValue} {text : List Char}

/-- A parser that wraps the literal. -/
theorem parse_eq_some_iff (positive : 0 < bits) {value : TypedValue} :
    (do pure ((← parseInteger bits text).map make) : Exec (Option TypedValue)) = .ok (some value) ↔
      ∃ literal, value = make literal ∧ IsField none text literal.toInt [] := by
  simp only [← parseInteger_eq_some_iff positive]
  cases run : parseInteger bits text with
  | error fault => simp [bind, Except.bind]
  | ok parsed =>
    cases parsed with
    | none => simp [bind, Except.bind, pure, Except.pure]
    | some literal => simp [bind, Except.bind, pure, Except.pure, eq_comm]

theorem parse_undefined_iff :
    (∀ result, (do pure ((← parseInteger bits text).map make) : Exec (Option TypedValue)) ≠ .ok result) ↔
      ∃ front rest number, cString text = front ++ rest ∧ IsField none front number rest ∧
        ¬ InSigned bits number := by
  rw [← parseInteger_undefined_iff]
  cases parseInteger bits text with
  | error fault => simp [bind, Except.bind]
  | ok parsed => simp [bind, Except.bind, pure, Except.pure]

/-- The texts of a type that prints and parses its literals as numbers. -/
theorem integerTexts (positive : 0 < bits) {digits : Nat} (someDigits : 0 < digits)
    (wide : 10 ^ digits ≤ 2 ^ (bits - 1)) (room : 2 ^ (bits - 1) < 10 ^ (digits + 1))
    {printValueToString : TypedValue → List Char} {printValueToFile : TypedValue → Int → List Char}
    (toString : ∀ literal, printValueToString (make literal) = printNumber false 0 literal.toInt)
    (toFile : ∀ literal padding, printValueToFile (make literal) padding =
      padded padding (printNumber false 0 literal.toInt)) :
    IntegerTexts make (digits + 2) printValueToString printValueToFile
      (fun text => do pure ((← parseInteger bits text).map make)) where
  accepts _ _ := parse_eq_some_iff positive
  undefined _ := parse_undefined_iff
  readsString literal := by
    rw [parse_eq_some_iff positive, toString]
    exact ⟨literal, rfl, isField_of_isNumeral (printNumber_isNumeral _ _ _) noWidth (stopsAt_nil _)⟩
  readsFile literal padding value := by
    rw [parse_eq_some_iff positive, toString, toFile]
    simp only [isField_padded_iff, BitVec.toInt_inj]
    constructor
    · rintro ⟨_, isValue, rfl, short⟩
      exact ⟨isValue, short⟩
    · rintro ⟨isValue, short⟩
      exact ⟨literal, isValue, rfl, short⟩
  fitsWidth literal := by
    rw [toString]
    exact length_unpadded_le room ⟨literal.le_toInt, literal.toInt_lt⟩
  widest := by
    have power : (0 : Int) < 2 ^ (bits - 1) := Int.pow_pos (by decide)
    have smallest : (BitVec.ofInt bits (-2 ^ (bits - 1))).toInt = -2 ^ (bits - 1) :=
      BitVec.toInt_ofInt_eq_self positive (Int.le_refl _) (by omega)
    refine ⟨BitVec.ofInt bits (-2 ^ (bits - 1)), ?_⟩
    rw [toString, smallest]
    exact Nat.le_antisymm (length_unpadded_le room ⟨Int.le_refl _, by omega⟩)
      (le_length_unpadded someDigits wide)

/-- **INT and LONG** are printed and parsed exactly. -/
theorem integerTexts_exact :
    IntegerTexts .int IntType.getPrintWidth IntType.printValueToString IntType.printValueToFile
        IntType.parseValueFromString ∧
      IntegerTexts .long LongType.getPrintWidth LongType.printValueToString
        LongType.printValueToFile LongType.parseValueFromString := by
  have literalOfInt (literal : BitVec 32) : (TypedValue.int literal).getLiteral (.number .int) = literal := by
    simp [TypedValue.getLiteral, TypedValue.valueUnion]
  constructor
  · refine integerTexts (by decide) (by decide) (by decide) (by decide) ?_ ?_
    · intro literal
      rw [IntType.printValueToString, literalOfInt]
    · intro literal padding
      rw [IntType.printValueToFile, literalOfInt]
  · exact integerTexts (by decide) (by decide) (by decide) (by decide) (fun _ => rfl) fun _ _ => rfl

end Types

end Quickstep.Types
