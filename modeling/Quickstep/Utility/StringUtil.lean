import Quickstep.Lib.ScannedFields

/-!
# Parsing a list of integers

`ParseIntString` of `utility/StringUtil.cpp`. The loop moves a position over the string: each round
reads a number with `strtol` and skips one character behind it, be it the delimiter or the NUL at the
end.
-/

namespace Quickstep.Utility
open Quickstep.Lib

/-- `strtol` gives the nearest `long` for a number that is none. -/
def saturateLong (value : Int) : Int := max (-2 ^ 63) (min value (2 ^ 63 - 1))

/-- `strtol` in base ten: the number at the front of a text, and how many characters it takes up. A
text without a number is zero, and nothing of it is taken. -/
def strtol (text : List Char) : Int × Nat :=
  match readNumber (text.dropWhile isSpace) with
  | some (value, length) => (saturateLong value, (text.takeWhile isSpace).length + length)
  | none => (0, 0)

/-- A character of `c_str()`, behind the end of which stands a NUL. -/
def cStrAt (text : List Char) (pos : Nat) : Char := text.getD pos (Char.ofNat 0)

/-- The loop of `ParseIntString` at a position of the string. -/
def parseIntLoop (intString : List Char) (delimiter : Char) (originalSize : Nat) (pos : Nat)
    (parsedOutput : List Int) : Bool × List Int :=
  if pos < intString.length then
    let (element, length) := strtol (intString.drop pos)
    if 0 < length ∧ (cStrAt intString (pos + length) = delimiter ∨
        cStrAt intString (pos + length) = Char.ofNat 0) then
      parseIntLoop intString delimiter originalSize (pos + length + 1)
        (parsedOutput ++ [toInt32 element])
    else (false, parsedOutput.take originalSize)
  else (true, parsedOutput)
termination_by intString.length - pos

/-- `ParseIntString`: whether the string was parsed, and the output vector. -/
def parseIntString (intString : List Char) (delimiter : Char) (parsedOutput : List Int) :
    Bool × List Int :=
  parseIntLoop intString delimiter parsedOutput.length 0 parsedOutput

/-- An integer as `strtol` reads it: white space, a sign and digits. -/
def IsInteger (text : List Char) (value : Int) : Prop := IsField none text value []

/-- Integers with single delimiters between them. -/
inductive IntegerList (delimiter : Char) : List Char → List Int → Prop where
  | last {text : List Char} {value : Int} : IsInteger text value → IntegerList delimiter text [value]
  | next {text rest : List Char} {value : Int} {values : List Int} : IsInteger text value →
      IntegerList delimiter rest values →
      IntegerList delimiter (text ++ delimiter :: rest) (value :: values)

/-- What the loop accepts: each integer may have a delimiter behind it, the last one too. -/
inductive Accepted (delimiter : Char) : List Char → List Int → Prop where
  | done : Accepted delimiter [] []
  | last {text : List Char} {value : Int} : IsInteger text value → Accepted delimiter text [value]
  | next {text rest : List Char} {value : Int} {values : List Int} : IsInteger text value →
      Accepted delimiter rest values →
      Accepted delimiter (text ++ delimiter :: rest) (value :: values)

/-- The value that the loop appends for an integer. -/
def element (value : Int) : Int := toInt32 (saturateLong value)

/-! ## One integer -/

section Integers

variable {text rest : List Char} {value : Int} {delimiter : Char}

theorem IsInteger.isField (integer : IsInteger text value) (stops : StopsAt Char.isDigit rest) :
    IsField none text value rest := by
  obtain ⟨blanks, numeral, whole, blank, isNumeral, short, -⟩ := integer
  exact ⟨blanks, numeral, whole, blank, isNumeral, short, .inr stops⟩

theorem isInteger_of_isField (field : IsField none text value rest) : IsInteger text value := by
  obtain ⟨blanks, numeral, whole, blank, isNumeral, short, -⟩ := field
  exact ⟨blanks, numeral, whole, blank, isNumeral, short, .inr (stopsAt_nil _)⟩

/-- An integer ends with a digit. -/
theorem IsInteger.ends (integer : IsInteger text value) :
    ∃ front digit, text = front ++ [digit] ∧ digit.isDigit = true := by
  obtain ⟨blanks, numeral, rfl, -, ⟨sign, digits, rfl, nonempty, every, -⟩, -⟩ := integer
  refine ⟨blanks ++ (sign.text ++ digits.dropLast), digits.getLast nonempty, ?_,
    every _ (List.getLast_mem nonempty)⟩
  rw [List.append_assoc, List.append_assoc, List.dropLast_concat_getLast]

/-- What `strtol` takes is the integer at the front. -/
theorem strtol_append (field : IsField none text value rest) :
    strtol (text ++ rest) = (saturateLong value, text.length) := by
  obtain ⟨blanks, numeral, rfl, blank, isNumeral, -, maximal⟩ := field
  have stops : StopsAt Char.isDigit rest := maximal.resolve_left nofun
  have start := @IsNumeral.not_space numeral rest _ isNumeral
  unfold strtol
  rw [List.append_assoc, List.dropWhile_append_of_pos blank, (takeWhile_of_stopsAt start).2,
    takeWhile_append_of_stopsAt blank start, readNumber_numeral isNumeral stops, List.length_append]

/-- `strtol` takes nothing, or an integer. -/
theorem strtol_taken {input : List Char} (taken : 0 < (strtol input).2) :
    ∃ text rest value, input = text ++ rest ∧ IsField none text value rest := by
  unfold strtol at taken
  split at taken
  · rename_i value length read
    have within : readNumber (withinWidth none (input.dropWhile isSpace)) = some (value, length) := read
    obtain ⟨text, rest, whole, field, -⟩ := isField_of_readNumber within
    exact ⟨text, rest, value, whole, field⟩
  · exact absurd taken (Nat.lt_irrefl 0)

theorem IsInteger.length_pos (integer : IsInteger text value) : 0 < text.length := by
  obtain ⟨front, digit, rfl, -⟩ := integer.ends
  simp

end Integers

/-! ## Lists of integers -/

section Lists

variable {text rest : List Char} {value : Int} {values values' : List Int} {delimiter : Char}

/-- A list of integers ends with a digit. -/
theorem IntegerList.ends (list : IntegerList delimiter text values) :
    ∃ front digit, text = front ++ [digit] ∧ digit.isDigit = true := by
  induction list with
  | last integer => exact integer.ends
  | @next text rest value values integer others ih =>
    obtain ⟨front, digit, rfl, isDigit⟩ := ih
    exact ⟨text ++ delimiter :: front, digit, by simp, isDigit⟩

theorem IntegerList.ne_nil (list : IntegerList delimiter text values) : text ≠ [] := by
  obtain ⟨front, digit, rfl, -⟩ := list.ends
  simp

theorem IntegerList.accepted (list : IntegerList delimiter text values) :
    Accepted delimiter text values := by
  induction list with
  | last integer => exact .last integer
  | next integer _ ih => exact .next integer ih

/-- A delimiter behind the last integer is accepted. -/
theorem IntegerList.accepted_trailing (list : IntegerList delimiter text values) :
    Accepted delimiter (text ++ [delimiter]) values := by
  induction list with
  | last integer => exact .next integer .done
  | next integer _ ih =>
    rw [List.append_assoc, List.cons_append]
    exact .next integer ih

/-- **What the loop accepts**: nothing, a list of integers, or such a list and one delimiter more. -/
theorem Accepted.cases_text (accepted : Accepted delimiter text values) :
    (text = [] ∧ values = []) ∨ IntegerList delimiter text values ∨
      ∃ front, text = front ++ [delimiter] ∧ IntegerList delimiter front values := by
  induction accepted with
  | done => exact .inl ⟨rfl, rfl⟩
  | last integer => exact .inr (.inl (.last integer))
  | @next text rest value values integer _ ih =>
    rcases ih with ⟨rfl, rfl⟩ | list | ⟨front, rfl, list⟩
    · exact .inr (.inr ⟨text, rfl, .last integer⟩)
    · exact .inr (.inl (.next integer list))
    · exact .inr (.inr ⟨text ++ delimiter :: front, by simp, .next integer list⟩)

/-- The integers of a string are determined by it. -/
theorem Accepted.unique (notDigit : delimiter.isDigit = false)
    (accepted : Accepted delimiter text values) (accepted' : Accepted delimiter text values') :
    values = values' := by
  have stops (rest : List Char) : StopsAt Char.isDigit (delimiter :: rest) := stopsAt_cons notDigit
  induction accepted generalizing values' with
  | done =>
    generalize empty : ([] : List Char) = text at accepted'
    cases accepted' with
    | done => rfl
    | last integer => exact absurd (empty ▸ integer.length_pos) (by simp)
    | next integer _ => simp at empty
  | @last text value integer =>
    generalize same : text = text' at accepted'
    cases accepted' with
    | done => exact absurd (same ▸ integer.length_pos) (by simp)
    | last integer' =>
      obtain ⟨-, -, rfl⟩ := IsField.unique integer integer' (by rw [same])
      rfl
    | next integer' _ =>
      obtain ⟨-, none, -⟩ := IsField.unique integer (integer'.isField (stops _))
        ((List.append_nil _).trans same)
      cases none
  | @next text rest value values integer _ ih =>
    generalize same : text ++ delimiter :: rest = text' at accepted'
    cases accepted' with
    | done => simp at same
    | last integer' =>
      obtain ⟨-, none, -⟩ := IsField.unique (integer.isField (stops _)) integer'
        (same.trans (List.append_nil _).symm)
      cases none
    | next integer' others =>
      obtain ⟨-, sameRest, rfl⟩ :=
        IsField.unique (integer.isField (stops _)) (integer'.isField (stops _)) same
      rw [List.cons_inj_right] at sameRest
      subst sameRest
      rw [ih others]

end Lists

/-! ## The loop -/

section Loop

variable {intString : List Char} {delimiter : Char} {originalSize pos : Nat}
  {parsedOutput values : List Int}

/-- The character behind the first part of the rest of the string. -/
theorem cStrAt_add {text rest : List Char} (whole : intString.drop pos = text ++ rest) :
    cStrAt intString (pos + text.length) = rest.headD (Char.ofNat 0) := by
  have behind : intString[pos + text.length]? = rest[0]? := by
    rw [← List.getElem?_drop, whole, List.getElem?_append_right (Nat.le_refl _), Nat.sub_self]
  unfold cStrAt
  rw [List.getD_eq_getElem?_getD, behind]
  cases rest <;> rfl

/-- One round over an integer, in front of the delimiter or of the end. -/
theorem parseIntLoop_round {text rest : List Char} {value : Int}
    (whole : intString.drop pos = text ++ rest) (field : IsField none text value rest)
    (behind : rest.head? = some delimiter ∨ rest = []) :
    parseIntLoop intString delimiter originalSize pos parsedOutput =
      parseIntLoop intString delimiter originalSize (pos + text.length + 1)
        (parsedOutput ++ [element value]) := by
  have nonempty := (isInteger_of_isField field).length_pos
  have length := congrArg List.length whole
  rw [List.length_drop, List.length_append] at length
  have inside : pos < intString.length := by omega
  have accepted : 0 < text.length ∧ (cStrAt intString (pos + text.length) = delimiter ∨
      cStrAt intString (pos + text.length) = Char.ofNat 0) := by
    refine ⟨nonempty, ?_⟩
    rw [cStrAt_add whole]
    rcases behind with isDelimiter | rfl
    · exact .inl (by simp [isDelimiter])
    · exact .inr rfl
  rw [parseIntLoop, if_pos inside, whole, strtol_append field]
  simp only [if_pos accepted]
  rfl

theorem parseIntLoop_end (past : intString.length ≤ pos) :
    parseIntLoop intString delimiter originalSize pos parsedOutput = (true, parsedOutput) := by
  rw [parseIntLoop, if_neg (Nat.not_lt.mpr past)]

/-- **The run over an accepted string** appends its integers. -/
theorem parseIntLoop_accepted {text : List Char} (notDigit : delimiter.isDigit = false)
    (accepted : Accepted delimiter text values) (whole : intString.drop pos = text) :
    parseIntLoop intString delimiter originalSize pos parsedOutput =
      (true, parsedOutput ++ values.map element) := by
  induction accepted generalizing pos parsedOutput with
  | done =>
    rw [parseIntLoop_end (List.drop_eq_nil_iff.mp whole)]
    simp
  | @last text value integer =>
    have all : intString.drop pos = text ++ [] := by rw [whole, List.append_nil]
    have length := congrArg List.length whole
    rw [List.length_drop] at length
    rw [parseIntLoop_round all integer (.inr rfl), parseIntLoop_end (by omega)]
    rfl
  | @next text rest value values integer _ ih =>
    have others : intString.drop (pos + text.length + 1) = rest := by
      rw [Nat.add_assoc, ← List.drop_drop, whole, ← List.drop_drop, List.drop_left]
      rfl
    rw [parseIntLoop_round whole (integer.isField (stopsAt_cons notDigit)) (.inl rfl), ih others]
    simp

/-- **Every run** is one over an accepted string, or leaves the vector as it was. -/
theorem parseIntLoop_cases (noNul : NoNul intString) (grown : originalSize ≤ parsedOutput.length) :
    (∃ values, Accepted delimiter (intString.drop pos) values) ∨
      parseIntLoop intString delimiter originalSize pos parsedOutput =
        (false, parsedOutput.take originalSize) := by
  -- The induction is on what is left of the string behind the position.
  induction left : intString.length - pos using Nat.strongRecOn generalizing pos parsedOutput with
  | ind most ih =>
    by_cases inside : pos < intString.length
    · by_cases accepted : 0 < (strtol (intString.drop pos)).2 ∧
          (cStrAt intString (pos + (strtol (intString.drop pos)).2) = delimiter ∨
            cStrAt intString (pos + (strtol (intString.drop pos)).2) = Char.ofNat 0)
      · obtain ⟨nonempty, behind⟩ := accepted
        obtain ⟨text, rest, value, whole, field⟩ := strtol_taken nonempty
        have integer := isInteger_of_isField field
        rw [whole, strtol_append field] at behind
        rw [cStrAt_add whole] at behind
        have length := congrArg List.length whole
        rw [List.length_drop, List.length_append] at length
        cases rest with
        | nil => exact .inl ⟨[value], by rw [whole, List.append_nil]; exact .last integer⟩
        | cons first rest =>
          have member : first ∈ intString := by
            refine List.mem_of_mem_drop (i := pos) ?_
            rw [whole]
            simp
          have isDelimiter : first = delimiter := by
            refine behind.resolve_right fun nul => ?_
            have notNul := noNul first member
            rw [show first = Char.ofNat 0 from nul] at notNul
            cases notNul
          subst isDelimiter
          have others : intString.drop (pos + text.length + 1) = rest := by
            rw [Nat.add_assoc, ← List.drop_drop, whole, ← List.drop_drop, List.drop_left]
            rfl
          have shorter : intString.length - (pos + text.length + 1) < most := by
            rw [List.length_cons] at length
            omega
          have longer : originalSize ≤ (parsedOutput ++ [element value]).length := by
            rw [List.length_append]
            omega
          rw [parseIntLoop_round whole field (.inl rfl)]
          rcases ih _ shorter longer rfl with ⟨values, accepted⟩ | fails
          · rw [others] at accepted
            exact .inl ⟨value :: values, by rw [whole]; exact .next integer accepted⟩
          · rw [fails, List.take_append_of_le_length grown]
            exact .inr rfl
      · refine .inr ?_
        rw [parseIntLoop, if_pos inside]
        exact if_neg accepted
    · exact .inl ⟨[], by rw [List.drop_eq_nil_iff.mpr (Nat.not_lt.mp inside)]; exact .done⟩

end Loop

/-! ## Exactly when a string is parsed as documented -/

/-- The contract of `ParseIntString`: it succeeds for the empty string and for the lists of integers
that an `int` represents, appends these integers, and changes nothing where it fails. -/
structure ParsesIntegers (intString : List Char) (delimiter : Char) (parsedOutput : List Int) :
    Prop where
  accepts : (parseIntString intString delimiter parsedOutput).1 = true ↔
    intString = [] ∨
      ∃ values, IntegerList delimiter intString values ∧ ∀ value ∈ values, InSigned 32 value
  appends : ∀ values, (intString = [] ∧ values = []) ∨ IntegerList delimiter intString values →
    (parseIntString intString delimiter parsedOutput).1 = true →
      (parseIntString intString delimiter parsedOutput).2 = parsedOutput ++ values
  keeps : (parseIntString intString delimiter parsedOutput).1 = false →
    (parseIntString intString delimiter parsedOutput).2 = parsedOutput

section Contract

variable {intString : List Char} {delimiter : Char} {parsedOutput values : List Int}

theorem parseIntString_accepted (notDigit : delimiter.isDigit = false)
    (accepted : Accepted delimiter intString values) :
    parseIntString intString delimiter parsedOutput = (true, parsedOutput ++ values.map element) :=
  parseIntLoop_accepted notDigit accepted rfl

/-- A string that is not accepted leaves the vector as it was. -/
theorem parseIntString_cases (delimiter : Char) (parsedOutput : List Int) (noNul : NoNul intString) :
    (∃ values, Accepted delimiter intString values) ∨
      parseIntString intString delimiter parsedOutput = (false, parsedOutput) := by
  rcases @parseIntLoop_cases intString delimiter parsedOutput.length 0 parsedOutput noNul
    (Nat.le_refl _) with accepted | fails
  · exact .inl accepted
  · rw [List.take_length] at fails
    exact .inr fails

theorem element_of_fits {value : Int} (fits : InSigned 32 value) : element value = value := by
  obtain ⟨lower, upper⟩ := inSigned_32.mp fits
  have saturated : saturateLong value = value := by
    unfold saturateLong
    omega
  rw [element, saturated, toInt32_of_fits lower upper]

theorem map_element_of_fits (fits : ∀ value ∈ values, InSigned 32 value) :
    values.map element = values := by
  rw [List.map_congr_left fun value inValues => element_of_fits (fits value inValues)]
  exact List.map_id' values

/-- An integer beyond `int` is accepted nevertheless. -/
theorem ParsesIntegers.fits (parses : ParsesIntegers intString delimiter parsedOutput)
    (notDigit : delimiter.isDigit = false) (list : IntegerList delimiter intString values) :
    ∀ value ∈ values, InSigned 32 value := by
  have run := @parseIntString_accepted _ _ parsedOutput _ notDigit list.accepted
  rcases parses.accepts.mp (by rw [run]) with empty | ⟨values', list', fits⟩
  · exact absurd empty list.ne_nil
  · rw [list.accepted.unique notDigit list'.accepted]
    exact fits

/-- So is a delimiter behind the last integer. -/
theorem ParsesIntegers.not_trailing {front : List Char}
    (parses : ParsesIntegers (front ++ [delimiter]) delimiter parsedOutput)
    (notDigit : delimiter.isDigit = false) : ¬ IntegerList delimiter front values := by
  intro list
  have run := @parseIntString_accepted _ _ parsedOutput _ notDigit list.accepted_trailing
  rcases parses.accepts.mp (by rw [run]) with empty | ⟨values', list', -⟩
  · simp at empty
  · obtain ⟨front', digit, same, isDigit⟩ := list'.ends
    obtain ⟨-, last⟩ := List.append_inj' same rfl
    rw [← (List.cons_eq_cons.mp last).1, notDigit] at isDigit
    cases isDigit

/-- **A string is parsed as documented** exactly if every integer of a list fits in an `int`, and no
delimiter stands behind a list. -/
theorem parsesIntegers_iff (parsedOutput : List Int) (notDigit : delimiter.isDigit = false)
    (noNul : NoNul intString) :
    ParsesIntegers intString delimiter parsedOutput ↔
      (∀ values, IntegerList delimiter intString values → ∀ value ∈ values, InSigned 32 value) ∧
      ∀ front values, intString = front ++ [delimiter] → ¬ IntegerList delimiter front values := by
  constructor
  · intro parses
    refine ⟨fun values list => parses.fits notDigit list, ?_⟩
    rintro front values rfl
    exact parses.not_trailing notDigit
  · rintro ⟨fits, noTrailing⟩
    have listed {values : List Int} (accepted : Accepted delimiter intString values) :
        (intString = [] ∧ values = []) ∨ IntegerList delimiter intString values := by
      rcases accepted.cases_text with empty | list | ⟨front, whole, list⟩
      · exact .inl empty
      · exact .inr list
      · exact absurd list (noTrailing front values whole)
    have run {values : List Int}
        (list : (intString = [] ∧ values = []) ∨ IntegerList delimiter intString values) :
        parseIntString intString delimiter parsedOutput = (true, parsedOutput ++ values) := by
      rcases list with ⟨rfl, rfl⟩ | list
      · exact parseIntString_accepted notDigit .done
      · rw [parseIntString_accepted notDigit list.accepted, map_element_of_fits (fits values list)]
    refine ⟨⟨fun success => ?_, ?_⟩, fun values list _ => by rw [run list], fun failure => ?_⟩
    · rcases parseIntString_cases delimiter parsedOutput noNul with ⟨values, accepted⟩ | fails
      · exact (listed accepted).imp And.left fun list => ⟨values, list, fits values list⟩
      · rw [fails] at success
        cases success
    · rintro (empty | ⟨values, list, -⟩)
      · rw [run (.inl ⟨empty, rfl⟩)]
      · rw [run (.inr list)]
    · rcases parseIntString_cases delimiter parsedOutput noNul with ⟨values, accepted⟩ | fails
      · rw [run (listed accepted)] at failure
        cases failure
      · rw [fails]

/-- A digit is an integer. -/
theorem isInteger_digits {digits : List Char} (nonempty : digits ≠ [])
    (every : digits.all Char.isDigit = true) :
    IsInteger digits (Nat.ofDigitChars 10 digits 0 : Nat) :=
  isField_of_isNumeral (isNumeral_digits nonempty (List.all_eq_true.mp every)) noWidth (stopsAt_nil _)

/-- The string `1,-2` behind a vector of one element. -/
theorem parsesIntegers_iff_two :
    ','.isDigit = false ∧ NoNul ['1', ',', '-', '2'] ∧ (ParsesIntegers ['1', ',', '-', '2'] ',' [7] ↔
      (∀ values, IntegerList ',' ['1', ',', '-', '2'] values → ∀ value ∈ values, InSigned 32 value) ∧
      ∀ front values, ['1', ',', '-', '2'] = front ++ [','] → ¬ IntegerList ',' front values) := by
  have noNul : NoNul ['1', ',', '-', '2'] := by simp [NoNul]
  exact ⟨by decide, noNul, parsesIntegers_iff [7] (by decide) noNul⟩

/-- The string `1,` and the string `2147483648`. -/
theorem not_parsesIntegers :
    ¬ ParsesIntegers ['1', ','] ',' [] ∧
      ¬ ParsesIntegers ['2', '1', '4', '7', '4', '8', '3', '6', '4', '8'] ',' [] := by
  refine ⟨fun parses => ?_, fun parses => ?_⟩
  · exact @ParsesIntegers.not_trailing ',' [] [1] ['1'] parses (by decide)
      (.last (isInteger_digits (by decide) (by decide)))
  · have fits := parses.fits (by decide) (.last (isInteger_digits (by decide) (by decide)))
    have inInt := inSigned_32.mp (fits _ List.mem_cons_self)
    revert inInt
    decide

end Contract

end Quickstep.Utility
