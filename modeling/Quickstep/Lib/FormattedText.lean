import Quickstep.Lib.Numerals

/-!
# Formatted text

The directives of `sscanf`. A scan returns what it stores, in the order of the directives; it ends
early at the first directive that fails. A number that does not fit in its type is undefined
behaviour.
-/

namespace Quickstep.Lib

/-- The directives of a format. -/
inductive Directive where
  /-- White space. -/
  | space
  | literal (c : Char)
  /-- A decimal conversion to a signed type of `bits` bits. -/
  | number (bits : Nat) (width : Option Nat)
  /-- `%4s`. -/
  | text (width : Nat)
  /-- `%c`. -/
  | character
  /-- `%[...]`, or `%*[...]` if nothing is stored. -/
  | set (member : Char → Bool) (width : Option Nat) (stored : Bool)
  /-- `%n`. -/
  | position

/-- What a directive stores. -/
inductive Item where
  | number (value : Int)
  | text (chars : List Char)
  | character (c : Char)
  | position (consumed : Nat)
  deriving DecidableEq

/-- The part of the input that a field width leaves. -/
def withinWidth (width : Option Nat) (input : List Char) : List Char :=
  match width with
  | some width => input.take width
  | none => input

/-- Run the directives on the input, `consumed` characters of which are already read. -/
@[grind =]
def scan : List Directive → Nat → List Char → Exec (List Item)
  | [], _, _ => .ok []
  | .space :: format, consumed, input =>
    scan format (consumed + (input.takeWhile isSpace).length) (input.dropWhile isSpace)
  | .literal c :: format, consumed, input =>
    match input with
    | first :: rest => if first = c then scan format (consumed + 1) rest else .ok []
    | [] => .ok []
  | .number bits width :: format, consumed, input =>
    let skipped := (input.takeWhile isSpace).length
    let rest := input.dropWhile isSpace
    match readNumber (withinWidth width rest) with
    | none => .ok []
    | some (value, length) =>
      if InSigned bits value then
        (scan format (consumed + skipped + length) (rest.drop length)).map (.number value :: ·)
      else .error .undefinedBehaviour
  | .text width :: format, consumed, input =>
    let skipped := (input.takeWhile isSpace).length
    let rest := input.dropWhile isSpace
    let chars := (rest.take width).takeWhile fun c => !isSpace c
    if chars = [] then .ok []
    else
      (scan format (consumed + skipped + chars.length) (rest.drop chars.length)).map (.text chars :: ·)
  | .character :: format, consumed, input =>
    match input with
    | first :: rest => (scan format (consumed + 1) rest).map (.character first :: ·)
    | [] => .ok []
  | .set member width stored :: format, consumed, input =>
    let chars := (withinWidth width input).takeWhile member
    if chars = [] then .ok []
    else
      (scan format (consumed + chars.length) (input.drop chars.length)).map fun items =>
        if stored then .text chars :: items else items
  | .position :: format, consumed, input =>
    (scan format consumed input).map (.position consumed :: ·)

/-- The characters in front of the first NUL. -/
def cString (text : List Char) : List Char := text.takeWhile fun c => c.toNat != 0

/-- `sscanf` of a C string. -/
def sscanf (input : List Char) (format : List Directive) : Exec (List Item) :=
  scan format 0 (cString input)

/-! ## Scanning what was printed -/

section Scans

variable {text rest : List Char} {value : Int} {format : List Directive} {consumed : Nat}

theorem cString_of_noNul (noNul : NoNul text) : cString text = text :=
  List.takeWhile_eq_self_iff.mpr noNul

/-- A string that is as long as its C string has no NUL. -/
theorem noNul_of_length (whole : (cString text).length = text.length) :
    cString text = text ∧ NoNul text := by
  have same := (List.takeWhile_prefix _).eq_of_length whole
  exact ⟨same, List.takeWhile_eq_self_iff.mp same⟩

theorem sscanf_of_noNul {format : List Directive} (noNul : NoNul text) :
    sscanf text format = scan format 0 text := by
  rw [sscanf, cString_of_noNul noNul]

/-- **A field is read**, if its number fits in the type. -/
theorem scan_field {bits : Nat} {width : Option Nat} (field : IsField width text value rest) :
    scan (.number bits width :: format) consumed (text ++ rest) =
      if InSigned bits value then
        (scan format (consumed + text.length) rest).map (.number value :: ·)
      else .error .undefinedBehaviour := by
  obtain ⟨blanks, numeral, rfl, blank, isNumeral, short, maximal⟩ := field
  have taken : (blanks ++ (numeral ++ rest)).takeWhile isSpace = blanks :=
    takeWhile_append_of_stopsAt blank isNumeral.not_space
  have dropped : (blanks ++ (numeral ++ rest)).dropWhile isSpace = numeral ++ rest := by
    rw [List.dropWhile_append_of_pos blank]
    exact (takeWhile_of_stopsAt isNumeral.not_space).2
  have read : readNumber (withinWidth width (numeral ++ rest)) = some (value, numeral.length) := by
    cases width with
    | none =>
      rcases maximal with whole | stops
      · cases whole
      · exact readNumber_numeral isNumeral stops
    | some most =>
      obtain ⟨more, rfl⟩ := Nat.exists_eq_add_of_le (short most rfl)
      rw [withinWidth, List.take_length_add_append]
      refine readNumber_numeral isNumeral ?_
      rcases maximal with whole | stops
      · obtain rfl : more = 0 := by
          injection whole with whole
          omega
        exact stopsAt_nil _
      · exact stopsAt_take stops more
  rw [scan, List.append_assoc]
  simp only [taken, dropped, read, List.drop_left, List.length_append, Nat.add_assoc]

/-- A number that is written without blanks is read. -/
theorem scan_number {bits : Nat} {width : Option Nat} (numeral : IsNumeral text value)
    (fits : InSigned bits value) (short : ∀ most ∈ width, text.length ≤ most)
    (stops : StopsAt Char.isDigit rest) :
    scan (.number bits width :: format) consumed (text ++ rest) =
      (scan format (consumed + text.length) rest).map (.number value :: ·) := by
  rw [scan_field (isField_of_isNumeral numeral short stops), if_pos fits]

theorem scan_literal (c : Char) :
    scan (.literal c :: format) consumed (c :: rest) = scan format (consumed + 1) rest := if_pos rfl

theorem scan_literal_fail {c : Char} (differs : rest.head? ≠ some c) :
    scan (.literal c :: format) consumed rest = .ok [] := by
  cases rest with
  | nil => rfl
  | cons first rest =>
    refine if_neg fun same => ?_
    rw [same] at differs
    exact differs rfl

theorem scan_space (stops : StopsAt isSpace rest) :
    scan (.space :: format) consumed rest = scan format consumed rest := by
  have start := takeWhile_of_stopsAt stops
  rw [scan, start.1, start.2]
  rfl

theorem scan_one_space (stops : StopsAt isSpace rest) :
    scan (.space :: format) consumed (' ' :: rest) = scan format (consumed + 1) rest := by
  have start := takeWhile_of_stopsAt stops
  have blank : isSpace ' ' = true := rfl
  rw [scan, List.takeWhile_cons_of_pos blank, List.dropWhile_cons_of_pos blank, start.1, start.2]
  rfl

theorem scan_text {width : Nat} (nonempty : text ≠ []) (every : ∀ c ∈ text, isSpace c = false)
    (field : text.length = width ∨ text.length ≤ width ∧ StopsAt (fun c => !isSpace c) rest) :
    scan (.text width :: format) consumed (text ++ rest) =
      (scan format (consumed + text.length) rest).map (.text text :: ·) := by
  have first : StopsAt isSpace (text ++ rest) := by
    cases text with
    | nil => exact absurd rfl nonempty
    | cons first text => exact stopsAt_cons (every first List.mem_cons_self)
  have start := takeWhile_of_stopsAt first
  have read : ((text ++ rest).take width).takeWhile (fun c => !isSpace c) = text := by
    rcases field with rfl | ⟨fits, stops⟩
    · rw [List.take_left]
      exact List.takeWhile_eq_self_iff.mpr fun c inText => by simp [every c inText]
    · obtain ⟨more, rfl⟩ := Nat.exists_eq_add_of_le fits
      rw [List.take_length_add_append]
      exact takeWhile_append_of_stopsAt (fun c inText => by simp [every c inText])
        (stopsAt_take stops more)
  rw [scan]
  simp only [start.1, start.2, read, if_neg nonempty, List.length_nil, Nat.add_zero, List.drop_left]

theorem scan_set {member : Char → Bool} {width : Option Nat} {stored : Bool} (nonempty : text ≠ [])
    (every : ∀ c ∈ text, member c = true) (short : ∀ most ∈ width, text.length ≤ most)
    (maximal : width = some text.length ∨ StopsAt member rest) :
    scan (.set member width stored :: format) consumed (text ++ rest) =
      (scan format (consumed + text.length) rest).map fun items =>
        if stored then .text text :: items else items := by
  have read : (withinWidth width (text ++ rest)).takeWhile member = text := by
    rcases maximal with rfl | stops
    · rw [withinWidth, List.take_left]
      exact List.takeWhile_eq_self_iff.mpr every
    · cases width with
      | none => exact takeWhile_append_of_stopsAt every stops
      | some most =>
        obtain ⟨more, rfl⟩ := Nat.exists_eq_add_of_le (short most rfl)
        rw [withinWidth, List.take_length_add_append]
        exact takeWhile_append_of_stopsAt every (stopsAt_take stops more)
  rw [scan]
  simp only [read, if_neg nonempty, List.drop_left]

theorem scan_set_fail {member : Char → Bool} {width : Option Nat} {stored : Bool}
    (stops : StopsAt member rest) :
    scan (.set member width stored :: format) consumed rest = .ok [] := by
  have read : (withinWidth width rest).takeWhile member = [] := by
    cases width with
    | none => exact (takeWhile_of_stopsAt stops).1
    | some most => exact (takeWhile_of_stopsAt (stopsAt_take stops most)).1
  rw [scan]
  simp only [read, if_pos]

theorem scan_position :
    scan (.position :: format) consumed rest =
      (scan format consumed rest).map (.position consumed :: ·) := rfl

theorem scan_nil : scan [] consumed rest = .ok [] := rfl

end Scans

/-! ## What a scan has read -/

section Inversion

variable {input : List Char} {format : List Directive} {consumed : Nat} {first : Item}
  {items : List Item}

theorem map_eq_ok_cons {run : Exec (List Item)} {stored : Item}
    (mapped : run.map (stored :: ·) = .ok (first :: items)) : first = stored ∧ run = .ok items := by
  cases run with
  | error fault => cases mapped
  | ok rest =>
    cases mapped
    exact ⟨rfl, rfl⟩

/-- What is read within a width is a field of the input. -/
theorem isField_of_readNumber {width : Option Nat} {value : Int} {length : Nat}
    (read : readNumber (withinWidth width (input.dropWhile isSpace)) = some (value, length)) :
    ∃ text rest, input = text ++ rest ∧ IsField width text value rest ∧
      text.length = (input.takeWhile isSpace).length + length ∧
      rest = (input.dropWhile isSpace).drop length := by
  obtain ⟨text, rest, whole, numeral, rfl, stops⟩ := readNumber_eq_some read
  have behind : input.dropWhile isSpace = text ++ (input.dropWhile isSpace).drop text.length ∧
      (∀ most ∈ width, text.length ≤ most) ∧
      (width = some text.length ∨
        StopsAt Char.isDigit ((input.dropWhile isSpace).drop text.length)) := by
    cases width with
    | none =>
      rw [withinWidth] at whole
      rw [whole, List.drop_left]
      exact ⟨rfl, nofun, .inr stops⟩
    | some most =>
      rw [withinWidth] at whole
      have length := congrArg List.length whole
      rw [List.length_take, List.length_append] at length
      have start : text <+: input.dropWhile isSpace :=
        ⟨rest ++ (input.dropWhile isSpace).drop most, by
          rw [← List.append_assoc, ← whole, List.take_append_drop]⟩
      have split := (List.prefix_iff_eq_append.mp start).symm
      refine ⟨split, fun most' isMost => ?_, ?_⟩
      · cases isMost
        omega
      · obtain ⟨more, rfl⟩ := Nat.exists_eq_add_of_le (show text.length ≤ most by omega)
        rw [split, List.take_length_add_append] at whole
        rw [← List.append_cancel_left whole] at stops
        cases more with
        | zero => exact .inl rfl
        | succ more =>
          refine .inr fun c isFirst => stops c ?_
          rwa [List.head?_take, if_neg (Nat.succ_ne_zero more)]
  refine ⟨input.takeWhile isSpace ++ text, (input.dropWhile isSpace).drop text.length, ?_,
    ⟨_, text, rfl, fun c isBlank => List.mem_takeWhile_imp isBlank, numeral, behind.2⟩,
    List.length_append, rfl⟩
  rw [List.append_assoc, ← behind.1, List.takeWhile_append_dropWhile]

/-- A number that is stored stands at the front of the input, behind blanks. -/
theorem scan_number_eq_cons {bits : Nat} {width : Option Nat}
    (run : scan (.number bits width :: format) consumed input = .ok (first :: items)) :
    ∃ text rest value, input = text ++ rest ∧ IsField width text value rest ∧
      first = .number value ∧ scan format (consumed + text.length) rest = .ok items := by
  rw [scan] at run
  split at run
  · cases run
  · rename_i value length read
    obtain ⟨text, rest, whole, field, isLength, isRest⟩ := isField_of_readNumber read
    split at run
    · obtain ⟨stored, others⟩ := map_eq_ok_cons run
      rw [Nat.add_assoc, ← isLength, ← isRest] at others
      exact ⟨text, rest, value, whole, field, stored, others⟩
    · cases run

theorem scan_literal_eq_cons {c : Char}
    (run : scan (.literal c :: format) consumed input = .ok (first :: items)) :
    ∃ rest, input = c :: rest ∧ scan format (consumed + 1) rest = .ok (first :: items) := by
  cases input with
  | nil => cases run
  | cons head rest =>
    rw [scan] at run
    split at run
    · rename_i same
      exact ⟨rest, by rw [same], run⟩
    · cases run

theorem scan_character_eq_cons
    (run : scan (.character :: format) consumed input = .ok (first :: items)) :
    ∃ c rest, input = c :: rest ∧ first = .character c ∧ scan format (consumed + 1) rest = .ok items := by
  cases input with
  | nil => cases run
  | cons head rest =>
    obtain ⟨stored, others⟩ := map_eq_ok_cons run
    exact ⟨head, rest, rfl, stored, others⟩

theorem scan_position_eq_cons
    (run : scan (.position :: format) consumed input = .ok (first :: items)) :
    first = .position consumed ∧ scan format consumed input = .ok items := map_eq_ok_cons run

theorem scan_set_eq_cons {member : Char → Bool} {most : Nat}
    (run : scan (.set member (some most) true :: format) consumed input = .ok (first :: items)) :
    ∃ text rest, input = text ++ rest ∧ text ≠ [] ∧ text.length ≤ most ∧
      (∀ c ∈ text, member c = true) ∧ first = .text text ∧
      scan format (consumed + text.length) rest = .ok items := by
  rw [scan] at run
  split at run
  · cases run
  · rename_i nonempty
    simp only [if_true] at run
    obtain ⟨stored, others⟩ := map_eq_ok_cons run
    have start : (withinWidth (some most) input).takeWhile member <+: input :=
      (List.takeWhile_prefix _).trans (List.take_prefix _ _)
    refine ⟨_, _, (List.prefix_iff_eq_append.mp start).symm, nonempty, ?_,
      fun c inText => List.mem_takeWhile_imp inText, stored, others⟩
    exact Nat.le_trans (List.takeWhile_prefix _).length_le (List.length_take_le _ _)

end Inversion

/-! ## Scans that are defined -/

/-- A number that every field of its width can hold. -/
def Directive.Narrow : Directive → Prop
  | .number bits width => ∃ most, width = some most ∧ 10 ^ most ≤ 2 ^ (bits - 1)
  | _ => True

/-- **A scan of narrow numbers has no undefined behaviour.** -/
theorem scan_narrow {format : List Directive} (narrow : ∀ d ∈ format, d.Narrow) (consumed : Nat)
    (input : List Char) : ∃ items, scan format consumed input = .ok items := by
  induction format generalizing consumed input with
  | nil => exact ⟨[], rfl⟩
  | cons directive format ih =>
    obtain ⟨first, others⟩ := List.forall_mem_cons.mp narrow
    have run (consumed : Nat) (input : List Char) (add : List Item → List Item) :
        ∃ items, (scan format consumed input).map add = .ok items := by
      obtain ⟨items, run⟩ := ih others consumed input
      exact ⟨add items, by rw [run]; rfl⟩
    cases directive with
    | space => exact ih others _ _
    | position => exact run _ _ _
    | literal c =>
      cases input with
      | nil => exact ⟨[], rfl⟩
      | cons head rest =>
        rw [scan]
        split
        · exact ih others _ _
        · exact ⟨[], rfl⟩
    | character =>
      cases input with
      | nil => exact ⟨[], rfl⟩
      | cons head rest => exact run _ _ _
    | text width =>
      rw [scan]
      split
      · exact ⟨[], rfl⟩
      · exact run _ _ _
    | set member width stored =>
      rw [scan]
      split
      · exact ⟨[], rfl⟩
      · exact run _ _ _
    | number bits width =>
      obtain ⟨most, rfl, bound⟩ := first
      rw [scan]
      split
      · exact ⟨[], rfl⟩
      · rename_i value length read
        obtain ⟨-, -, -, ⟨-, numeral, -, -, isNumeral, short, -⟩, -⟩ := isField_of_readNumber read
        have small := Nat.lt_of_lt_of_le isNumeral.natAbs_lt
          (Nat.pow_le_pow_right (by decide) (short most rfl))
        have fits : InSigned bits value := by
          have power : ((2 ^ (bits - 1) : Nat) : Int) = 2 ^ (bits - 1) := by
            rw [Int.natCast_pow]
            rfl
          refine ⟨?_, ?_⟩
          · omega
          · omega
        rw [if_pos fits]
        exact run _ _ _

/-- **A scan whose later numbers are narrow** has undefined behaviour only if its first number does
not fit. -/
theorem scan_number_defined_iff {bits : Nat} {width : Option Nat} {format : List Directive}
    (narrow : ∀ d ∈ format, d.Narrow) (consumed : Nat) (input : List Char) :
    (∃ items, scan (.number bits width :: format) consumed input = .ok items) ↔
      ∀ text rest value, input = text ++ rest → IsField width text value rest →
        InSigned bits value := by
  constructor
  · rintro ⟨items, run⟩ text rest value rfl field
    rw [scan_field field] at run
    split at run
    · assumption
    · cases run
  · intro fits
    rw [scan]
    split
    · exact ⟨[], rfl⟩
    · rename_i value length read
      obtain ⟨text, rest, whole, field, -⟩ := isField_of_readNumber read
      obtain ⟨items, run⟩ := scan_narrow narrow (consumed + (input.takeWhile isSpace).length + length)
        ((input.dropWhile isSpace).drop length)
      rw [if_pos (fits text rest value whole field), run]
      exact ⟨_, rfl⟩

end Quickstep.Lib
