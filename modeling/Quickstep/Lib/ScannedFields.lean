import Quickstep.Lib.FormattedText

/-!
# How a scan cuts a text

The pieces that the directives of `sscanf` take off the front of a text are determined by the text: a
number takes its blanks and its longest numeral, white space takes all blanks, a word all that is not
blank up to its width.
-/

namespace Quickstep.Lib

/-- A text of blanks. -/
def Blanks (text : List Char) : Prop := ∀ c ∈ text, isSpace c = true

/-- In front of `rest`, a text is a word as `%4s` reads it, blanks apart. -/
structure IsWord (width : Nat) (text rest : List Char) : Prop where
  nonempty : text ≠ []
  every : ∀ c ∈ text, isSpace c = false
  maximal : text.length = width ∨ text.length ≤ width ∧ StopsAt (fun c => !isSpace c) rest

/-- The number that a field is read as, or zero. -/
def fieldValue (text : List Char) : Int :=
  match readNumber (text.dropWhile isSpace) with
  | some (value, _) => value
  | none => 0

section Cuts

variable {text text' rest rest' : List Char} {value value' : Int} {width : Option Nat}

/-- **The field at the front of a text** is determined by the text. -/
theorem IsField.unique (field : IsField width text value rest) (field' : IsField width text' value' rest')
    (same : text ++ rest = text' ++ rest') : text = text' ∧ rest = rest' ∧ value = value' := by
  -- Both are what a scan for a number of enough bits reads.
  have fits {number : Int} (within : number.natAbs ≤ max value.natAbs value'.natAbs) :
      InSigned (max value.natAbs value'.natAbs + 1) number := by
    have bound := Nat.lt_two_pow_self (n := max value.natAbs value'.natAbs)
    have power : ((2 ^ max value.natAbs value'.natAbs : Nat) : Int) =
        2 ^ (max value.natAbs value'.natAbs + 1 - 1) := by
      rw [Int.natCast_pow, Nat.add_sub_cancel]
      rfl
    refine ⟨?_, ?_⟩
    · omega
    · omega
  have read := @scan_field text rest value [.position] 0 (max value.natAbs value'.natAbs + 1) width field
  have read' := @scan_field text' rest' value' [.position] 0 (max value.natAbs value'.natAbs + 1) width
    field'
  rw [if_pos (fits (Nat.le_max_left _ _)), scan_position, scan_nil] at read
  rw [if_pos (fits (Nat.le_max_right _ _)), scan_position, scan_nil, ← same, read] at read'
  have items := List.cons_eq_cons.mp (Except.ok.inj read')
  have length : text.length = text'.length := by
    have positions := Item.position.inj (List.cons_eq_cons.mp items.2).1
    omega
  obtain ⟨sameText, sameRest⟩ := List.append_inj same length
  exact ⟨sameText, sameRest, Item.number.inj items.1⟩

theorem IsField.value_eq (field : IsField width text value rest) : fieldValue text = value := by
  obtain ⟨blanks, numeral, rfl, blank, isNumeral, -⟩ := field
  have start := @IsNumeral.not_space numeral [] _ isNumeral
  have read := readNumber_numeral isNumeral (stopsAt_nil Char.isDigit)
  rw [List.append_nil] at start read
  rw [fieldValue, List.dropWhile_append_of_pos blank, (takeWhile_of_stopsAt start).2, read]

/-- A short field has a number that fits. -/
theorem IsField.inSigned {most bits : Nat} (field : IsField (some most) text value rest)
    (room : 10 ^ most ≤ 2 ^ (bits - 1)) : InSigned bits value := by
  obtain ⟨blanks, numeral, -, -, isNumeral, short, -⟩ := field
  have small := Nat.lt_of_lt_of_le isNumeral.natAbs_lt
    (Nat.pow_le_pow_right (by decide) (short most rfl))
  have power : ((2 ^ (bits - 1) : Nat) : Int) = 2 ^ (bits - 1) := by
    rw [Int.natCast_pow]
    rfl
  refine ⟨?_, ?_⟩
  · omega
  · omega

/-- A field has blanks, a sign and digits. -/
theorem IsField.forall_mem (field : IsField width text value rest) :
    ∀ c ∈ text, isSpace c = true ∨ c = '-' ∨ c = '+' ∨ c.isDigit = true := by
  obtain ⟨blanks, numeral, rfl, blank, ⟨sign, digits, rfl, -, every, -⟩, -⟩ := field
  intro c inText
  rcases List.mem_append.mp inText with inBlanks | inNumeral
  · exact .inl (blank c inBlanks)
  · rcases List.mem_append.mp inNumeral with inSign | inDigits
    · cases sign <;> simp_all [Sign.text]
    · exact .inr (.inr (.inr (every c inDigits)))

/-- So a field has no NUL. -/
theorem IsField.noNul (field : IsField width text value rest) : NoNul text := by
  intro c inText
  rcases field.forall_mem c inText with blank | rfl | rfl | digit
  · simp only [isSpace, Bool.or_eq_true, Bool.and_eq_true, beq_iff_eq, decide_eq_true_eq] at blank
    simp only [bne_iff_ne]
    omega
  · decide
  · decide
  · have range := toNat_of_isDigit digit
    simp only [bne_iff_ne]
    omega

/-- A field ends with a digit. -/
theorem IsField.isDigit_getLast (field : IsField width text value rest) :
    ∀ c ∈ text.getLast?, c.isDigit = true := by
  obtain ⟨blanks, numeral, rfl, -, ⟨sign, digits, rfl, nonempty, every, -⟩, -⟩ := field
  intro c isLast
  have sameLast : (blanks ++ (Sign.text sign ++ digits)).getLast? = digits.getLast? := by
    simp [List.getLast?_append, List.getLast?_eq_some_getLast nonempty]
  rw [sameLast] at isLast
  exact every c (List.mem_of_getLast? isLast)

/-- Blanks in front of something else are determined. -/
theorem Blanks.unique (blanks : Blanks text) (stops : StopsAt isSpace rest) (blanks' : Blanks text')
    (stops' : StopsAt isSpace rest') (same : text ++ rest = text' ++ rest') :
    text = text' ∧ rest = rest' := by
  have taken : text = text' := by
    rw [← takeWhile_append_of_stopsAt blanks stops, same, takeWhile_append_of_stopsAt blanks' stops']
  refine ⟨taken, ?_⟩
  rw [taken] at same
  exact List.append_cancel_left same

theorem IsWord.stopsAt_isSpace (word : IsWord n text rest) : StopsAt isSpace (text ++ rest') := by
  cases text with
  | nil => exact absurd rfl word.nonempty
  | cons first text => exact stopsAt_cons (word.every first List.mem_cons_self)

variable {n : Nat}

/-- So is a word. -/
theorem IsWord.unique (word : IsWord n text rest) (word' : IsWord n text' rest')
    (same : text ++ rest = text' ++ rest') : text = text' ∧ rest = rest' := by
  have read {text rest : List Char} (word : IsWord n text rest) :
      ((text ++ rest).take n).takeWhile (fun c => !isSpace c) = text := by
    have every : ∀ c ∈ text, (!isSpace c) = true := fun c inText => by simp [word.every c inText]
    rcases word.maximal with whole | ⟨short, stops⟩
    · rw [← whole, List.take_left]
      exact List.takeWhile_eq_self_iff.mpr every
    · obtain ⟨more, rfl⟩ := Nat.exists_eq_add_of_le short
      rw [List.take_length_add_append]
      exact takeWhile_append_of_stopsAt every (stopsAt_take stops more)
  have taken : text = text' := by
    rw [← read word, same, read word']
  refine ⟨taken, ?_⟩
  rw [taken] at same
  exact List.append_cancel_left same

end Cuts

/-- What is taken while it fits ends at the width or at what does not belong to it. -/
theorem length_takeWhile_take (p : Char → Bool) (width : Nat) (input : List Char) :
    ((input.take width).takeWhile p).length = width ∨
      ((input.take width).takeWhile p).length ≤ width ∧
        StopsAt p (input.drop ((input.take width).takeWhile p).length) := by
  induction input generalizing width with
  | nil => exact .inr ⟨by simp, by simpa using stopsAt_nil p⟩
  | cons first input ih =>
    cases width with
    | zero => exact .inl rfl
    | succ width =>
      rw [List.take_succ_cons]
      cases member : p first with
      | true =>
        rw [List.takeWhile_cons_of_pos member, List.length_cons, List.drop_succ_cons]
        rcases ih width with whole | ⟨short, stops⟩
        · exact .inl (by rw [whole])
        · exact .inr ⟨Nat.succ_le_succ short, stops⟩
      | false =>
        rw [List.takeWhile_cons_of_neg (by simp [member])]
        exact .inr ⟨Nat.zero_le _, stopsAt_cons member⟩

/-! ## Scanning the pieces -/

section Scanning

variable {text rest input blanks : List Char} {format : List Directive} {consumed n : Nat} {first : Item}
  {items : List Item}

theorem scan_blanks (isBlank : Blanks blanks) (stops : StopsAt isSpace rest) :
    scan (.space :: format) consumed (blanks ++ rest) =
      scan format (consumed + blanks.length) rest := by
  have dropped : (blanks ++ rest).dropWhile isSpace = rest := by
    rw [List.dropWhile_append_of_pos isBlank]
    exact (takeWhile_of_stopsAt stops).2
  rw [scan, takeWhile_append_of_stopsAt isBlank stops, dropped]

theorem scan_word (word : IsWord n text rest) :
    scan (.text n :: format) consumed (text ++ rest) =
      (scan format (consumed + text.length) rest).map (.text text :: ·) :=
  scan_text word.nonempty word.every word.maximal

/-- White space is skipped up to something else. -/
theorem scan_space_eq {result : Exec (List Item)}
    (run : scan (.space :: format) consumed input = result) :
    ∃ blanks rest, input = blanks ++ rest ∧ Blanks blanks ∧ StopsAt isSpace rest ∧
      scan format (consumed + blanks.length) rest = result := by
  refine ⟨input.takeWhile isSpace, input.dropWhile isSpace, List.takeWhile_append_dropWhile.symm,
    fun c inBlanks => List.mem_takeWhile_imp inBlanks, fun c isFirst => ?_, run⟩
  have fails := List.head?_dropWhile_not isSpace input
  rw [isFirst] at fails
  exact Bool.eq_false_iff.mpr (by simpa using fails)

/-- What a word is scanned as stands at the front of the input, if no blank does. -/
theorem isWord_of_scan (nonempty : (input.take n).takeWhile (fun c => !isSpace c) ≠ []) :
    ∃ rest, input = (input.take n).takeWhile (fun c => !isSpace c) ++ rest ∧
      IsWord n ((input.take n).takeWhile (fun c => !isSpace c)) rest ∧
      rest = input.drop ((input.take n).takeWhile (fun c => !isSpace c)).length := by
  have front : (input.take n).takeWhile (fun c => !isSpace c) <+: input :=
    (List.takeWhile_prefix _).trans (List.take_prefix _ _)
  refine ⟨_, (List.prefix_iff_eq_append.mp front).symm, ⟨nonempty, fun c inText => ?_, ?_⟩, rfl⟩
  · simpa using List.mem_takeWhile_imp inText
  · exact length_takeWhile_take _ n input

/-- A word that is stored. -/
theorem scan_word_eq_cons (stops : StopsAt isSpace input)
    (run : scan (.text n :: format) consumed input = .ok (first :: items)) :
    ∃ text rest, input = text ++ rest ∧ IsWord n text rest ∧ first = .text text ∧
      scan format (consumed + text.length) rest = .ok items := by
  have start := takeWhile_of_stopsAt stops
  rw [scan] at run
  simp only [start.1, start.2, List.length_nil, Nat.add_zero] at run
  split at run
  · cases run
  · next nonempty =>
    obtain ⟨stored, others⟩ := map_eq_ok_cons run
    obtain ⟨rest, whole, word, isRest⟩ := isWord_of_scan nonempty
    rw [← isRest] at others
    exact ⟨_, rest, whole, word, stored, others⟩

/-! ### Scans that are not defined -/

variable {fault : Fault}

theorem map_eq_error {run : Exec (List Item)} {add : List Item → List Item}
    (mapped : run.map add = .error fault) : run = .error fault := by
  cases run with
  | error other => cases mapped; rfl
  | ok items => cases mapped

/-- The fault of a scan is that of its number, or comes behind it. -/
theorem scan_number_eq_error {bits : Nat} {width : Option Nat}
    (run : scan (.number bits width :: format) consumed input = .error fault) :
    ∃ text rest value, input = text ++ rest ∧ IsField width text value rest ∧
      (¬ InSigned bits value ∨ scan format (consumed + text.length) rest = .error fault) := by
  rw [scan] at run
  split at run
  · cases run
  · rename_i value length read
    obtain ⟨text, rest, whole, field, isLength, isRest⟩ := isField_of_readNumber read
    refine ⟨text, rest, value, whole, field, ?_⟩
    split at run
    · have others := map_eq_error run
      rw [Nat.add_assoc, ← isLength, ← isRest] at others
      exact .inr others
    · next tooLarge => exact .inl tooLarge

theorem scan_word_eq_error (stops : StopsAt isSpace input)
    (run : scan (.text n :: format) consumed input = .error fault) :
    ∃ text rest, input = text ++ rest ∧ IsWord n text rest ∧
      scan format (consumed + text.length) rest = .error fault := by
  have start := takeWhile_of_stopsAt stops
  rw [scan] at run
  simp only [start.1, start.2, List.length_nil, Nat.add_zero] at run
  split at run
  · cases run
  · next nonempty =>
    have others := map_eq_error run
    obtain ⟨rest, whole, word, isRest⟩ := isWord_of_scan nonempty
    rw [← isRest] at others
    exact ⟨_, rest, whole, word, others⟩

end Scanning

end Quickstep.Lib
