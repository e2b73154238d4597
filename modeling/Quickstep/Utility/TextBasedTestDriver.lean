import Mathlib.Data.Finset.Basic
import Quickstep.Lib.Lines
import Quickstep.Lib.FormattedText

/-!
# Text-based tests

The test driver of `utility/textbased_test/` reads test cases from a text, and writes the text of the tests
with what they have put out. A test that puts out the same as the one above is written in a shorter way. What
is written is a text of tests again, which all pass.
-/

namespace Quickstep.Utility
open Quickstep.Lib

/-- The character that `EOF` is converted to. -/
def isEof (c : Char) : Bool := c = Char.ofNat 255

/-- `GetLineWithNewLineNotTrimmed` on what is left of a stream: the line, the rest, and whether it has set
`eofbit`. -/
def getLineWithNewLineNotTrimmed : List Char → List Char × List Char × Bool
  | [] => ([], [], true)
  | c :: rest =>
    if c = '\n' then ([c], rest, false)
    else if c = '\r' then
      if rest.head? = some '\n' then ([c, '\n'], rest.tail, false) else ([c], rest, false)
    else if isEof c then ([], c :: rest, true)
    else
      let (line, rest', eof) := getLineWithNewLineNotTrimmed rest
      (c :: line, rest', eof)

/-- A call returns no line only at the end. -/
theorem eof_of_line_eq_nil {text : List Char} (isEmpty : (getLineWithNewLineNotTrimmed text).1 = []) :
    (getLineWithNewLineNotTrimmed text).2.2 = true := by
  cases text with
  | nil => rfl
  | cons c rest =>
    rw [getLineWithNewLineNotTrimmed] at isEmpty ⊢
    split at isEmpty
    · cases isEmpty
    · split at isEmpty
      · split at isEmpty <;> cases isEmpty
      · split at isEmpty
        · simp_all
        · cases isEmpty

/-- The lines of a stream are those that one call after the other returns. -/
theorem getLines_eq (text : List Char) : getLines isEof text =
    if (getLineWithNewLineNotTrimmed text).1 = [] then []
    else (getLineWithNewLineNotTrimmed text).1 ::
      if (getLineWithNewLineNotTrimmed text).2.2 then []
      else getLines isEof (getLineWithNewLineNotTrimmed text).2.1 := by
  induction text with
  | nil => rfl
  | cons c rest ih =>
    rw [getLines_cons, getLineWithNewLineNotTrimmed]
    split
    · simp
    · split
      · split <;> simp
      · split
        · simp
        · rw [ih]
          by_cases isEmpty : (getLineWithNewLineNotTrimmed rest).1 = []
          · simp [isEmpty, eof_of_line_eq_nil isEmpty]
          · simp [isEmpty]

/-! ## Test cases -/

/-- A `TextBasedTestCase`. -/
structure TestCase where
  precedingText : List Char
  inputText : List Char
  expectedOutputText : List Char
  options : Finset (List Char)
  actualOutputText : List Char

def sameAsAboveString : List Char := ['[', 's', 'a', 'm', 'e', ' ', 'a', 's', ' ', 'a', 'b', 'o', 'v', 'e', ']']

def isInputOutputSeparator : List Char → Bool
  | '-' :: '-' :: _ => true
  | _ => false

def isTestCaseSeparator : List Char → Bool
  | '=' :: '=' :: _ => true
  | _ => false

/-- A line of nothing but white space. -/
def isBlank (line : List Char) : Bool := line.all isSpace

/-! ## Options

`none` stands where a `CHECK` fails. -/

/-- `operator>>` of a stream, over and over. -/
def tokens (text : List Char) : List (List Char) := (text.splitOnP isSpace).filter (· ≠ [])

/-- The tokens up to a closing bracket, with nothing behind it. -/
def bracketedOptions : List (List Char) → Option (List (List Char))
  | [] => some []
  | token :: rest =>
    let bracketPos := token.idxOf ']'
    if bracketPos < token.length then
      if bracketPos + 1 = token.length ∧ rest = [] then
        some (if 1 < token.length then [token.take bracketPos] else [])
      else none
    else (bracketedOptions rest).map (token :: ·)

/-- The options so far: all of them, and those of lines with `default`. -/
abbrev Options := Finset (List Char) × Finset (List Char)

def readOptions (registeredOptions : Finset (List Char)) (line : List Char) (options : Options) : Option Options := do
  let named ← bracketedOptions (tokens line.tail)
  let isDefault := named.head? = some ['d', 'e', 'f', 'a', 'u', 'l', 't']
  let named := if isDefault then named.tail else named
  if named = [] then none
  else if ∀ option ∈ named, option ∈ registeredOptions then
    some (options.1 ∪ named.toFinset, if isDefault then options.2 ∪ named.toFinset else options.2)
  else none

/-! ## Reading -/

/-- A loop that reads lines into a string stream, as long as they are such lines. -/
def readWhile (isSuch : List Char → Bool) : List (List Char) → List Char × List (List Char)
  | [] => ([], [])
  | line :: lines =>
    if isSuch line then
      let (text, lines') := readWhile isSuch lines
      (line ++ text, lines')
    else ([], line :: lines)

/-- A line in front of a test: a comment or a blank one. -/
def isLeading (line : List Char) : Bool :=
  line.head? ≠ some '[' && (line.head? = some '#' || isBlank line)

/-- The loop over the lines with options and the blank lines between them. -/
def readOptionLines (registeredOptions : Finset (List Char)) (options : Options) :
    List (List Char) → Option (List Char × Options × List (List Char))
  | [] => some ([], options, [])
  | line :: lines =>
    if line.head? = some '[' then do
      let options ← readOptions registeredOptions line options
      let (text, options, lines') ← readOptionLines registeredOptions options lines
      some (line ++ text, options, lines')
    else if isBlank line then do
      let (text, options, lines') ← readOptionLines registeredOptions options lines
      some (line ++ text, options, lines')
    else some ([], options, line :: lines)

/-- The output that is expected, if this was read. -/
def expectedOutput (previous : Option TestCase) (testOutput : List Char) : Option (List Char) :=
  if sameAsAboveString.isPrefixOf testOutput then previous.map (·.expectedOutputText) else some testOutput

/-- What reading a test case leaves: the case, the default options, and the rest of the lines. -/
abbrev CaseReading := TestCase × Finset (List Char) × List (List Char)

/-- `readNextTestCase`, after the test cases that end with `previous`; no case at the end of the stream. -/
def readNextTestCase (registeredOptions defaultOptions : Finset (List Char)) (previous : Option TestCase)
    (lines : List (List Char)) : Option (Option CaseReading) :=
  let (comments, lines) := readWhile isLeading lines
  if lines = [] then some none
  else do
    let (optionText, (options, defaults), lines) ← readOptionLines registeredOptions (∅, ∅) lines
    let defaultOptions := if defaults = ∅ then defaultOptions else defaults
    match lines with
    | [] => none
    | line :: lines =>
      let (testInput, lines) := readWhile (!isInputOutputSeparator ·) lines
      let (testOutput, lines) := readWhile (!isTestCaseSeparator ·) lines.tail
      let expected ← expectedOutput previous testOutput
      some <| some
        (⟨comments ++ optionText, line ++ testInput, expected, options ∪ defaultOptions, []⟩, defaultOptions,
          lines.tail)

/-- `populateTestCases`, for at most so many cases. -/
def populateTestCases (registeredOptions : Finset (List Char)) :
    Nat → Finset (List Char) → List TestCase → List (List Char) → Option (List TestCase)
  | 0, _, _, _ => none
  | fuel + 1, defaultOptions, testCases, lines => do
    match ← readNextTestCase registeredOptions defaultOptions testCases.getLast? lines with
    | none => some testCases
    | some (testCase, defaultOptions, lines) =>
      if isBlank testCase.inputText then none
      else populateTestCases registeredOptions fuel defaultOptions (testCases ++ [testCase]) lines

/-- All test cases of a stream. -/
def readTestCases (registeredOptions : Finset (List Char)) (text : List Char) : Option (List TestCase) :=
  populateTestCases registeredOptions ((getLines isEof text).length + 1) ∅ [] (getLines isEof text)

/-! ## Running and writing -/

/-- A `TextBasedTestRunner` with a state: `runTestCase` puts out a text for an input and options. -/
abbrev Runner (σ : Type) := σ → List Char → Finset (List Char) → List Char × σ

/-- The test cases are run one after the other, each in the state that the ones before have left. -/
def runTestCases {σ : Type} (runTestCase : Runner σ) (state : σ) : List TestCase → List TestCase
  | [] => []
  | testCase :: testCases =>
    let (output, state) := runTestCase state testCase.inputText testCase.options
    { testCase with actualOutputText := output } :: runTestCases runTestCase state testCases

/-- What is written as the output of a case behind the case `previous`. -/
def writeOutput (previous : Option TestCase) (testCase : TestCase) : List Char :=
  if previous.any fun previous => testCase.actualOutputText = previous.actualOutputText then
    sameAsAboveString ++ ['\n']
  else testCase.actualOutputText

/-- The loop of `writeActualOutput`, behind the case `previous`. -/
def writeCases (previous : Option TestCase) : List TestCase → List Char
  | [] => []
  | testCase :: testCases =>
    (if previous.isSome then ['=', '=', '\n'] else []) ++ testCase.precedingText ++ testCase.inputText ++
      ['-', '-', '\n'] ++ writeOutput previous testCase ++ writeCases (some testCase) testCases

def writeActualOutput (testCases : List TestCase) : List Char := writeCases none testCases

/-! ## The loops -/

section Loops

variable {isSuch : List Char → Bool} {lines lines' rest : List (List Char)} {text : List Char}
  {registeredOptions defaultOptions : Finset (List Char)} {options options' : Options}

theorem readWhile_append (such : ∀ line ∈ lines, isSuch line = true) (stops : ∀ line ∈ rest.head?, isSuch line = false) :
    readWhile isSuch (lines ++ rest) = (lines.flatten, rest) := by
  induction lines with
  | nil =>
    cases rest with
    | nil => rfl
    | cons line rest =>
      have other : isSuch line = false := stops line rfl
      simp [readWhile, other]
  | cons line lines ih =>
    obtain ⟨first, others⟩ := List.forall_mem_cons.mp such
    simp [readWhile, first, ih others]

theorem readWhile_spec (isSuch : List Char → Bool) (lines : List (List Char)) :
    ∃ read, lines = read ++ (readWhile isSuch lines).2 ∧ (readWhile isSuch lines).1 = read.flatten ∧
      (∀ line ∈ read, isSuch line = true) ∧ ∀ line ∈ (readWhile isSuch lines).2.head?, isSuch line = false := by
  induction lines with
  | nil => exact ⟨[], rfl, rfl, nofun, nofun⟩
  | cons line lines ih =>
    obtain ⟨read, split, flat, such, stops⟩ := ih
    cases first : isSuch line with
    | true =>
      refine ⟨line :: read, ?_, ?_, List.forall_mem_cons.mpr ⟨first, such⟩, ?_⟩
      · simpa [readWhile, first] using split
      · simp [readWhile, first, flat]
      · simpa [readWhile, first] using stops
    | false =>
      refine ⟨[], ?_, ?_, nofun, ?_⟩
      · simp [readWhile, first]
      · simp [readWhile, first]
      · simp [readWhile, first]

/-- The loop over the options stops at these lines. -/
def StopsOptions (lines : List (List Char)) : Prop := ∀ line ∈ lines.head?, line.head? ≠ some '[' ∧ isBlank line = false

theorem readOptionLines_of_stops (stops : StopsOptions rest) :
    readOptionLines registeredOptions options rest = some ([], options, rest) := by
  cases rest with
  | nil => rfl
  | cons line rest =>
    obtain ⟨noBracket, notBlank⟩ := stops line rfl
    simp [readOptionLines, noBracket, notBlank]

/-- The lines with options are read the same way before any line that stops the loop. -/
theorem readOptionLines_spec
    (read : readOptionLines registeredOptions options lines = some (text, options', rest)) :
    ∃ optionLines, lines = optionLines ++ rest ∧ text = optionLines.flatten ∧ StopsOptions rest ∧
      ∀ rest', StopsOptions rest' →
        readOptionLines registeredOptions options (optionLines ++ rest') = some (text, options', rest') := by
  induction lines generalizing options text with
  | nil =>
    cases read
    exact ⟨[], rfl, rfl, nofun, fun rest' stops => readOptionLines_of_stops stops⟩
  | cons line lines ih =>
    rw [readOptionLines] at read
    split at read
    · next bracket =>
      simp only [Option.bind_eq_bind, Option.bind_eq_some_iff] at read
      obtain ⟨options₁, first, ⟨text, options₂, rest₁⟩, more, same⟩ := read
      cases same
      obtain ⟨optionLines, rfl, rfl, stops, again⟩ := ih more
      refine ⟨line :: optionLines, rfl, rfl, stops, fun rest' stops' => ?_⟩
      simp [readOptionLines, bracket, first, again rest' stops']
    · next noBracket =>
      split at read
      · next blank =>
        simp only [Option.bind_eq_bind, Option.bind_eq_some_iff] at read
        obtain ⟨⟨text, options₂, rest₁⟩, more, same⟩ := read
        cases same
        obtain ⟨optionLines, rfl, rfl, stops, again⟩ := ih more
        refine ⟨line :: optionLines, rfl, rfl, stops, fun rest' stops' => ?_⟩
        simp [readOptionLines, noBracket, blank, again rest' stops']
      · next notBlank =>
        cases read
        refine ⟨[], rfl, rfl, ?_, fun rest' stops => readOptionLines_of_stops stops⟩
        rintro _ ⟨⟩
        exact ⟨noBracket, Bool.eq_false_iff.mpr notBlank⟩

end Loops

/-! ## Reading a case again -/

section Cases

variable {registeredOptions defaultOptions defaultOptions' : Finset (List Char)} {previous : Option TestCase}
  {testCase : TestCase} {lines rest : List (List Char)}

/-- **A case that was read** is read again from its lines with any output behind them. -/
theorem readNextTestCase_spec
    (read : readNextTestCase registeredOptions defaultOptions previous lines =
      some (some (testCase, defaultOptions', rest))) :
    ∃ caseLines behind, lines = caseLines ++ (behind ++ rest) ∧
      caseLines.flatten = testCase.precedingText ++ testCase.inputText ∧ testCase.actualOutputText = [] ∧
      ∀ previous' separator outputLines stop, isInputOutputSeparator separator = true →
        (∀ line ∈ outputLines, isTestCaseSeparator line = false) →
        (∀ line ∈ stop.head?, isTestCaseSeparator line = true) →
        readNextTestCase registeredOptions defaultOptions previous'
            (caseLines ++ separator :: (outputLines ++ stop)) =
          (expectedOutput previous' outputLines.flatten).map fun expected =>
            some ({ testCase with expectedOutputText := expected }, defaultOptions', stop.tail) := by
  obtain ⟨comments, split, commentText, leading, notLeading⟩ := readWhile_spec isLeading lines
  unfold readNextTestCase at read
  dsimp only at read
  split at read
  · cases read
  · simp only [Option.bind_eq_bind, Option.bind_eq_some_iff] at read
    obtain ⟨⟨optionText, ⟨options, defaults⟩, lines₁⟩, readOptions, read⟩ := read
    obtain ⟨optionLines, split₁, rfl, stops, again⟩ := readOptionLines_spec readOptions
    cases lines₁ with
    | nil => cases read
    | cons line lines₂ =>
      obtain ⟨inputLines, split₂, inputText, isInput, -⟩ := readWhile_spec (!isInputOutputSeparator ·) lines₂
      simp only [Option.bind_eq_some_iff] at read
      obtain ⟨expected, -, same⟩ := read
      cases same
      obtain ⟨outputs, split₃, -, -, -⟩ := readWhile_spec (!isTestCaseSeparator ·)
        (readWhile (!isInputOutputSeparator ·) lines₂).2.tail
      generalize (readWhile (!isInputOutputSeparator ·) lines₂).2 = fromSeparator at split₂ split₃
      generalize (readWhile (!isTestCaseSeparator ·) fromSeparator.tail).2 = fromStop at split₃
      refine ⟨comments ++ (optionLines ++ line :: inputLines),
        fromSeparator.take 1 ++ (outputs ++ fromStop.take 1), ?_, ?_, rfl, ?_⟩
      · rw [split, split₁, split₂]
        have separated := List.take_append_drop 1 fromSeparator
        have stopped := List.take_append_drop 1 fromStop
        rw [List.drop_one] at separated stopped
        conv_lhs => rw [← separated, split₃, ← stopped]
        simp only [List.append_assoc, List.cons_append]
      · rw [commentText, inputText]
        simp only [List.flatten_append, List.flatten_cons, List.append_assoc]
      · intro previous' separator outputLines stop isSeparator isOutput isStop
        have notLeading' : ∀ l ∈ (optionLines ++ line :: (inputLines ++ separator :: (outputLines ++ stop))).head?,
            isLeading l = false := by
          rw [split₁] at notLeading
          cases optionLines with
          | nil => exact notLeading
          | cons => exact notLeading
        have first := readWhile_append leading notLeading'
        have options := again (line :: (inputLines ++ separator :: (outputLines ++ stop))) stops
        have input : readWhile (!isInputOutputSeparator ·) (inputLines ++ separator :: (outputLines ++ stop)) =
            (inputLines.flatten, separator :: (outputLines ++ stop)) :=
          readWhile_append isInput (by simpa using isSeparator)
        have output : readWhile (!isTestCaseSeparator ·) (outputLines ++ stop) = (outputLines.flatten, stop) :=
          readWhile_append (by simpa using isOutput) (by simpa using isStop)
        unfold readNextTestCase
        simp only [List.append_assoc, List.cons_append, first]
        rw [if_neg (by simp), options, commentText]
        simp only [Option.bind_eq_bind, Option.bind_some, input, List.tail_cons, output, inputText]
        cases expectedOutput previous' outputLines.flatten <;> rfl

theorem readNextTestCase_nil :
    readNextTestCase registeredOptions defaultOptions previous [] = some none := rfl

end Cases

/-! ## Writing cases and reading them again -/

section RoundTrip

/-- An output that can be written: it has an end of its last line, none of its lines is a separator of cases, it
is not the text that stands for the output above, and does not have the character that is taken for the end. -/
structure Writable (output : List Char) : Prop where
  goes : ∀ c ∈ output, isEof c = false
  ends : output = [] ∨ EndsLine output
  noSeparator : ∀ line ∈ getLines isEof output, isTestCaseSeparator line = false
  notShortened : sameAsAboveString.isPrefixOf output = false

/-- The case that expects what this one has put out, and is not run yet. -/
def TestCase.passed (testCase : TestCase) : TestCase :=
  { testCase with expectedOutputText := testCase.actualOutputText, actualOutputText := [] }

/-- The cases behind a separator. -/
def writeBody (previous : Option TestCase) : List TestCase → List Char
  | [] => []
  | testCase :: testCases =>
    testCase.precedingText ++ testCase.inputText ++ ['-', '-', '\n'] ++ writeOutput previous testCase ++
      writeCases (some testCase) testCases

variable {σ : Type} {runTestCase : Runner σ} {registeredOptions : Finset (List Char)}
  {previous last : Option TestCase} {testCase : TestCase} {testCases : List TestCase} {text : List Char}

/-- The separators are lines. -/
theorem firstLine_separator {c : Char} (notFeed : c ≠ '\n') (notReturn : c ≠ '\r') (goes : isEof c = false)
    (text : List Char) : FirstLine isEof [c, c, '\n'] text :=
  .cons notFeed notReturn goes (.cons notFeed notReturn goes (.lineFeed text))

/-- The lines behind a case start with a separator, if there are any. -/
theorem getLines_writeCases : getLines isEof (writeCases (some testCase) testCases) =
    if testCases = [] then [] else ['=', '=', '\n'] :: getLines isEof (writeBody (some testCase) testCases) := by
  cases testCases with
  | nil => rfl
  | cons next testCases =>
    have separator := firstLine_separator (c := '=') (by decide) (by decide) (by decide)
      (writeBody (some testCase) (next :: testCases))
    rw [if_neg (List.cons_ne_nil _ _), ← separator.getLines_append]
    simp only [writeCases, writeBody, Option.isSome_some, if_true, List.append_assoc]

theorem isTestCaseSeparator_head : ∀ line ∈ (getLines isEof (writeCases (some testCase) testCases)).head?,
    isTestCaseSeparator line = true := by
  rw [getLines_writeCases]
  split
  · exact nofun
  · rintro _ ⟨⟩
    rfl

theorem tail_getLines_writeCases : (getLines isEof (writeCases (some testCase) testCases)).tail =
    getLines isEof (writeBody (some testCase) testCases) := by
  rw [getLines_writeCases]
  split
  · next isEmpty =>
    rw [isEmpty]
    rfl
  · rfl

theorem head?_writeCases : (writeCases (some testCase) testCases).head? ≠ some '\n' := by
  cases testCases <;> simp [writeCases]

/-- What is written as an output is read as the output, behind the same case. -/
theorem writeOutput_spec (writable : Writable testCase.actualOutputText)
    (same : last.map (·.expectedOutputText) = previous.map (·.actualOutputText)) (noFeed : text.head? ≠ some '\n') :
    ∃ outputLines, getLines isEof (writeOutput previous testCase ++ text) = outputLines ++ getLines isEof text ∧
      (∀ line ∈ outputLines, isTestCaseSeparator line = false) ∧
      expectedOutput last outputLines.flatten = some testCase.actualOutputText := by
  unfold writeOutput
  split
  · next shortened =>
    obtain ⟨above, rfl, equal⟩ := (Option.any_eq_true _ _).mp shortened
    refine ⟨[sameAsAboveString ++ ['\n']], ?_, ?_, ?_⟩
    · refine getLines_append ?_ (.inr (.inl rfl)) noFeed
      simp [sameAsAboveString, isEof]
    · decide
    · rw [expectedOutput, if_pos (by decide), same, Option.map_some, of_decide_eq_true equal]
  · refine ⟨getLines isEof testCase.actualOutputText, getLines_append writable.goes writable.ends noFeed,
      writable.noSeparator, ?_⟩
    rw [flatten_getLines writable.goes, expectedOutput, if_neg (by simp [writable.notShortened])]

/-- The lines of a case that is written are those that it was read from, a separator and the output. -/
theorem getLines_writeBody {caseLines outputLines : List (List Char)}
    (flat : caseLines.flatten = testCase.precedingText ++ testCase.inputText) (firsts : FirstLines isEof caseLines text)
    (ends : EndsLine testCase.inputText)
    (readOutput : getLines isEof (writeOutput previous testCase ++ writeCases (some testCase) testCases) =
      outputLines ++ getLines isEof (writeCases (some testCase) testCases)) :
    getLines isEof (writeBody previous (testCase :: testCases)) =
      caseLines ++ ['-', '-', '\n'] ::
        (outputLines ++ getLines isEof (writeCases (some testCase) testCases)) := by
  have closed : EndsLine caseLines.flatten := by
    have nonempty : testCase.inputText ≠ [] := by
      intro isEmpty
      simp [EndsLine, isEmpty] at ends
    unfold EndsLine
    rwa [flat, List.getLast?_append_of_ne_nil _ nonempty]
  have separator := firstLine_separator (c := '-') (by decide) (by decide) (by decide)
    (writeOutput previous testCase ++ writeCases (some testCase) testCases)
  have before : FirstLines isEof caseLines
      (['-', '-', '\n'] ++ (writeOutput previous testCase ++ writeCases (some testCase) testCases)) :=
    firsts.before (.inr closed) (by simp)
  rw [← readOutput, ← separator.getLines_append, ← before.getLines_append, flat]
  simp only [writeBody, List.append_assoc]

variable (runTestCase) in
/-- **Cases that were read**, run and written are read again, with what they put out as their expected output. -/
theorem populateTestCases_write {fuel : Nat} {defaultOptions : Finset (List Char)} {before all : List TestCase}
    (read : populateTestCases registeredOptions fuel defaultOptions before (getLines isEof text) = some all) :
    ∃ new, all = before ++ new ∧
      ((∀ c ∈ new, EndsLine c.inputText) → ∀ state,
        (∀ c ∈ runTestCases runTestCase state new, Writable c.actualOutputText) →
        ∀ previous before' fuel',
          before'.getLast?.map (·.expectedOutputText) = previous.map (·.actualOutputText) →
          (getLines isEof (writeBody previous (runTestCases runTestCase state new))).length < fuel' →
          populateTestCases registeredOptions fuel' defaultOptions before'
              (getLines isEof (writeBody previous (runTestCases runTestCase state new))) =
            some (before' ++ (runTestCases runTestCase state new).map (·.passed))) := by
  induction fuel generalizing defaultOptions before text with
  | zero => cases read
  | succ fuel ih =>
    rw [populateTestCases] at read
    simp only [Option.bind_eq_bind, Option.bind_eq_some_iff] at read
    obtain ⟨reading, next, read⟩ := read
    cases reading with
    | none =>
      cases read
      refine ⟨[], (List.append_nil _).symm, fun _ state _ previous before' fuel' _ enough => ?_⟩
      obtain ⟨fuel', rfl⟩ := Nat.exists_eq_add_of_lt enough
      simp [populateTestCases, runTestCases, writeBody, getLines, readNextTestCase_nil]
    | some reading =>
      obtain ⟨c, defaultOptions', rest⟩ := reading
      dsimp only at read
      split at read
      · cases read
      · next notBlank =>
        obtain ⟨caseLines, behind, split, flat, fresh, again⟩ := readNextTestCase_spec next
        obtain ⟨behindText, -, firsts, readBehind⟩ := exists_firstLines split
        obtain ⟨restText, -, -, readRest⟩ := exists_firstLines readBehind
        rw [← readRest] at read
        obtain ⟨new, rfl, later⟩ := ih read
        refine ⟨c :: new, by simp, fun closed state outputs previous before' fuel' same enough => ?_⟩
        obtain ⟨ends, closed⟩ := List.forall_mem_cons.mp closed
        obtain ⟨output, state', put⟩ : ∃ output state', runTestCase state c.inputText c.options = (output, state') :=
          ⟨_, _, rfl⟩
        have ran : runTestCases runTestCase state (c :: new) =
            { c with actualOutputText := output } :: runTestCases runTestCase state' new := by
          rw [runTestCases, put]
        rw [ran] at outputs enough ⊢
        obtain ⟨writable, others⟩ := List.forall_mem_cons.mp outputs
        obtain ⟨outputLines, readOutput, isOutput, expected⟩ := writeOutput_spec writable same
          (head?_writeCases : (writeCases (some { c with actualOutputText := output })
            (runTestCases runTestCase state' new)).head? ≠ some '\n')
        have body : getLines isEof (writeBody previous ({ c with actualOutputText := output } ::
            runTestCases runTestCase state' new)) = _ :=
          getLines_writeBody flat firsts ends readOutput
        have step := again before'.getLast? ['-', '-', '\n'] outputLines
          (getLines isEof (writeCases (some { c with actualOutputText := output })
            (runTestCases runTestCase state' new))) (by decide) isOutput isTestCaseSeparator_head
        rw [expected, Option.map_some, tail_getLines_writeCases] at step
        rw [body] at enough ⊢
        obtain ⟨fuel', rfl⟩ := Nat.exists_eq_add_of_lt enough
        rw [populateTestCases, step]
        simp only [Option.bind_eq_bind, Option.bind_some, if_neg notBlank]
        have shorter : (getLines isEof (writeBody (some { c with actualOutputText := output })
            (runTestCases runTestCase state' new))).length <
            (caseLines ++ ['-', '-', '\n'] :: (outputLines ++ getLines isEof
              (writeCases (some { c with actualOutputText := output })
                (runTestCases runTestCase state' new)))).length + fuel' := by
          rw [← tail_getLines_writeCases, List.length_tail]
          simp only [List.length_append, List.length_cons]
          omega
        have rest := later closed state' others (some { c with actualOutputText := output })
          (before' ++ [{ c with expectedOutputText := output }]) _ (by simp) shorter
        refine rest.trans ?_
        simp [TestCase.passed, fresh]

/-- **The text that is written** reads as the same cases again, with what they have put out as their expected
output. An input without the end of its last line would run into the separator that is written behind it. -/
theorem readTestCases_writeActualOutput (runTestCase : Runner σ) (state : σ)
    (read : readTestCases registeredOptions text = some testCases)
    (closed : ∀ c ∈ testCases, EndsLine c.inputText)
    (outputs : ∀ c ∈ runTestCases runTestCase state testCases, Writable c.actualOutputText) :
    readTestCases registeredOptions (writeActualOutput (runTestCases runTestCase state testCases)) =
      some ((runTestCases runTestCase state testCases).map (·.passed)) := by
  obtain ⟨new, same, again⟩ := populateTestCases_write runTestCase read
  obtain rfl : testCases = new := same
  have written (cases : List TestCase) : writeActualOutput cases = writeBody none cases := by
    cases cases <;> simp [writeActualOutput, writeCases, writeBody]
  rw [readTestCases, written]
  exact again closed state outputs none [] _ rfl (Nat.lt_succ_self _)

/-- The runner puts out the number of the case, up to two: the third output is written in the shorter way, and
read again. -/
theorem readTestCases_writeActualOutput_sameAsAbove :
    let count := fun (n : Nat) (_ : List Char) (_ : Finset (List Char)) =>
      ([if n = 0 then '1' else '2', '\n'], n + 1)
    let text := ['#', '\n', '1', '\n', '-', '-', '\n', '=', '=', '\n', '2', '\n', '-', '-', '\n', '4', '\n',
      '=', '=', '\n', '3', '\n']
    ∃ testCases, readTestCases ∅ text = some testCases ∧ testCases.length = 3 ∧
      writeActualOutput (runTestCases count 0 testCases) =
        ['#', '\n', '1', '\n', '-', '-', '\n', '1', '\n', '=', '=', '\n', '2', '\n', '-', '-', '\n',
          '2', '\n', '=', '=', '\n', '3', '\n', '-', '-', '\n'] ++ sameAsAboveString ++ ['\n'] ∧
      readTestCases ∅ (writeActualOutput (runTestCases count 0 testCases)) =
        some ((runTestCases count 0 testCases).map (·.passed)) := by
  intro count text
  have read : readTestCases ∅ text = some [⟨['#', '\n'], ['1', '\n'], [], ∅, []⟩,
      ⟨[], ['2', '\n'], ['4', '\n'], ∅, []⟩, ⟨[], ['3', '\n'], [], ∅, []⟩] := rfl
  refine ⟨_, read, rfl, rfl, ?_⟩
  apply readTestCases_writeActualOutput count 0 read
  · simp [EndsLine]
  · intro c ran
    have output : c.actualOutputText = ['1', '\n'] ∨ c.actualOutputText = ['2', '\n'] := by
      simp only [runTestCases, count, List.mem_cons, List.not_mem_nil, or_false] at ran
      rcases ran with rfl | rfl | rfl <;> simp
    rcases output with output | output <;> rw [output] <;>
      exact ⟨by simp [isEof], .inr (.inl rfl), by decide, by decide⟩

end RoundTrip

end Quickstep.Utility
