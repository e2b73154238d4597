import Mathlib.Data.List.Basic

/-!
# Lines of a text

A text is read line by line. A line ends with a line feed, with a carriage return, or with both, and keeps
its end; the last line may have none. A text ends where a character says so.
-/

namespace Quickstep.Lib

variable (stop : Char → Bool)

/-- The lines of a text. -/
def getLines : List Char → List (List Char)
  | [] => []
  | c :: rest =>
    if c = '\n' then [c] :: getLines rest
    else if c = '\r' then
      match rest with
      | [] => [[c]]
      | next :: rest' => if next = '\n' then [c, next] :: getLines rest' else [c] :: getLines (next :: rest')
    else if stop c then []
    else
      match getLines rest with
      | [] => [[c]]
      | line :: lines => (c :: line) :: lines

/-- A line at the front of a text, and what is behind it. -/
inductive FirstLine : List Char → List Char → Prop
  | lineFeed (rest : List Char) : FirstLine ['\n'] rest
  | carriageReturn {rest : List Char} : rest.head? ≠ some '\n' → FirstLine ['\r'] rest
  | both (rest : List Char) : FirstLine ['\r', '\n'] rest
  | unterminated {c : Char} {rest : List Char} : c ≠ '\n' → c ≠ '\r' → stop c = false →
      getLines stop rest = [] → FirstLine [c] rest
  | cons {c : Char} {line rest : List Char} : c ≠ '\n' → c ≠ '\r' → stop c = false →
      FirstLine line rest → FirstLine (c :: line) rest

/-- The text ends with the end of a line. -/
def EndsLine (text : List Char) : Prop := text.getLast? = some '\n' ∨ text.getLast? = some '\r'

variable {stop} {line text rest rest' : List Char} {lines lines' : List (List Char)}

theorem getLines_cons (c : Char) (rest : List Char) : getLines stop (c :: rest) =
    if c = '\n' then [c] :: getLines stop rest
    else if c = '\r' then
      if rest.head? = some '\n' then [c, '\n'] :: getLines stop rest.tail else [c] :: getLines stop rest
    else if stop c then []
    else [((getLines stop rest).head?.getD []).cons c] ++ (getLines stop rest).tail := by
  rw [getLines.eq_def]
  dsimp only
  split
  · rfl
  · split
    · cases rest with
      | nil => simp [getLines]
      | cons next rest =>
        by_cases isFeed : next = '\n' <;> simp [isFeed]
    · split
      · rfl
      · cases getLines stop rest <;> rfl

theorem FirstLine.ne_nil (first : FirstLine stop line rest) : line ≠ [] := by
  cases first <;> exact List.cons_ne_nil _ _

/-- A first line is read. -/
theorem FirstLine.getLines_append (first : FirstLine stop line rest) :
    getLines stop (line ++ rest) = line :: getLines stop rest := by
  induction first with
  | lineFeed rest => simp [getLines_cons]
  | carriageReturn other => simp [getLines_cons, other]
  | both rest => simp [getLines_cons]
  | unterminated notFeed notReturn goes isLast => simp [getLines_cons, notFeed, notReturn, goes, isLast]
  | cons notFeed notReturn goes _ ih => simp [getLines_cons, notFeed, notReturn, goes, ih]

/-- What is read first is a first line. -/
theorem exists_firstLine (read : getLines stop text = line :: lines) :
    ∃ rest, text = line ++ rest ∧ FirstLine stop line rest ∧ getLines stop rest = lines := by
  induction text generalizing line lines with
  | nil => cases read
  | cons c rest ih =>
    rw [getLines_cons] at read
    split at read
    · next isFeed =>
      cases read
      exact ⟨rest, rfl, isFeed ▸ .lineFeed rest, rfl⟩
    · next notFeed =>
      split at read
      · next isReturn =>
        subst isReturn
        split at read
        · next isFeed =>
          obtain ⟨rest', rfl⟩ := List.head?_eq_some_iff.mp isFeed
          cases read
          exact ⟨rest', rfl, .both rest', rfl⟩
        · next other =>
          cases read
          exact ⟨rest, rfl, .carriageReturn other, rfl⟩
      · next notReturn =>
        split at read
        · cases read
        · next goes =>
          have goes := Bool.eq_false_iff.mpr goes
          cases more : getLines stop rest with
          | nil =>
            rw [more] at read
            cases read
            exact ⟨rest, rfl, .unterminated notFeed notReturn goes more, more⟩
          | cons line' lines' =>
            rw [more] at read
            cases read
            obtain ⟨rest', rfl, first, read'⟩ := ih more
            exact ⟨rest', rfl, .cons notFeed notReturn goes first, read'⟩

/-- Lines at the front of a text, and what is behind them. -/
def FirstLines (stop : Char → Bool) : List (List Char) → List Char → Prop
  | [], _ => True
  | line :: lines, rest => FirstLine stop line (lines.flatten ++ rest) ∧ FirstLines stop lines rest

theorem FirstLines.getLines_append (first : FirstLines stop lines rest) :
    getLines stop (lines.flatten ++ rest) = lines ++ getLines stop rest := by
  induction lines with
  | nil => rfl
  | cons line lines ih =>
    rw [List.flatten_cons, List.append_assoc, first.1.getLines_append, ih first.2, List.cons_append]

theorem exists_firstLines (read : getLines stop text = lines ++ lines') :
    ∃ rest, text = lines.flatten ++ rest ∧ FirstLines stop lines rest ∧ getLines stop rest = lines' := by
  induction lines generalizing text with
  | nil => exact ⟨text, rfl, trivial, read⟩
  | cons line lines ih =>
    obtain ⟨rest, rfl, first, read'⟩ := exists_firstLine read
    obtain ⟨rest', rfl, firsts, read''⟩ := ih read'
    exact ⟨rest', by rw [List.flatten_cons, List.append_assoc], ⟨first, firsts⟩, read''⟩

/-- A line with an end is a line before any text, but a line feed may not follow. -/
theorem FirstLine.before (first : FirstLine stop line rest) (ends : EndsLine line)
    (noFeed : rest'.head? ≠ some '\n') : FirstLine stop line rest' := by
  induction first with
  | lineFeed rest => exact .lineFeed rest'
  | carriageReturn => exact .carriageReturn noFeed
  | both rest => exact .both rest'
  | unterminated notFeed notReturn => simp [EndsLine, notFeed, notReturn] at ends
  | @cons c line rest notFeed notReturn goes first ih =>
    apply FirstLine.cons notFeed notReturn goes
    apply ih
    obtain ⟨c', line', rfl⟩ := List.exists_cons_of_ne_nil first.ne_nil
    simpa [EndsLine, List.getLast?_cons_cons] using ends

/-- A line that is not the last one does not depend on what is behind the others. -/
theorem FirstLine.before_others (first : FirstLine stop line (text ++ rest)) (nonempty : text ≠ [])
    (more : getLines stop (text ++ rest) ≠ []) : FirstLine stop line (text ++ rest') := by
  generalize whole : text ++ rest = behind at first more
  induction first with
  | lineFeed => exact .lineFeed _
  | carriageReturn other =>
    apply FirstLine.carriageReturn
    obtain ⟨c, text', rfl⟩ := List.exists_cons_of_ne_nil nonempty
    subst whole
    simpa using other
  | both => exact .both _
  | unterminated _ _ _ isLast => exact absurd isLast more
  | cons notFeed notReturn goes _ ih => exact .cons notFeed notReturn goes (ih whole more)

theorem FirstLines.flatten_ne_nil (first : FirstLines stop lines rest) (nonempty : lines ≠ []) :
    lines.flatten ≠ [] := by
  obtain ⟨line, lines, rfl⟩ := List.exists_cons_of_ne_nil nonempty
  rw [List.flatten_cons]
  exact List.append_ne_nil_of_left_ne_nil first.1.ne_nil _

/-- **Lines with an end** are lines before any text, but a line feed may not follow. -/
theorem FirstLines.before (first : FirstLines stop lines rest) (ends : lines = [] ∨ EndsLine lines.flatten)
    (noFeed : rest'.head? ≠ some '\n') : FirstLines stop lines rest' := by
  induction lines with
  | nil => trivial
  | cons line lines ih =>
    obtain ⟨first, firsts⟩ := first
    have ends := ends.resolve_left (List.cons_ne_nil _ _)
    by_cases isLast : lines = []
    · subst isLast
      rw [List.flatten_cons, List.flatten_nil, List.append_nil] at ends
      exact ⟨first.before ends noFeed, trivial⟩
    · have nonempty := firsts.flatten_ne_nil isLast
      refine ⟨first.before_others nonempty ?_, ih firsts (.inr ?_)⟩
      · rw [firsts.getLines_append]
        exact List.append_ne_nil_of_left_ne_nil isLast _
      · rw [List.flatten_cons] at ends
        unfold EndsLine at ends ⊢
        rwa [List.getLast?_append_of_ne_nil _ nonempty] at ends

/-- A text that is not at its end has a line. -/
theorem getLines_ne_nil {c : Char} (goes : stop c = false) : getLines stop (c :: rest) ≠ [] := by
  rw [getLines_cons]
  split
  · exact List.cons_ne_nil _ _
  · split
    · split <;> exact List.cons_ne_nil _ _
    · rw [goes]
      exact List.cons_ne_nil _ _

/-- Without a stop the lines are the whole text. -/
theorem flatten_getLines (goes : ∀ c ∈ text, stop c = false) : (getLines stop text).flatten = text := by
  obtain ⟨rest, split, first, atEnd⟩ := exists_firstLines (List.append_nil (getLines stop text)).symm
  have isEmpty : rest = [] := by
    by_contra nonempty
    obtain ⟨c, rest', rfl⟩ := List.exists_cons_of_ne_nil nonempty
    refine getLines_ne_nil (goes c ?_) atEnd
    rw [split]
    exact List.mem_append_right _ List.mem_cons_self
  rw [isEmpty, List.append_nil] at split
  exact split.symm

/-- A text with an end of its last line, and any text behind it. -/
theorem getLines_append (goes : ∀ c ∈ text, stop c = false) (ends : text = [] ∨ EndsLine text)
    (noFeed : rest.head? ≠ some '\n') : getLines stop (text ++ rest) = getLines stop text ++ getLines stop rest := by
  have whole := flatten_getLines goes
  obtain ⟨behind, split, first, -⟩ := exists_firstLines (List.append_nil (getLines stop text)).symm
  have before : FirstLines stop (getLines stop text) rest := by
    apply first.before ?_ noFeed
    rw [whole]
    refine ends.imp (fun isEmpty => ?_) id
    rw [isEmpty]
    rfl
  have read := before.getLines_append
  rwa [whole] at read

end Quickstep.Lib
