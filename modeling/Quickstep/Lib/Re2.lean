import Mathlib.Computability.Language

/-!
# Regular expressions in RE2's syntax

Literals, escaped punctuation, dots, groups, alternatives and stars over ASCII, read by a machine
with a stack of open groups. Their meaning is a language. Everything else of the syntax is refused.
-/

namespace Quickstep.Lib.Re2
open Computability

def byte (c : Char) : BitVec 8 := BitVec.ofNat 8 c.toNat

def isAscii (c : BitVec 8) : Bool := c.toNat < 128

def isAlphanumeric (c : BitVec 8) : Bool :=
  (byte 'a' ≤ c && c ≤ byte 'z') || (byte 'A' ≤ c && c ≤ byte 'Z') ||
    (byte '0' ≤ c && c ≤ byte '9')

def isWordChar (c : BitVec 8) : Bool := isAlphanumeric c || c == byte '_'

inductive Regexp where
  | emptyMatch
  | literal (c : BitVec 8)
  | anyCharNotNewline
  | concat (first second : Regexp)
  | alternate (first second : Regexp)
  | star (sub : Regexp)
  deriving DecidableEq, Repr

/-- The texts that match as a whole. A dot stands for no byte of a longer encoded character. -/
def Regexp.language : Regexp → Language (BitVec 8)
  | emptyMatch => 1
  | literal c => {[c]}
  | anyCharNotNewline => {text | ∃ c, isAscii c = true ∧ c ≠ byte '\n' ∧ text = [c]}
  | concat first second => first.language * second.language
  | alternate first second => first.language + second.language
  | star sub => sub.language∗

/-! ## The parser -/

/-- A group while it is read: the alternatives before the last `|`, if any, and the items since
then, the latest one first. -/
structure Group where
  alternatives : Option Regexp
  items : List Regexp
  deriving DecidableEq, Repr

namespace Group

/-- The items in a row. -/
def concatenation : List Regexp → Regexp
  | [] => .emptyMatch
  | last :: before => .concat (concatenation before) last

/-- The group as one item, once it is closed. -/
def close (group : Group) : Regexp :=
  match group.alternatives with
  | none => concatenation group.items
  | some alternatives => .alternate alternatives (concatenation group.items)

def push (group : Group) (item : Regexp) : Group := { group with items := item :: group.items }

end Group

/-- The group that is open, those around it from the inside, and whether a backslash was read. -/
structure ParserState where
  current : Group
  enclosing : List Group
  escaped : Bool
  deriving DecidableEq, Repr

namespace ParserState

def start : ParserState := ⟨⟨none, []⟩, [], false⟩

def push (state : ParserState) (item : Regexp) : ParserState :=
  { state with current := state.current.push item, escaped := false }

/-- A star applies to the item before it, which has to be there without a star of its own. -/
def repeatLast (state : ParserState) : Option ParserState :=
  match state.current.items with
  | [] | .star _ :: _ => none
  | last :: before => some { state with current := ⟨state.current.alternatives, .star last :: before⟩ }

/-- The metacharacters that are refused. -/
def unsupported : List (BitVec 8) := ['[', ']', '{', '}', '+', '?', '^', '$'].map byte

/-- Reads one character. -/
def step (state : ParserState) (c : BitVec 8) : Option ParserState :=
  if !isAscii c then none
  else if state.escaped then if isWordChar c then none else some (state.push (.literal c))
  else if c = byte '\\' then some { state with escaped := true }
  else if c = byte '(' then some ⟨⟨none, []⟩, state.current :: state.enclosing, false⟩
  else if c = byte ')' then
    match state.enclosing with
    | [] => none
    | group :: enclosing => some ⟨group.push state.current.close, enclosing, false⟩
  else if c = byte '|' then some { state with current := ⟨some state.current.close, []⟩ }
  else if c = byte '*' then state.repeatLast
  else if c = byte '.' then some (state.push .anyCharNotNewline)
  else if unsupported.contains c then none
  else some (state.push (.literal c))

def run (state : ParserState) : List (BitVec 8) → Option ParserState
  | [] => some state
  | c :: pattern => state.step c >>= fun next => next.run pattern

end ParserState

/-- The regular expression that a pattern stands for. -/
def parse (pattern : List (BitVec 8)) : Option Regexp :=
  (ParserState.start.run pattern).bind fun state =>
    if state.enclosing = [] ∧ state.escaped = false then some state.current.close else none

/-- `RE2::FullMatch`. -/
def FullMatch (text pattern : List (BitVec 8)) : Prop :=
  ∃ regexp, parse pattern = some regexp ∧ text ∈ regexp.language

/-! ## Rules -/

namespace ParserState

theorem run_append (state : ParserState) (pattern more : List (BitVec 8)) :
    state.run (pattern ++ more) = (state.run pattern).bind fun next => next.run more := by
  induction pattern generalizing state with
  | nil => rfl
  | cons c pattern ih =>
    show (state.step c).bind _ = ((state.step c).bind _).bind _
    rw [Option.bind_assoc]
    congr 1
    funext next
    exact ih next

/-- A backslash before punctuation makes it a literal. -/
theorem run_escaped {c : BitVec 8} (ascii : isAscii c = true) (notWord : isWordChar c = false)
    {state : ParserState} (notEscaped : state.escaped = false) :
    state.run [byte '\\', c] = some (state.push (.literal c)) := by
  have backslash : state.step (byte '\\') = some { state with escaped := true } := by
    unfold step
    rw [notEscaped]
    rfl
  have punctuation : ({ state with escaped := true } : ParserState).step c =
      some (state.push (.literal c)) := by
    unfold step
    simp [ascii, notWord, push]
  unfold run
  rw [backslash]
  show (ParserState.step _ c).bind _ = _
  rw [punctuation]
  rfl

/-- Letters and digits stand for themselves. -/
theorem run_alphanumeric {c : BitVec 8} (alphanumeric : isAlphanumeric c = true)
    {state : ParserState} (notEscaped : state.escaped = false) :
    state.run [c] = some (state.push (.literal c)) := by
  have plain : ∀ c : BitVec 8, isAlphanumeric c = true → isAscii c = true ∧
      c ∉ [byte '\\', byte '(', byte ')', byte '|', byte '*', byte '.'] ∧ c ∉ unsupported := by
    decide
  obtain ⟨ascii, notMeta, supported⟩ := plain c alphanumeric
  simp only [List.mem_cons, List.not_mem_nil, or_false, not_or] at notMeta
  obtain ⟨_, _, _, _, _, _⟩ := notMeta
  have stepped : state.step c = some (state.push (.literal c)) := by
    unfold step
    simp [*]
  unfold run
  rw [stepped]
  rfl

end ParserState

/-- A row of items matches the texts that are cut into one part for each of them. -/
theorem language_concatenation (items : List Regexp) :
    (Group.concatenation items).language = (items.reverse.map Regexp.language).prod := by
  induction items with
  | nil => rfl
  | cons last before ih =>
    rw [List.reverse_cons, List.map_append, List.prod_append, ← ih, List.map_singleton,
      List.prod_singleton]
    rfl

end Quickstep.Lib.Re2
