import Quickstep.Lib.Re2

/-!
# LIKE patterns

`transformLikeToRegex` turns a LIKE pattern into a regular expression character by character. What
the expression matches is what the pattern says.
-/

namespace Quickstep.Types
open Quickstep.Lib Re2

/-- The characters that one character of the pattern adds. -/
def transformLikeChar (c : BitVec 8) : List (BitVec 8) :=
  if c = byte '_' then ['(', '.', '|', '\n', ')'].map byte
  else if c = byte '%' then ['(', '.', '|', '\n', ')', '*'].map byte
  else if (c.slt (byte 'a') || (byte 'z').slt c) && (c.slt (byte 'A') || (byte 'Z').slt c) &&
      (c.slt (byte '0') || (byte '9').slt c) && c &&& 128 == 0 then [byte '\\', c]
  else [c]

def transformLikeToRegex (likePattern : List (BitVec 8)) : List (BitVec 8) :=
  likePattern.foldl (fun regexPattern c => regexPattern ++ transformLikeChar c) []

/-- What a LIKE pattern says. There is no escape character. -/
inductive LikeMatches : List (BitVec 8) → List (BitVec 8) → Prop where
  | nil : LikeMatches [] []
  | percent {pattern text : List (BitVec 8)} (skipped : List (BitVec 8)) :
    LikeMatches pattern text → LikeMatches (byte '%' :: pattern) (skipped ++ text)
  | underscore {pattern text : List (BitVec 8)} (c : BitVec 8) :
    LikeMatches pattern text → LikeMatches (byte '_' :: pattern) (c :: text)
  | char {pattern text : List (BitVec 8)} {c : BitVec 8} :
    c ≠ byte '%' → c ≠ byte '_' → LikeMatches pattern text →
      LikeMatches (c :: pattern) (c :: text)

/-! ## The expression that is read back -/

/-- Any character, a newline too. -/
def anyChar : Regexp :=
  .alternate (.concat .emptyMatch .anyCharNotNewline) (.concat .emptyMatch (.literal (byte '\n')))

/-- The item that one character of the pattern becomes. -/
def likeItem (c : BitVec 8) : Regexp :=
  if c = byte '_' then anyChar else if c = byte '%' then .star anyChar else .literal c

theorem run_transformLikeChar {c : BitVec 8} (ascii : isAscii c = true) {state : ParserState}
    (notEscaped : state.escaped = false) :
    state.run (transformLikeChar c) = some (state.push (likeItem c)) := by
  obtain ⟨current, enclosing, escaped⟩ := state
  cases notEscaped
  by_cases isUnderscore : c = byte '_'
  · subst isUnderscore
    rfl
  · by_cases isPercent : c = byte '%'
    · subst isPercent
      rfl
    · -- A character that is not alphanumeric gets a backslash.
      have escapes : ∀ c : BitVec 8, isAscii c = true → c ≠ byte '_' → c ≠ byte '%' →
          (isWordChar c = false ∧ transformLikeChar c = [byte '\\', c]) ∨
            (isAlphanumeric c = true ∧ transformLikeChar c = [c]) := by
        decide
      unfold likeItem
      rw [if_neg isUnderscore, if_neg isPercent]
      rcases escapes c ascii isUnderscore isPercent with ⟨notWord, same⟩ | ⟨alphanumeric, same⟩
      · rw [same]
        exact ParserState.run_escaped ascii notWord rfl
      · rw [same]
        exact ParserState.run_alphanumeric alphanumeric rfl

theorem transformLikeToRegex_eq (likePattern : List (BitVec 8)) :
    transformLikeToRegex likePattern = likePattern.flatMap transformLikeChar := by
  have append (before : List (BitVec 8)) :
      likePattern.foldl (fun regexPattern c => regexPattern ++ transformLikeChar c) before =
        before ++ likePattern.flatMap transformLikeChar := by
    induction likePattern generalizing before with
    | nil => exact (List.append_nil before).symm
    | cons c likePattern ih =>
      rw [List.foldl_cons, ih, List.flatMap_cons, List.append_assoc]
  exact append []

/-- Reading the translation pushes one item for each character. -/
theorem run_transformLike {pattern : List (BitVec 8)} (ascii : ∀ c ∈ pattern, isAscii c = true)
    {state : ParserState} (notEscaped : state.escaped = false) :
    state.run (pattern.flatMap transformLikeChar) =
      some { state with current :=
        ⟨state.current.alternatives, (pattern.map likeItem).reverse ++ state.current.items⟩ } := by
  induction pattern generalizing state with
  | nil => rfl
  | cons c pattern ih =>
    obtain ⟨first, rest⟩ := List.forall_mem_cons.mp ascii
    have pushed : (state.push (likeItem c)).escaped = false := rfl
    rw [List.flatMap_cons, ParserState.run_append, run_transformLikeChar first notEscaped,
      Option.bind_some, ih rest pushed, List.map_cons, List.reverse_cons, List.append_assoc]
    obtain ⟨current, enclosing, escaped⟩ := state
    cases notEscaped
    rfl

theorem parse_transformLikeToRegex {pattern : List (BitVec 8)}
    (ascii : ∀ c ∈ pattern, isAscii c = true) :
    parse (transformLikeToRegex pattern) =
      some (Group.concatenation (pattern.map likeItem).reverse) := by
  have read := run_transformLike ascii (rfl : ParserState.start.escaped = false)
  unfold parse
  rw [transformLikeToRegex_eq, read]
  show some (Group.concatenation ((pattern.map likeItem).reverse ++ [])) = _
  rw [List.append_nil]

/-! ## Its language -/

theorem mem_language_anyChar {text : List (BitVec 8)} :
    text ∈ anyChar.language ↔ ∃ c, isAscii c = true ∧ text = [c] := by
  show text ∈ 1 * Regexp.anyCharNotNewline.language + 1 * (Regexp.literal (byte '\n')).language ↔ _
  rw [one_mul, one_mul, Language.mem_add]
  constructor
  · rintro (⟨c, ascii, _, rfl⟩ | isNewline)
    · exact ⟨c, ascii, rfl⟩
    · exact ⟨byte '\n', rfl, isNewline⟩
  · rintro ⟨c, ascii, rfl⟩
    by_cases newline : c = byte '\n'
    · subst newline
      exact .inr rfl
    · exact .inl ⟨c, ascii, newline, rfl⟩

/-- The stars of a translation match every ASCII text. -/
theorem mem_language_star_anyChar {text : List (BitVec 8)} (ascii : ∀ c ∈ text, isAscii c = true) :
    text ∈ (Regexp.star anyChar).language := by
  refine Language.mem_kstar.mpr ⟨text.map fun c => [c], ?_, ?_⟩
  · induction text with
    | nil => rfl
    | cons c text ih =>
      obtain ⟨_, rest⟩ := List.forall_mem_cons.mp ascii
      rw [List.map_cons, List.flatten_cons, ← ih rest]
      rfl
  · intro part isPart
    obtain ⟨c, isChar, rfl⟩ := List.mem_map.mp isPart
    exact mem_language_anyChar.mpr ⟨c, ascii c isChar, rfl⟩

/-- A text of the row's language matches the pattern. -/
theorem likeMatches_of_mem {pattern text : List (BitVec 8)}
    (isText : text ∈ ((pattern.map likeItem).map Regexp.language).prod) :
    LikeMatches pattern text := by
  induction pattern generalizing text with
  | nil =>
    cases isText
    exact .nil
  | cons c pattern ih =>
    rw [List.map_cons, List.map_cons, List.prod_cons] at isText
    obtain ⟨first, isFirst, rest, isRest, rfl⟩ := Language.mem_mul.mp isText
    have restMatches := ih isRest
    unfold likeItem at isFirst
    split at isFirst
    · rename_i isUnderscore
      subst isUnderscore
      obtain ⟨char, _, rfl⟩ := mem_language_anyChar.mp isFirst
      exact .underscore char restMatches
    · rename_i notUnderscore
      split at isFirst
      · rename_i isPercent
        subst isPercent
        exact .percent first restMatches
      · rename_i notPercent
        cases isFirst
        exact .char notPercent notUnderscore restMatches

/-- An ASCII text that matches the pattern is in the row's language. -/
theorem LikeMatches.mem_language {pattern text : List (BitVec 8)}
    (likeMatches : LikeMatches pattern text) (ascii : ∀ c ∈ text, isAscii c = true) :
    text ∈ ((pattern.map likeItem).map Regexp.language).prod := by
  induction likeMatches with
  | nil => exact rfl
  | @percent pattern text skipped _ ih =>
    obtain ⟨skippedAscii, textAscii⟩ := List.forall_mem_append.mp ascii
    exact Language.mem_mul.mpr
      ⟨skipped, mem_language_star_anyChar skippedAscii, text, ih textAscii, rfl⟩
  | @underscore pattern text c _ ih =>
    obtain ⟨charAscii, textAscii⟩ := List.forall_mem_cons.mp ascii
    exact Language.mem_mul.mpr
      ⟨[c], mem_language_anyChar.mpr ⟨c, charAscii, rfl⟩, text, ih textAscii, rfl⟩
  | @char pattern text c notPercent notUnderscore _ ih =>
    obtain ⟨_, textAscii⟩ := List.forall_mem_cons.mp ascii
    have item : likeItem c = .literal c := by
      unfold likeItem
      rw [if_neg notUnderscore, if_neg notPercent]
    rw [List.map_cons, List.map_cons, item]
    exact Language.mem_mul.mpr ⟨[c], rfl, text, ih textAscii, rfl⟩

/-- **The translation is exact.** For every ASCII pattern the expression is one that RE2 reads, and
it matches an ASCII text as a whole when the text matches the pattern. -/
theorem transformLikeToRegex_exact {pattern : List (BitVec 8)}
    (ascii : ∀ c ∈ pattern, isAscii c = true) :
    (parse (transformLikeToRegex pattern)).isSome = true ∧
    ∀ text : List (BitVec 8), (∀ c ∈ text, isAscii c = true) →
      (FullMatch text (transformLikeToRegex pattern) ↔ LikeMatches pattern text) := by
  have parsed := parse_transformLikeToRegex ascii
  have row : (Group.concatenation (pattern.map likeItem).reverse).language =
      ((pattern.map likeItem).map Regexp.language).prod := by
    rw [language_concatenation, List.reverse_reverse]
  constructor
  · rw [parsed]
    rfl
  · intro text textAscii
    unfold FullMatch
    constructor
    · rintro ⟨regexp, isParsed, isText⟩
      rw [parsed] at isParsed
      cases isParsed
      rw [row] at isText
      exact likeMatches_of_mem isText
    · intro likeMatches
      refine ⟨_, parsed, ?_⟩
      rw [row]
      exact likeMatches.mem_language textAscii

theorem transformLikeToRegex_exact_dotted :
    FullMatch (['a', '.', '\n'].map byte)
      (transformLikeToRegex (['a', '.', '%', '%', '_'].map byte)) := by
  have ascii : ∀ c ∈ ['a', '.', '%', '%', '_'].map byte, isAscii c = true := by decide
  have exact := transformLikeToRegex_exact ascii
  apply (exact.2 (['a', '.', '\n'].map byte) (by decide)).mpr
  exact .char (by decide) (by decide) (.char (by decide) (by decide)
    (.percent [] (.percent [] (.underscore _ .nil))))

end Quickstep.Types
