import Mathlib.Data.List.Forall2
import Brace.Lexer

namespace Brace

/-!
# Lexers keep lines apart

What a lexer makes of a line is what the line gives alone.  A line at fault adds nothing, and a
lexer that goes on after it holds the tokens of the other lines, in the order of the lines.  The
lines of a list are added one after the other up to the first that cannot be tokenized, whose
number the fault tells.
-/

/-- Texts with their tokens, each tokenized on its own. -/
def Tokenized (dialect : Dialect) : List String → List (List Token) → Prop :=
  List.Forall₂ fun text tokens => tokenize dialect text = .ok tokens

theorem Tokenized.exists_of_mem
    {dialect : Dialect}
    {lines : List String}
    {found : List (List Token)}
    (tokenized : Tokenized dialect lines found)
    {line : String}
    (member : line ∈ lines) :
    ∃ tokens, tokenize dialect line = .ok tokens := by
  induction tokenized with
  | nil => cases member
  | cons reads _ inductionHypothesis =>
      rcases List.mem_cons.mp member with rfl | inRest
      · exact ⟨_, reads⟩
      · exact inductionHypothesis inRest

/-- Either all lines can be tokenized, or there is a first one that cannot. -/
theorem tokenized_or_halts
    (dialect : Dialect)
    (lines : List String) :
    (∃ found, Tokenized dialect lines found) ∨
      ∃ before text after found halt,
        lines = before ++ text :: after ∧
          Tokenized dialect before found ∧
          tokenize dialect text = .error halt := by
  induction lines with
  | nil => exact Or.inl ⟨[], .nil⟩
  | cons text lines inductionHypothesis =>
      cases reads : tokenize dialect text with
      | error halt => exact Or.inr ⟨[], text, lines, [], halt, rfl, .nil, reads⟩
      | ok tokens =>
          rcases inductionHypothesis with
            ⟨found, tokenized⟩ | ⟨before, other, after, found, halt, rfl, tokenized, halts⟩
          · exact Or.inl ⟨tokens :: found, .cons reads tokenized⟩
          · exact
              Or.inr
                ⟨text :: before, other, after, tokens :: found, halt, rfl,
                  .cons reads tokenized, halts⟩

namespace Lexer

theorem tokenizeLine_eq
    (dialect : Dialect)
    (text : String)
    (line : Nat) :
    tokenizeLine dialect text line =
      (tokenize dialect text).mapError fun halt => halt.atLine line := by
  unfold tokenizeLine
  cases tokenize dialect text <;> rfl

theorem add_add
    (lexer : Lexer)
    (first second : List Token) :
    (lexer.add first).add second = lexer.add (first ++ second) := by
  simp [add]

/-! ## Lines that are tried -/

/-- The tokens of those texts that can be tokenized, whatever the numbers of their lines. -/
def gathered (dialect : Dialect) (lines : List (String × Nat)) : List Token :=
  (lines.filterMap fun line => (tokenize dialect line.1).toOption).flatten

theorem gathered_append
    (dialect : Dialect)
    (first second : List (String × Nat)) :
    gathered dialect (first ++ second) = gathered dialect first ++ gathered dialect second := by
  simp [gathered]

/-- A line gives what it gives alone, and leaves what can be gathered from it. -/
theorem attempt_eq
    (lexer : Lexer)
    (text : String)
    (line : Nat) :
    lexer.attempt text line =
      ⟨(tokenize lexer.dialect text).mapError fun halt => halt.atLine line,
        lexer.add (gathered lexer.dialect [(text, line)])⟩ := by
  unfold attempt
  rw [tokenizeLine_eq]
  cases reads : tokenize lexer.dialect text with
  | ok tokens => simp [gathered, reads, Except.mapError, Except.toOption]
  | error halt => simp [gathered, reads, Except.mapError, Except.toOption, add]

/-- To scan a line is to try it. -/
theorem scanLine_eq_attempt
    (lexer : Lexer)
    (text : String)
    (line : Nat) :
    lexer.scanLine text line =
      (lexer.attempt text line).added.map fun _ => (lexer.attempt text line).after := by
  unfold scanLine attempt
  cases tokenizeLine lexer.dialect text line <;> rfl

theorem length_attempts
    (lexer : Lexer)
    (lines : List (String × Nat)) :
    (lexer.attempts lines).length = lines.length := by
  induction lines generalizing lexer with
  | nil => rfl
  | cons line lines inductionHypothesis => simp [attempts, inductionHypothesis]

theorem afterAttempts_cons
    (lexer : Lexer)
    (attempt : Attempt)
    (attempts : List Attempt) :
    lexer.afterAttempts (attempt :: attempts) = attempt.after.afterAttempts attempts := by
  unfold afterAttempts
  cases attempts with
  | nil => rfl
  | cons second attempts => simp [List.getLast?_cons]

/-- After some lines a lexer holds what can be gathered from them. -/
theorem afterAttempts_attempts
    (lexer : Lexer)
    (lines : List (String × Nat)) :
    lexer.afterAttempts (lexer.attempts lines) = lexer.add (gathered lexer.dialect lines) := by
  induction lines generalizing lexer with
  | nil => simp [attempts, afterAttempts, gathered, add]
  | cons line lines inductionHypothesis =>
      obtain ⟨text, number⟩ := line
      rw [attempts, afterAttempts_cons, inductionHypothesis, attempt_eq, add_add]
      exact congrArg lexer.add (gathered_append lexer.dialect [(text, number)] lines).symm

/-- Later lines are tried by the lexer that the earlier ones leave. -/
theorem attempts_append
    (lexer : Lexer)
    (first second : List (String × Nat)) :
    lexer.attempts (first ++ second) =
      lexer.attempts first ++ (lexer.add (gathered lexer.dialect first)).attempts second := by
  induction first generalizing lexer with
  | nil => simp [attempts, gathered, add]
  | cons line first inductionHypothesis =>
      obtain ⟨text, number⟩ := line
      have gathers :
          gathered lexer.dialect ((text, number) :: first) =
            gathered lexer.dialect [(text, number)] ++ gathered lexer.dialect first :=
        gathered_append lexer.dialect [(text, number)] first
      simp only [List.cons_append, attempts, inductionHypothesis, attempt_eq, add_add, gathers]
      rfl

/-! ## Lines of a list -/

/-- Lines that can be tokenized are added one after the other. -/
theorem scanLines_append
    {lexer : Lexer}
    {before after : List String}
    {found : List (List Token)}
    {index : Nat}
    (tokenized : Tokenized lexer.dialect before found)
    (few : index + before.length < Offset.limit) :
    lexer.scanLines index (before ++ after) =
      (lexer.add found.flatten).scanLines (index + before.length) after := by
  induction before generalizing lexer found index with
  | nil =>
      cases tokenized
      simp [add]
  | cons text before inductionHypothesis =>
      cases tokenized with
      | @cons _ tokens _ found reads tokenized =>
          rw [List.length_cons] at few ⊢
          have next : Offset.add index 1 = .ok (index + 1) :=
            Offset.add_eq_ok.mpr ⟨by omega, rfl⟩
          have scanned : lexer.scanLine text (index + 1) = .ok (lexer.add tokens) := by
            simp only [scanLine, tokenizeLine, reads]
            rfl
          have others :=
            @inductionHypothesis (lexer.add tokens) found (index + 1) tokenized (by omega)
          simp only [List.cons_append, scanLines, next, scanned, bind, Except.bind, others, add_add,
            List.flatten_cons]
          rw [Nat.add_right_comm, Nat.add_assoc]

/-- A line that cannot be tokenized ends the work on its list. -/
theorem scanLines_of_halt
    {lexer : Lexer}
    {text : String}
    {after : List String}
    {index : Nat}
    {halt : Halt}
    (halts : tokenize lexer.dialect text = .error halt)
    (few : index + 1 < Offset.limit) :
    lexer.scanLines index (text :: after) = .error (halt.atLine (index + 1)) := by
  have next : Offset.add index 1 = .ok (index + 1) :=
    Offset.add_eq_ok.mpr ⟨few, rfl⟩
  simp only [scanLines, next, scanLine, tokenizeLine, halts, bind, Except.bind]

/-- A list of lines that can all be tokenized gives their tokens. -/
theorem tokenizeLines_of_tokenized
    {lines : List String}
    {found : List (List Token)}
    (tokenized : Tokenized .usual lines found)
    (few : lines.length < Offset.limit) :
    tokenizeLines lines = .ok found.flatten := by
  have scanned := @scanLines_append (ofDialect .usual) lines [] found 0 tokenized (by omega)
  rw [List.append_nil, scanLines] at scanned
  simp only [tokenizeLines, scanned, bind, Except.bind]
  rfl

/-- The first line that cannot be tokenized ends the work on a list, with its number from 1. -/
theorem tokenizeLines_of_halt
    {before after : List String}
    {found : List (List Token)}
    {text : String}
    {halt : Halt}
    (tokenized : Tokenized .usual before found)
    (halts : tokenize .usual text = .error halt)
    (few : (before ++ text :: after).length < Offset.limit) :
    tokenizeLines (before ++ text :: after) = .error (halt.atLine (before.length + 1)) := by
  rw [List.length_append, List.length_cons] at few
  have scanned :=
    @scanLines_append (ofDialect .usual) before (text :: after) found 0 tokenized (by omega)
  have halted :=
    @scanLines_of_halt ((ofDialect .usual).add found.flatten) text after (0 + before.length)
      halt halts (by omega)
  rw [halted, Nat.zero_add] at scanned
  simp only [tokenizeLines, scanned, bind, Except.bind]

/--
Lines that are tried leave no trace but the tokens of those that can be tokenized, and lines of a
list give their tokens or the fault of the first one that has none.
-/
theorem isolates_lines
    (lexer : Lexer)
    (calls : List (String × Nat))
    {lines : List String}
    (few : lines.length < Offset.limit) :
    (∀ text line,
        lexer.scanLine text line =
          (lexer.attempt text line).added.map fun _ => (lexer.attempt text line).after) ∧
      (lexer.attempts calls).length = calls.length ∧
      (∀ before text line after,
        calls = before ++ (text, line) :: after →
          (lexer.attempts calls)[before.length]? =
            some
              ⟨(tokenize lexer.dialect text).mapError fun halt => halt.atLine line,
                lexer.add (gathered lexer.dialect (before ++ [(text, line)]))⟩) ∧
      lexer.afterAttempts (lexer.attempts calls) = lexer.add (gathered lexer.dialect calls) ∧
      (∀ found,
        Tokenized .usual lines found →
          tokenizeLines lines = .ok found.flatten) ∧
      ∀ before text after found halt,
        lines = before ++ text :: after →
          Tokenized .usual before found →
            tokenize .usual text = .error halt →
              tokenizeLines lines = .error (halt.atLine (before.length + 1)) := by
  refine
    ⟨lexer.scanLine_eq_attempt, lexer.length_attempts calls, ?_,
      lexer.afterAttempts_attempts calls, ?_, ?_⟩
  · rintro before text line after rfl
    have position : before.length = (lexer.attempts before).length :=
      (lexer.length_attempts before).symm
    rw [attempts_append, position, List.getElem?_append_right (Nat.le_refl _), Nat.sub_self,
      attempts, List.getElem?_cons_zero, attempt_eq, add_add, gathered_append]
    rfl
  · intro found tokenized
    exact tokenizeLines_of_tokenized tokenized few
  · rintro before text after found halt rfl tokenized halts
    exact tokenizeLines_of_halt tokenized halts few

/-- A line at fault in its interpolation, between two others, and a list with a fault. -/
theorem isolates_lines_mixed :
    (Lexer.ofDialect .usual).afterAttempts
          ((Lexer.ofDialect .usual).attempts
            [("if", 7), ("x \"a\x60'\x60\"", 7), ("\"\x60y\x60\"", 1)]) =
        ⟨.usual,
          [⟨.ifKeyword, ⟨0, 2⟩, none⟩, ⟨.string, ⟨0, 5⟩, some ""⟩, ⟨.word, ⟨2, 3⟩, some "y"⟩]⟩ ∧
      tokenizeLines ["a", "x \"a\x60'\x60\"", "\x60"] =
        .error (.fault ⟨.stringNotEnded, some 2, 5⟩) := by
  have few : ["a", "x \"a\x60'\x60\"", "\x60"].length < Offset.limit := by
    decide
  have isolates := fun calls => (Lexer.ofDialect .usual).isolates_lines calls few
  have word : tokenize .usual "a" = .ok [⟨.word, ⟨0, 1⟩, some "a"⟩] := by
    decide +kernel
  have faulty :
      tokenize .usual "x \"a\x60'\x60\"" = .error (.fault ⟨.stringNotEnded, none, 5⟩) := by
    decide +kernel
  refine ⟨(isolates _).2.2.2.1.trans ?_, ?_⟩
  · decide +kernel
  · exact
      (isolates []).2.2.2.2.2 ["a"] _ ["\x60"] _ _ rfl (.cons word .nil) faulty

end Lexer

end Brace
