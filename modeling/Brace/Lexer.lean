import Brace.Tokenize

namespace Brace

/-!
# Lexers

A lexer is given line after line and gathers their tokens.  A line that cannot be tokenized adds
nothing, and nothing but the tokens is carried from one line to the next.
-/

/-- The tokens of the lines so far. -/
structure Lexer where
  dialect : Dialect
  tokens : List Token
  deriving Repr, DecidableEq

namespace Lexer

/-- A lexer that has seen no line. -/
def ofDialect (dialect : Dialect) : Lexer :=
  ⟨dialect, []⟩

/-- The tokens of a line, which is numbered `line` in a fault. -/
def tokenizeLine (dialect : Dialect) (text : String) (line : Nat) : Except Halt (List Token) :=
  match tokenize dialect text with
  | .ok tokens => .ok tokens
  | .error halt => .error (halt.atLine line)

/-- The lexer with more tokens. -/
def add (lexer : Lexer) (added : List Token) : Lexer :=
  { lexer with tokens := lexer.tokens ++ added }

/-- Add the tokens of a line. -/
def scanLine (lexer : Lexer) (text : String) (line : Nat) : Except Halt Lexer := do
  let added ← tokenizeLine lexer.dialect text line
  return lexer.add added

/-- What one line did to a lexer: the tokens it added or why it added none, and the lexer then. -/
structure Attempt where
  added : Except Halt (List Token)
  after : Lexer

/-- Try a line; on a halt the lexer stays as it is. -/
def attempt (lexer : Lexer) (text : String) (line : Nat) : Attempt :=
  match tokenizeLine lexer.dialect text line with
  | .ok added => ⟨.ok added, lexer.add added⟩
  | .error halt => ⟨.error halt, lexer⟩

/-- Try numbered lines in order, going on after those that fail. -/
def attempts (lexer : Lexer) : List (String × Nat) → List Attempt
  | [] => []
  | (text, line) :: lines =>
      let attempt := lexer.attempt text line
      attempt :: attempt.after.attempts lines

/-- The lexer after some attempts. -/
def afterAttempts (lexer : Lexer) (attempts : List Attempt) : Lexer :=
  match attempts.getLast? with
  | some last => last.after
  | none => lexer

/-- Add lines in order; the first is numbered one more than `index`. -/
def scanLines (lexer : Lexer) (index : Nat) : List String → Except Halt Lexer
  | [] => return lexer
  | text :: lines => do
      let line ← Offset.add index 1
      let lexer ← lexer.scanLine text line
      lexer.scanLines line lines

end Lexer

/-- The tokens of lines numbered from 1, in the usual dialect. -/
def tokenizeLines (lines : List String) : Except Halt (List Token) := do
  let lexer ← (Lexer.ofDialect .usual).scanLines 0 lines
  return lexer.tokens

end Brace
