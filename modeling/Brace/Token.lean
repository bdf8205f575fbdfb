import Brace.Kind
import Brace.Span

namespace Brace

/-!
# Tokens

A token is a kind with the span that it takes up on its line.  Strings and words carry content as
well: the decoded body of a string, the spelling of a word.
-/

/-- A piece of a line with its kind. -/
structure Token where
  kind : Kind
  span : Span
  content : Option String
  deriving Repr, DecidableEq

namespace Token

/-- A token without content. -/
def plain (kind : Kind) (start stop : Nat) : Except Halt Token := do
  let span ← Span.between start stop
  return ⟨kind, span, none⟩

/-- A word with its spelling. -/
def word (text : String) (start stop : Nat) : Except Halt Token := do
  let span ← Span.between start stop
  return ⟨.word, span, some text⟩

/-- A string with its decoded body. -/
def string (body : String) (start stop : Nat) : Except Halt Token := do
  let span ← Span.between start stop
  return ⟨.string, span, some body⟩

/-- The token, moved right by some characters. -/
def shift (token : Token) (distance : Nat) : Except Halt Token := do
  let span ← token.span.shift distance
  return { token with span }

/-- The content as a member of a JSON object, if there is any. -/
def contentMember (token : Token) : List (String × String) :=
  match token.content with
  | some content => [("content", Text.Json.string content)]
  | none => []

/-- The JSON form of a token. -/
def json (token : Token) : String :=
  Text.Json.object
    ([("kind", Text.Json.string token.kind.name), ("span", token.span.json)]
      ++ token.contentMember)

end Token

end Brace
