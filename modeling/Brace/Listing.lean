import Brace.Token

namespace Brace

/-!
# Listings

A listing shows tokens one a line, each with the number of its source line: as rows to be read by
people, or as JSON objects.
-/

/-- In which form results are shown. -/
inductive Form
  | text
  | json
  deriving Repr, DecidableEq

namespace Token

/--
A token of a line as a row: place, kind, and the quoted content if there is any, in which some
characters are hidden.
-/
def rowHiding (hidden : Char → Bool) (token : Token) (line : Nat) : String :=
  let place :=
    toString line ++ ":" ++ toString token.span.start ++ ".." ++ toString token.span.stop
  let content :=
    match token.content with
    | some content => "  " ++ Text.Quoted.textHiding hidden content
    | none => ""
  place ++ "  " ++ token.kind.name ++ content

/-- A token of a line as a JSON object. -/
def record (token : Token) (line : Nat) : String :=
  Text.Json.object
    ([("line", Text.Json.number line),
      ("kind", Text.Json.string token.kind.name),
      ("start", Text.Json.number token.span.start),
      ("end", Text.Json.number token.span.stop)]
      ++ token.contentMember)

/-- A token of a line in the given form, where some characters are hidden in a row. -/
def listedHiding (hidden : Char → Bool) (token : Token) (line : Nat) : Form → String
  | .text => token.rowHiding hidden line
  | .json => token.record line

/-- A token of a line in the given form. -/
def listed (token : Token) (line : Nat) (form : Form) : String :=
  token.listedHiding Text.Quoted.isHidden line form

end Token

end Brace
