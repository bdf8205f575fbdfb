namespace Brace.Text

/-!
# Terminal paint

Colours and styles of a terminal, as escape sequences around a piece of text.
-/

/-- A colour or style. -/
inductive Paint
  | dim
  | slanted
  | red
  | green
  | blue
  | magenta
  /-- A colour of the palette of 256. -/
  | palette (index : Nat)
  deriving Repr, DecidableEq

namespace Paint

/-- The parameters of the escape sequence that turns a paint on. -/
def code : Paint → String
  | dim => "2"
  | slanted => "3"
  | red => "31"
  | green => "32"
  | blue => "34"
  | magenta => "35"
  | palette index => "38;5;" ++ toString index

/-- A piece of text in a paint, or as it is when there is no colour. -/
def apply (paint : Paint) (color : Bool) (piece : String) : String :=
  if color then "\x1b[" ++ paint.code ++ "m" ++ piece ++ "\x1b[0m" else piece

end Paint

end Brace.Text
