namespace Brace

/-!
# Lines of a drawing

A drawing cuts its source after every character that ends a line in Unicode, so that each line of
the drawing is one line on the screen.
-/

/-- A line with the offset of its first character in the source. -/
structure SourceLine where
  start : Nat
  text : List Char
  deriving Repr, DecidableEq

namespace SourceLine

/-- Whether a character ends a line. -/
def endsLine (c : Char) : Bool :=
  [0x0A, 0x0B, 0x0C, 0x0D, 0x85, 0x2028, 0x2029].contains c.toNat

/--
Cut after every character that ends a line; a carriage return and a line feed end it together.
The line read so far is `line`, last character first, and starts at `start`.
-/
def cut (start : Nat) (line : List Char) : List Char → List SourceLine
  | [] => if line.isEmpty then [] else [⟨start, line.reverse⟩]
  | c :: rest =>
      if endsLine c && !(c = '\r' && rest.head? == some '\n') then
        ⟨start, (c :: line).reverse⟩ :: cut (start + line.length + 1) [] rest
      else
        cut start (c :: line) rest

/-- The lines of a source; an empty source is one empty line. -/
def ofSource (source : List Char) : List SourceLine :=
  if source.isEmpty then [⟨0, []⟩] else cut 0 [] source

/-- The last of some lines that starts at or before an offset, with its position. -/
def holding (offset : Nat) (lines : List SourceLine) : Option (SourceLine × Nat) :=
  (lines.zipIdx.filter fun line => line.1.start ≤ offset).getLast?

end SourceLine

end Brace
