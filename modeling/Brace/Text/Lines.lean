namespace Brace.Text.Lines

/-!
# Lines

The ways in which a source is cut into lines.  A file and typed input are cut at line feeds, each
with the carriage return before it, if there is one; inline source is cut at the two characters
`\n`.
-/

/--
Cut at every `feed`, together with one `ret` right before it.  `line` is the line read so far,
last element first.  What follows the last `feed` is a line only if it is not empty.
-/
def cut [DecidableEq α] (ret feed : α) (line : List α) : List α → List (List α)
  | [] => if line.isEmpty then [] else [line.reverse]
  | [c] => if c = feed then [line.reverse] else [(c :: line).reverse]
  | c :: next :: rest =>
      if c = feed then line.reverse :: cut ret feed [] (next :: rest)
      else if c = ret ∧ next = feed then line.reverse :: cut ret feed [] rest
      else cut ret feed (c :: line) (next :: rest)

/-- The lines of a file. -/
def ofFile (source : String) : List String :=
  (cut '\r' '\n' [] source.toList).map String.ofList

/-- The lines of typed input, as bytes. -/
def ofInput (input : ByteArray) : List ByteArray :=
  (cut 13 10 [] input.data.toList).map fun line => ⟨line.toArray⟩

/-- Cut at every backslash that is followed by `n`.  `line` is the line read so far. -/
def cutInline (line : String) : List Char → List String
  | [] => [line]
  | [c] => [line.push c]
  | c :: next :: rest =>
      if c = '\\' ∧ next = 'n' then line :: cutInline "" rest
      else cutInline (line.push c) (next :: rest)

/-- The lines of inline source; there is always at least one. -/
def ofInline (source : String) : List String :=
  cutInline "" source.toList

end Brace.Text.Lines
