namespace Brace

/-!
# Dialects

The one thing about the language that a user can choose: in which strings interpolation works.
-/

/-- The string delimiters that allow interpolation. -/
structure Dialect where
  interpolating : List Char
  deriving Repr, DecidableEq

namespace Dialect

/-- The usual dialect: interpolation works between double quotes only. -/
def usual : Dialect :=
  ⟨['"']⟩

/-- The dialect whose interpolating delimiters are the characters of a text. -/
def ofDelimiters (delimiters : String) : Dialect :=
  ⟨delimiters.toList⟩

/-- Whether a string with this delimiter may hold interpolations. -/
def interpolatesIn (dialect : Dialect) (delimiter : Char) : Bool :=
  dialect.interpolating.contains delimiter

end Dialect

end Brace
