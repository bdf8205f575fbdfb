import Brace.Text.Json
import Brace.Text.Quoted

namespace Brace

/-!
# Faults

Why a line cannot be tokenized, and where.  One fault ends the scan of its line.
-/

namespace Fault

/-- What is wrong with a line. -/
inductive Cause
  /-- The line ends inside a string. -/
  | stringNotEnded
  /-- An interpolation mark stands outside of every string. -/
  | notInString
  /-- An interpolation mark stands in a string whose delimiter allows no interpolation. -/
  | notInInterpolationString (delimiter : Char)
  /-- The line ends inside an interpolation. -/
  | interpolationNotEnded
  deriving Repr, DecidableEq

namespace Cause

/-- The stable name of a cause in reports. -/
def code : Cause → String
  | stringNotEnded => "STRING_NOT_ENDED"
  | notInString => "NOT_IN_STRING"
  | notInInterpolationString _ => "NOT_IN_INTERPOLATION_STRING"
  | interpolationNotEnded => "INTERPOLATION_NOT_ENDED"

/-- The sentence that explains a cause. -/
def message : Cause → String
  | stringNotEnded => "no closing delimiter found for this string"
  | notInString => "interpolation delimiter outside of a string"
  | notInInterpolationString delimiter =>
      "cannot interpolate in a string delimited by " ++ Text.Quoted.char delimiter
  | interpolationNotEnded => "no closing delimiter found for this interpolation"

/-- The JSON form of a cause: its name, with the delimiter where there is one. -/
def json : Cause → String
  | stringNotEnded => Text.Json.string "StringNotEnded"
  | notInString => Text.Json.string "NotInString"
  | notInInterpolationString delimiter =>
      Text.Json.object
        [("NotInInterpolationString",
          Text.Json.object [("delimiter", Text.Json.string delimiter.toString)])]
  | interpolationNotEnded => Text.Json.string "InterpolationNotEnded"

end Cause

end Fault

/-- A cause with the place where it was found. -/
structure Fault where
  cause : Fault.Cause
  /-- The number of the line, from 1, once it is known. -/
  line : Option Nat
  /-- How many characters of the line stand before the culprit. -/
  offset : Nat
  deriving Repr, DecidableEq

namespace Fault

/-- The fault, found on the line with this number. -/
def atLine (fault : Fault) (line : Nat) : Fault :=
  { fault with line := some line }

/-- The fault as one sentence, led by its place. -/
def message (fault : Fault) : String :=
  let place :=
    match fault.line with
    | some line => "line " ++ toString line ++ ", character " ++ toString fault.offset ++ ": "
    | none => "character " ++ toString fault.offset ++ ": "
  place ++ fault.cause.message

/-- The JSON form of a fault. -/
def json (fault : Fault) : String :=
  Text.Json.object
    [("kind", fault.cause.json),
      ("line", Text.Json.number? fault.line),
      ("offset", Text.Json.number fault.offset)]

end Fault

end Brace
