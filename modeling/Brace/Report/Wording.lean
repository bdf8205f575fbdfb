import Brace.Fault

namespace Brace.Fault.Cause

/-!
# Wording of reports

What a report says next to the culprit, and how it suggests to put the line right.
-/

/-- What is said next to the culprit. -/
def label : Cause → String
  | stringNotEnded => "string starts here"
  | notInString => "interpolation outside of a string"
  | notInInterpolationString delimiter => "inside a " ++ delimiter.toString ++ "-delimited string"
  | interpolationNotEnded => "interpolation starts here"

/-- An escaped interpolation mark. -/
def escapedMark : String :=
  "\\\x60"

/-- How to put the line right. -/
def help : Cause → Option String
  | stringNotEnded => some "strings must be closed on the line they start"
  | notInString => some ("escape it as " ++ escapedMark ++ " to use it as text")
  | notInInterpolationString _ =>
      some ("interpolate in a double-quoted string or escape it as " ++ escapedMark)
  | interpolationNotEnded => none

end Brace.Fault.Cause
