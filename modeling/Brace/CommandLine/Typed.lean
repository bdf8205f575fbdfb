import Brace.CommandLine.Failure
import Brace.CommandLine.Source
import Brace.Text.Erasure

namespace Brace.CommandLine

/-!
# Typed lines

The text of a line that was typed: what its bytes stand for, less what was erased.
-/

/-- Why a typed line gives no text. -/
inductive TypedFailure
  | unread (failure : ReadFailure)
  | breach (breach : Breach)
  deriving Repr, DecidableEq

/-- The outcome of a session that such a line ends. -/
def TypedFailure.outcome (settings : Settings) : TypedFailure → Outcome
  | unread failure => failed settings ("Readline error: " ++ failure.message)
  | breach rule => abandoned rule

/-- The text of a typed line. -/
def typedLine (bytes : ByteArray) : Except TypedFailure String :=
  match decode bytes with
  | .error failure => .error (.unread failure)
  | .ok text =>
      match Text.Erasure.settle text with
      | some line => .ok line
      | none => .error (.breach .characterParted)

end Brace.CommandLine
