namespace Brace.Log

/-!
# Log levels

How important a log line is, and which lines a user asks for.
-/

/-- Importance, the most important first. -/
inductive Level
  | warn
  | info
  | debug
  | trace
  deriving Repr, DecidableEq

namespace Level

/-- The place of a level, counted from the most important. -/
def rank : Level → Nat
  | warn => 0
  | info => 1
  | debug => 2
  | trace => 3

/-- The name of a level in lower case. -/
def name : Level → String
  | warn => "warn"
  | info => "info"
  | debug => "debug"
  | trace => "trace"

/-- The least important level shown when verbosity was asked for this many times. -/
def ofVerbosity : Nat → Level
  | 0 => warn
  | 1 => info
  | 2 => debug
  | _ => trace

/-- Whether lines of a level are shown when this is the least important one shown. -/
def admits (least level : Level) : Bool :=
  level.rank ≤ least.rank

end Level

end Brace.Log
