import Brace.Listing
import Brace.Log.Event
import Brace.Dialect

namespace Brace.CommandLine

/-!
# Outcomes

What a run of the program writes, in order, and how it ends.
-/

/-- How results, reports and logs are to be written. -/
structure Settings where
  dialect : Dialect
  form : Form
  color : Bool
  level : Log.Level
  deriving Repr, DecidableEq

/-- A piece of text that is written: listings to one channel, reports and logs to the other. -/
inductive Emission
  /-- A token of a listing, or the answer to a request. -/
  | output (text : String)
  /-- What went wrong. -/
  | report (text : String)
  /-- A log line. -/
  | log (text : String)
  deriving Repr, DecidableEq

/-- How a piece of work ended, the best first. -/
inductive Verdict
  /-- Everything was tokenized. -/
  | clean
  /-- Something could not be tokenized or read. -/
  | faulty
  /-- The program broke a rule of its own, and the work was abandoned. -/
  | broken
  deriving Repr, DecidableEq

namespace Verdict

/-- The exit code of a run that ended so. -/
def exitCode : Verdict → Nat
  | clean => 0
  | faulty => 1
  | broken => 101

/-- The verdict on two pieces of work. -/
def and : Verdict → Verdict → Verdict
  | clean, second => second
  | faulty, broken => broken
  | faulty, _ => faulty
  | broken, _ => broken

end Verdict

/-- What was written, and how it ended. -/
structure Outcome where
  emissions : List Emission
  verdict : Verdict
  deriving Repr, DecidableEq

namespace Outcome

/-- The outcome when some text was written first. -/
def after (outcome : Outcome) (earlier : List Emission) : Outcome :=
  { outcome with emissions := earlier ++ outcome.emissions }

/-- One piece of work and then another, unless the first was abandoned. -/
def andThen (first : Outcome) (second : Outcome) : Outcome :=
  match first.verdict with
  | .broken => first
  | verdict => ⟨first.emissions ++ second.emissions, verdict.and second.verdict⟩

end Outcome

namespace Emission

/-- The text on the output channel, if it is there. -/
def output? : Emission → Option String
  | output text => some text
  | report _ => none
  | log _ => none

/-- The text on the error channel, if it is there. -/
def error? : Emission → Option String
  | output _ => none
  | report text => some text
  | log text => some text

/-- All that was written to the output channel. -/
def outputText (emissions : List Emission) : String :=
  String.join (emissions.filterMap output?)

/-- All that was written to the error channel. -/
def errorText (emissions : List Emission) : String :=
  String.join (emissions.filterMap error?)

end Emission

/-- The log lines of those events that the settings ask for. -/
def Settings.log (settings : Settings) (events : List Log.Event) : List Emission :=
  (events.filter fun event => settings.level.admits event.level).map fun event =>
    .log (event.line settings.color)

end Brace.CommandLine
