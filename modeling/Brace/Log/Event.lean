import Brace.Kind
import Brace.Log.Level
import Brace.Text.Paint
import Brace.Text.Quoted

namespace Brace.Log

/-!
# Log events

What can be told about the work on a source, and the line that tells it: the level, a message, and
the details as names with values.
-/

/-- Something worth telling. -/
inductive Event
  /-- The string delimiters that allow interpolation are settled. -/
  | lexerConfigured (delimiters : List Char)
  | tokenizing (source : String) (lines : Nat)
  | scanningLine (line size : Nat)
  | word (start stop : Nat) (text : String)
  | symbol (kind : Kind) (start stop : Nat)
  | stringOpened (start : Nat) (delimiter : Char)
  | interpolationOpened (start : Nat)
  | interpolationClosed (start stop : Nat)
  | tokenizingInterpolation (offset : Nat) (raw : String)
  | stringClosed (start stop : Nat)
  | lineScanned (line count : Nat)
  | done (source : String) (count : Nat)
  /-- An entry at the prompt is complete. -/
  | promptEntry (lines : Nat)
  /-- The prompt reads from something other than a terminal. -/
  | inputNotTerminal
  deriving Repr, DecidableEq

namespace Event

/-- How important an event is. -/
def level : Event → Level
  | lexerConfigured _ => .debug
  | tokenizing _ _ => .info
  | scanningLine _ _ => .debug
  | word _ _ _ => .trace
  | symbol _ _ _ => .trace
  | stringOpened _ _ => .trace
  | interpolationOpened _ => .trace
  | interpolationClosed _ _ => .trace
  | tokenizingInterpolation _ _ => .debug
  | stringClosed _ _ => .trace
  | lineScanned _ _ => .trace
  | done _ _ => .info
  | promptEntry _ => .debug
  | inputNotTerminal => .debug

/-- What an event is called in the log. -/
def message : Event → String
  | lexerConfigured _ => "lexer configured"
  | tokenizing _ _ => "tokenizing"
  | scanningLine _ _ => "scanning line"
  | word _ _ _ => "word"
  | symbol _ _ _ => "symbol"
  | stringOpened _ _ => "string opened"
  | interpolationOpened _ => "interpolation opened"
  | interpolationClosed _ _ => "interpolation closed"
  | tokenizingInterpolation _ _ => "tokenizing interpolation"
  | stringClosed _ _ => "string closed"
  | lineScanned _ _ => "line scanned"
  | done _ _ => "done"
  | promptEntry _ => "repl entry"
  | inputNotTerminal => "stdin is not a tty"

/-- The details of an event. -/
def fields : Event → List (String × String)
  | lexerConfigured delimiters => [("delimiters", Text.Quoted.chars delimiters)]
  | tokenizing source lines => [("unit", Text.Quoted.text source), ("lines", toString lines)]
  | scanningLine line size => [("line", toString line), ("chars", toString size)]
  | word start stop text =>
      [("start", toString start), ("end", toString stop), ("text", text)]
  | symbol kind start stop =>
      [("kind", kind.name), ("start", toString start), ("end", toString stop)]
  | stringOpened start delimiter =>
      [("start", toString start), ("delimiter", Text.Quoted.char delimiter)]
  | interpolationOpened start => [("start", toString start)]
  | interpolationClosed start stop => [("start", toString start), ("end", toString stop)]
  | tokenizingInterpolation offset raw => [("offset", toString offset), ("raw", raw)]
  | stringClosed start stop => [("start", toString start), ("end", toString stop)]
  | lineScanned line count => [("line", toString line), ("count", toString count)]
  | done source count => [("unit", Text.Quoted.text source), ("tokens", toString count)]
  | promptEntry lines => [("lines", toString lines)]
  | inputNotTerminal => []

end Event

/-- The name of a level in log lines, as wide as the widest. -/
def Level.label : Level → String
  | warn => " WARN"
  | info => " INFO"
  | debug => "DEBUG"
  | trace => "TRACE"

/-- The paint of a level. -/
def Level.paint : Level → Text.Paint
  | warn => .palette 3
  | info => .green
  | debug => .blue
  | trace => .magenta

/-- An event as a log line. -/
def Event.line (event : Event) (color : Bool) : String :=
  let details := event.fields.map fun field =>
    " " ++ Text.Paint.slanted.apply color field.1 ++ Text.Paint.dim.apply color "=" ++ field.2
  event.level.paint.apply color event.level.label ++ " " ++ event.message ++ String.join details
    ++ "\n"

end Brace.Log
