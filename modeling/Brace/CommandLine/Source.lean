import Brace.CommandLine.Outcome
import Brace.Log.Transcript
import Brace.Report.Drawing
import Brace.Report.Record

namespace Brace.CommandLine

/-!
# Sources

A source is a name and lines.  Its tokens are listed line by line, each line once it is scanned, up
to the first line at fault, which is reported and ends the work on the source.
-/

/-- Named lines. -/
structure Source where
  name : String
  lines : List String
  deriving Repr, DecidableEq

/-- The outcome when the program broke a rule of its own. -/
def abandoned (breach : Breach) : Outcome :=
  ⟨[.report (breach.message ++ "\n")], .broken⟩

/-- The outcome when work on a text came to a halt that cannot be blamed on the text. -/
def abandonedBy : Halt → Outcome
  | .breach breach => abandoned breach
  | .fault fault => ⟨[.report (fault.message ++ "\n")], .faulty⟩

namespace Source

/-- Report a fault of a source. -/
def report (source : Source) (settings : Settings) (fault : Fault) : Outcome :=
  match settings.form with
  | .text => ⟨[.report (fault.drawn source.name source.lines settings.color)], .faulty⟩
  | .json =>
      match fault.record source.name with
      | .ok record => ⟨[.report (record ++ "\n")], .faulty⟩
      | .error halt => abandonedBy halt

/-- List the tokens of a line. -/
def listing (settings : Settings) (line : Nat) (tokens : List Token) : List Emission :=
  tokens.map fun token => .output (token.listed line settings.form ++ "\n")

/-- The log lines about the scan of a line. -/
def lineLog (settings : Settings) (text : String) (line : Nat) : List Emission :=
  if settings.level.admits .debug then
    settings.log (lineTranscript settings.dialect text line)
  else
    []

/-- Work through the lines after the first `index` ones, of which `lexer` holds the tokens. -/
def processLines (source : Source) (settings : Settings) (lexer : Lexer) (index : Nat) :
    List String → Outcome
  | [] => ⟨settings.log [.done source.name lexer.tokens.length], .clean⟩
  | text :: lines =>
      match Offset.add index 1 with
      | .error halt => abandonedBy halt
      | .ok line =>
          let outcome :=
            match Lexer.tokenizeLine lexer.dialect text line with
            | .ok added =>
                (source.processLines settings (lexer.add added) line lines).after
                  (listing settings line added)
            | .error (.fault fault) => source.report settings fault
            | .error (.breach breach) => abandoned breach
          outcome.after (lineLog settings text line)

/-- Work through a source. -/
def process (source : Source) (settings : Settings) : Outcome :=
  (source.processLines settings (.ofDialect settings.dialect) 0 source.lines).after
    (settings.log [.tokenizing source.name source.lines.length])

end Source

end Brace.CommandLine
