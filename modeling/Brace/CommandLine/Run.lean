import Brace.CommandLine.Arguments
import Brace.CommandLine.Prompt
import Brace.Text.Lines

namespace Brace.CommandLine

/-!
# A run of the program

From arguments, readable files and typed input to all that is written and the exit code.
-/

/-- What a run can read. -/
structure World where
  /-- The content of the file with a given name. -/
  file : String → Except ReadFailure ByteArray
  /-- All that is typed. -/
  input : ByteArray

/-- The line that tells the version. -/
def version : String :=
  "bracec 0.1.0\n"

/-- The line that tells how arguments are given. -/
def usage : String :=
  "usage: bracec [--json] [--no-color] [--interpolate DELIMITERS] [-v]... [-c SOURCE | FILES...]\n"

/-- The text of a file. -/
def World.text (world : World) (name : String) : Except ReadFailure String := do
  let bytes ← world.file name
  decode bytes

/-- The lines that are typed. -/
def World.typed (world : World) : List (Except TypedFailure String) :=
  (Text.Lines.ofInput world.input).map typedLine

namespace Options

/-- The settings that the options amount to. -/
def settings (options : Options) : Settings :=
  { dialect := (options.interpolate.map Dialect.ofDelimiters).getD .usual
    form := if options.json then .json else .text
    color := !options.noColor && !options.json
    level := .ofVerbosity options.verbosity }

end Options

/-- Work through files in order, up to the first that cannot be read. -/
def processFiles (settings : Settings) (world : World) : List String → Outcome
  | [] => ⟨[], .clean⟩
  | name :: rest =>
      match world.text name with
      | .error failure =>
          failed settings ("Failed to read '" ++ name ++ "': " ++ failure.message)
      | .ok text =>
          ((Source.mk name (Text.Lines.ofFile text)).process settings).andThen
            (processFiles settings world rest)

/-- Do what the options ask for: inline source, files, or the prompt if there is neither. -/
def perform (options : Options) (world : World) : Outcome :=
  let settings := options.settings
  match options.command with
  | some command => (Source.mk "<command>" (Text.Lines.ofInline command)).process settings
  | none =>
      if options.files.isEmpty then
        Prompt.session settings [] world.typed
      else
        processFiles settings world options.files

/-- All that a run wrote, and its exit code. -/
structure Result where
  emissions : List Emission
  exitCode : Nat
  deriving Repr, DecidableEq

/-- Announce the settings in the log. -/
def announcement (settings : Settings) : List Emission :=
  settings.log [.lexerConfigured settings.dialect.interpolating]

/-- What is written and returned when nothing is tokenized. -/
def refused : Refusal → Result
  | .misuse => ⟨[.report usage], 2⟩
  | .version => ⟨[.output version], 0⟩

/-- Run the program. -/
def run (arguments : List String) (world : World) : Result :=
  match Options.ofArguments arguments with
  | .error refusal => refused refusal
  | .ok options =>
      let outcome := (perform options world).after (announcement options.settings)
      ⟨outcome.emissions, outcome.verdict.exitCode⟩

end Brace.CommandLine
