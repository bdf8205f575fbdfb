import Brace.CommandLine.Outcome

namespace Brace.CommandLine

/-!
# Input that cannot be read

Why a file or typed input gives no text.  Such a failure ends the run.
-/

/-- Why something cannot be read. -/
inductive ReadFailure
  | missing
  | isDirectory
  | notText
  /-- Any other reason, in the words of the system. -/
  | other (reason : String)
  deriving Repr, DecidableEq

/-- A failure in words. -/
def ReadFailure.message : ReadFailure → String
  | missing => "No such file or directory (os error 2)"
  | isDirectory => "Is a directory (os error 21)"
  | notText => "stream did not contain valid UTF-8"
  | other reason => reason

/-- The text that some bytes stand for. -/
def decode (bytes : ByteArray) : Except ReadFailure String :=
  match String.fromUTF8? bytes with
  | some text => .ok text
  | none => .error .notText

/-- The outcome when the run must end with a message. -/
def failed (settings : Settings) (message : String) : Outcome :=
  match settings.form with
  | .text => ⟨[.report ("error: " ++ message ++ "\n")], .faulty⟩
  | .json =>
      let record :=
        Text.Json.object
          [("code", Text.Json.string "C0001"),
            ("message", Text.Json.string message),
            ("severity", Text.Json.string "error")]
      ⟨[.report (record ++ "\n")], .faulty⟩

end Brace.CommandLine
