import Brace.CommandLine.Source
import Brace.CommandLine.Typed
import Brace.Unicode.Space

namespace Brace.CommandLine.Prompt

/-!
# The prompt

Typed lines are gathered into entries, each of which is tokenized on its own.  A line that ends in
a backslash is continued by the next one.  `:quit` or `:q` in place of an entry ends the session, as
does the end of input, which drops an entry that is not complete.
-/

/-- What is shown before a line of an entry is typed; `entry` holds the lines before it. -/
def caption (entry : List String) : String :=
  if entry.isEmpty then "brace> " else "  ... "

/-- Whether a line asks to end the session. -/
def isQuit (line : String) : Bool :=
  let text := String.ofList (Unicode.trim line.toList)
  text == ":quit" || text == ":q"

/-- The line without the backslash at its end, if it has one. -/
def continued? (line : String) : Option String :=
  if line.toList.getLast? == some '\\' then some (String.ofList line.toList.dropLast) else none

/-- Whether and how a session goes on. -/
inductive Status
  /-- The entry so far has these lines. -/
  | reading (entry : List String)
  | ended (verdict : Verdict)
  deriving Repr, DecidableEq

/-- What a typed line led to. -/
structure Response where
  emissions : List Emission
  status : Status
  deriving Repr, DecidableEq

/-- Tokenize a complete entry; a fault in it does not end the session. -/
def submit (settings : Settings) (entry : List String) : Response :=
  let outcome := (Source.mk "<repl>" entry).process settings
  let status : Status :=
    match outcome.verdict with
    | .broken => .ended .broken
    | _ => .reading []
  ⟨settings.log [.promptEntry entry.length] ++ outcome.emissions, status⟩

/-- Take a typed line. -/
def take (settings : Settings) (entry : List String) (line : String) : Response :=
  if entry.isEmpty && isQuit line then
    ⟨[], .ended .clean⟩
  else
    match continued? line with
    | some kept => ⟨[], .reading (entry ++ [kept])⟩
    | none => submit settings (entry ++ [line])

/-- Take a typed line that may turn out to give no text. -/
def takeTyped (settings : Settings) (entry : List String) : Except TypedFailure String → Response
  | .ok line => take settings entry line
  | .error failure =>
      let outcome := failure.outcome settings
      ⟨outcome.emissions, .ended outcome.verdict⟩

/-- A session on input that is not a terminal, given as its lines. -/
def session (settings : Settings) (entry : List String) :
    List (Except TypedFailure String) → Outcome
  | [] => ⟨settings.log [.inputNotTerminal], .clean⟩
  | line :: rest =>
      let response := takeTyped settings entry line
      let outcome : Outcome :=
        match response.status with
        | .reading entry => session settings entry rest
        | .ended verdict => ⟨[], verdict⟩
      outcome.after (settings.log [.inputNotTerminal] ++ response.emissions)

end Brace.CommandLine.Prompt
