import Brace.CommandLine.Run

namespace Brace.Program

/-!
# The program

Reads arguments, files and typed lines, and writes what the library makes of them.
-/

open CommandLine

/-- Write what a run emitted. -/
def write (emissions : List Emission) : IO Unit := do
  let stdout ← IO.getStdout
  let stderr ← IO.getStderr
  for emission in emissions do
    match emission with
    | .output text => stdout.putStr text
    | .report text => stderr.putStr text
    | .log text => stderr.putStr text
  stdout.flush
  stderr.flush

/-- The content of a file, or why it cannot be read. -/
def readFile (name : String) : IO (Except ReadFailure ByteArray) := do
  try
    return .ok (← IO.FS.readBinFile name)
  catch
    | .noFileOrDirectory .. => return .error .missing
    | .inappropriateType _ 21 _ => return .error .isDirectory
    | reason => return .error (.other (toString reason))

/-- The bytes that follow those in `line`, through the next line feed or to the end of input. -/
partial def readLine (input : IO.FS.Stream) (line : ByteArray) : IO ByteArray := do
  let next ← input.read 1
  let line := line ++ next
  if next.isEmpty || next.data.contains 10 then
    return line
  else
    readLine input line

/-- Take typed lines until the session ends; `entry` holds the lines of the entry so far. -/
partial def converse (settings : Settings) (input : IO.FS.Stream) (entry : List String) :
    IO Verdict := do
  if ← input.isTty then
    write [.output (Prompt.caption entry)]
  else
    write (settings.log [.inputNotTerminal])
  match Text.Lines.ofInput (← readLine input .empty) with
  | [] => return .clean
  | line :: _ =>
      let response := Prompt.takeTyped settings entry (typedLine line)
      write response.emissions
      match response.status with
      | .reading entry => converse settings input entry
      | .ended verdict => return verdict

/-- The settings of a session of typed lines, if the arguments ask for one. -/
def typedSession (arguments : List String) : Option Settings :=
  match Options.ofArguments arguments with
  | .error _ => none
  | .ok options =>
      if options.command.isNone && options.files.isEmpty then
        some options.settings
      else
        none

/-- The names of the files that the arguments ask for. -/
def fileNames (arguments : List String) : List String :=
  match Options.ofArguments arguments with
  | .error _ => []
  | .ok options => options.files

/-- All that can be read when nothing is typed. -/
def readWorld (names : List String) : IO World := do
  let contents ← names.mapM fun name => return (name, ← readFile name)
  return ⟨fun name => (contents.lookup name).getD (.error .missing), .empty⟩

/--
Run the program on the arguments given to it.  In a session every typed line is answered before the
next is read; in all else the files are read first, and the run is that of the library.
-/
def run (arguments : List String) : IO UInt32 := do
  match typedSession arguments with
  | some settings =>
      write (announcement settings)
      let verdict ← converse settings (← IO.getStdin) []
      return verdict.exitCode.toUInt32
  | none =>
      let result := CommandLine.run arguments (← readWorld (fileNames arguments))
      write result.emissions
      return result.exitCode.toUInt32

end Brace.Program

/-- The entry point of the program. -/
def main (arguments : List String) : IO UInt32 :=
  Brace.Program.run arguments
