namespace Brace.CommandLine

/-!
# Arguments

What a user asks for.  Arguments are read from left to right, and the first that makes no sense or
asks for the version settles the matter.
-/

/-- The wishes of a user who wants something tokenized. -/
structure Options where
  files : List String := []
  /-- Inline source. -/
  command : Option String := none
  json : Bool := false
  noColor : Bool := false
  /-- The string delimiters that allow interpolation, as characters of a text. -/
  interpolate : Option String := none
  /-- How many times more log lines were asked for. -/
  verbosity : Nat := 0
  deriving Repr, DecidableEq

/-- Why arguments lead to no tokenizing. -/
inductive Refusal
  | misuse
  /-- The version was asked for instead. -/
  | version
  deriving Repr, DecidableEq

/-- An option that takes a value. -/
inductive Valued
  | command
  | interpolate
  deriving Repr, DecidableEq

/-- How far the arguments have been read. -/
structure Parse where
  options : Options := {}
  /-- The option whose value comes next. -/
  awaiting : Option Valued := none
  /-- Whether all that follows is a file. -/
  filesOnly : Bool := false
  deriving Repr, DecidableEq

namespace Parse

/-- Set an option to its value, once. -/
def store (parse : Parse) (option : Valued) (value : String) : Except Refusal Parse :=
  let options := parse.options
  match option with
  | .command =>
      if options.command.isSome then throw .misuse
      else return ⟨{ options with command := some value }, none, parse.filesOnly⟩
  | .interpolate =>
      if options.interpolate.isSome then throw .misuse
      else return ⟨{ options with interpolate := some value }, none, parse.filesOnly⟩

/-- Add a file, which must have a name. -/
def addFile (parse : Parse) (name : String) : Except Refusal Parse :=
  if name.isEmpty then throw .misuse
  else return { parse with options.files := parse.options.files ++ [name] }

/-- Ask for more log lines. -/
def raise (parse : Parse) : Parse :=
  { parse with options.verbosity := parse.options.verbosity + 1 }

/-- Read an option by its long name, perhaps with a value after an equals sign. -/
def long (parse : Parse) (name : String) (value : Option String) : Except Refusal Parse :=
  match name, value with
  | "command", some value => parse.store .command value
  | "command", none => return { parse with awaiting := some .command }
  | "interpolate", some value => parse.store .interpolate value
  | "interpolate", none => return { parse with awaiting := some .interpolate }
  | "json", none =>
      if parse.options.json then throw .misuse
      else return { parse with options.json := true }
  | "no-color", none =>
      if parse.options.noColor then throw .misuse
      else return { parse with options.noColor := true }
  | "verbose", none => return parse.raise
  | "version", none => throw .version
  | _, _ => throw .misuse

/-- Read options by their letters; the rest after one that takes a value is the value. -/
def letters (parse : Parse) : List Char → Except Refusal Parse
  | [] => return parse
  | 'v' :: rest => parse.raise.letters rest
  | 'V' :: _ => throw .version
  | ['c'] => return { parse with awaiting := some .command }
  | 'c' :: '=' :: value => parse.store .command (String.ofList value)
  | 'c' :: value => parse.store .command (String.ofList value)
  | _ => throw .misuse

/-- Read one argument. -/
def step (parse : Parse) (argument : String) : Except Refusal Parse :=
  if parse.filesOnly then
    parse.addFile argument
  else
    match parse.awaiting, argument.toList with
    | some _, '-' :: _ :: _ => throw .misuse
    | some option, _ => parse.store option argument
    | none, ['-', '-'] => return { parse with filesOnly := true }
    | none, '-' :: '-' :: option =>
        let name := String.ofList (option.takeWhile (· ≠ '='))
        match option.dropWhile (· ≠ '=') with
        | [] => parse.long name none
        | _ :: value => parse.long name (some (String.ofList value))
    | none, '-' :: letter :: rest => parse.letters (letter :: rest)
    | none, _ => parse.addFile argument

/-- The options, once all arguments are read: no value is missing, and inline source is alone. -/
def finish (parse : Parse) : Except Refusal Options :=
  if parse.awaiting.isSome then throw .misuse
  else if parse.options.command.isSome && !parse.options.files.isEmpty then throw .misuse
  else return parse.options

end Parse

/-- Read all arguments. -/
def Options.ofArguments (arguments : List String) : Except Refusal Options := do
  let parse ← arguments.foldlM Parse.step {}
  parse.finish

end Brace.CommandLine
