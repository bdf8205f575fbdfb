import Brace.Proofs.Fragments

namespace Brace

/-!
# Accounts of a scan

An account says how a scan has read the characters that it passed: as which fragments, and what
it is in the middle of.  It holds no offsets, for they follow from the lengths of what was read.
`Moves` are the rules by which a scan reads on, one rule for each thing that can be met, and
`Fails` are the ways in which it ends in a fault.  `Runs` follows them to the end of the line.
-/

/-- The fault, moved right by some characters without a check. -/
def Fault.moved (distance : Nat) (fault : Fault) : Fault :=
  { fault with offset := fault.offset + distance }

/-- What a scan is in the middle of. -/
inductive Account.Mode
  /-- Outside of strings, after the text of a word and the beginning of a spelling. -/
  | plain (word spelled : List Char)
  /-- In a string after some parts, and perhaps in the text of an interpolation. -/
  | quoted (delimiter : Char) (parts : List Part) (segment : Option (List Char))
  deriving Repr, DecidableEq

/-- What has been read of a line, and what is left of it. -/
structure Account where
  fragments : List Fragment
  mode : Account.Mode
  rest : List Char
  deriving Repr, DecidableEq

namespace Account

/-- The characters that were read in a mode. -/
def Mode.written : Mode → List Char
  | plain word spelled => word ++ spelled
  | quoted delimiter parts none => delimiter :: parts.flatMap Part.written
  | quoted delimiter parts (some raw) =>
      delimiter :: parts.flatMap Part.written ++ interpolationMark :: raw

/-- The account of a line before its first character. -/
def ofText (text : List Char) : Account :=
  ⟨[], .plain [] [], text⟩

/-- The characters that were passed. -/
def passed (account : Account) : List Char :=
  account.fragments.flatMap Fragment.written ++ account.mode.written

/-- The whole line. -/
def line (account : Account) : List Char :=
  account.passed ++ account.rest

/-- The last character of some fragments and a word after them. -/
def lastOf (fragments : List Fragment) (word : List Char) : Option Char :=
  (fragments.flatMap Fragment.written ++ word).getLast?

/-- The offset after the opening delimiter and the parts of a string that follows some fragments. -/
def bodyStop (fragments : List Fragment) (parts : List Part) : Nat :=
  Fragment.extent fragments + 1 + Part.extent parts

/-- What the end of a line makes of the text of a word and the beginning of a spelling. -/
def ending (word spelled : List Char) : List Fragment :=
  match Symbol.verdict spelled none with
  | some kind => Fragment.wordOf word ++ [.symbol spelled kind]
  | none => Fragment.wordOf (word ++ spelled)

@[simp] theorem ending_nil
    (word : List Char) :
    ending word [] = Fragment.wordOf word := by
  simp [ending]

/-- The rules by which a scan reads on. -/
inductive Moves (inner : String → Except Halt (List Token)) (dialect : Dialect) :
    Account → Account → Prop
  /-- Whitespace ends a word. -/
  | blank {fragments word c rest}
      (space : Unicode.isSpace c = true) :
      Moves inner dialect
        ⟨fragments, .plain word [], c :: rest⟩
        ⟨fragments ++ Fragment.wordOf word ++ [.blank c], .plain [] [], rest⟩
  /-- A character that opens nothing goes to the word. -/
  | unknown {fragments word c rest}
      (space : Unicode.isSpace c = false)
      (refused : Matcher.openings c (lastOf fragments word) = []) :
      Moves inner dialect
        ⟨fragments, .plain word [], c :: rest⟩
        ⟨fragments, .plain (word ++ [c]) [], rest⟩
  /-- A character brings a spelling closer that is still waited on. -/
  | grown {fragments word spelled c rest}
      (opens : spelled = [] → Matcher.openings c (lastOf fragments word) ≠ [])
      (waits : Symbol.pending (spelled ++ [c]) = true) :
      Moves inner dialect
        ⟨fragments, .plain word spelled, c :: rest⟩
        ⟨fragments, .plain word (spelled ++ [c]), rest⟩
  /-- A character completes the spelling of a token. -/
  | token {fragments word spelled c kind rest}
      (member : ⟨spelled ++ [c], .token kind⟩ ∈ Symbol.table)
      (decided : Symbol.pending (spelled ++ [c]) = false) :
      Moves inner dialect
        ⟨fragments, .plain word spelled, c :: rest⟩
        ⟨fragments ++ Fragment.wordOf word ++ [.symbol (spelled ++ [c]) kind], .plain [] [], rest⟩
  /-- A quote opens a string. -/
  | quote {fragments word c rest}
      (quote : isQuote c = true) :
      Moves inner dialect
        ⟨fragments, .plain word [], c :: rest⟩
        ⟨fragments ++ Fragment.wordOf word, .quoted c [] none, rest⟩
  /-- A mark after a backslash goes to the word. -/
  | escaped {fragments word c rest}
      (mark : isMark c = true) :
      Moves inner dialect
        ⟨fragments, .plain word ['\\'], c :: rest⟩
        ⟨fragments, .plain (word ++ ['\\', c]) [], rest⟩
  /-- A character ends a spelling that is complete; the character is still to be read. -/
  | settled {fragments word spelled c kind rest}
      (nonempty : spelled ≠ [])
      (stops : Symbol.extending (spelled ++ [c]) = [])
      (decided : Symbol.verdict spelled (some c) = some kind) :
      Moves inner dialect
        ⟨fragments, .plain word spelled, c :: rest⟩
        ⟨fragments ++ Fragment.wordOf word ++ [.symbol spelled kind], .plain [] [], c :: rest⟩
  /-- A character ends a spelling that is not complete; the character is still to be read. -/
  | abandoned {fragments word spelled c rest}
      (nonempty : spelled ≠ [])
      (stops : Symbol.extending (spelled ++ [c]) = [])
      (undecided : Symbol.verdict spelled (some c) = none) :
      Moves inner dialect
        ⟨fragments, .plain word spelled, c :: rest⟩
        ⟨fragments, .plain (word ++ spelled) [], c :: rest⟩
  /-- In a string a backslash takes a character with it. -/
  | escape {fragments delimiter parts c decoded rest}
      (decodes : Literal.decodeEscape c = some decoded) :
      Moves inner dialect
        ⟨fragments, .quoted delimiter parts none, '\\' :: c :: rest⟩
        ⟨fragments, .quoted delimiter (parts ++ [.escape c decoded]) none, rest⟩
  /-- In a string any other backslash is dropped. -/
  | stray {fragments delimiter parts rest}
      (undecoded : rest.head?.bind Literal.decodeEscape = none) :
      Moves inner dialect
        ⟨fragments, .quoted delimiter parts none, '\\' :: rest⟩
        ⟨fragments, .quoted delimiter (parts ++ [.stray]) none, rest⟩
  /-- The delimiter closes its string. -/
  | closed {fragments delimiter parts rest} :
      Moves inner dialect
        ⟨fragments, .quoted delimiter parts none, delimiter :: rest⟩
        ⟨fragments ++ [.string delimiter parts], .plain [] [], rest⟩
  /-- The interpolation mark opens an interpolation where the delimiter allows it. -/
  | opened {fragments delimiter parts rest}
      (interpolates : dialect.interpolatesIn delimiter = true) :
      Moves inner dialect
        ⟨fragments, .quoted delimiter parts none, interpolationMark :: rest⟩
        ⟨fragments, .quoted delimiter parts (some []), rest⟩
  /-- In a string all other characters stand for themselves. -/
  | verbatim {fragments delimiter parts c rest}
      (noBackslash : c ≠ '\\')
      (noDelimiter : c ≠ delimiter)
      (noMark : c ≠ interpolationMark) :
      Moves inner dialect
        ⟨fragments, .quoted delimiter parts none, c :: rest⟩
        ⟨fragments, .quoted delimiter (parts ++ [.verbatim c]) none, rest⟩
  /-- The text of an interpolation is gathered as it is. -/
  | gathered {fragments delimiter parts raw c rest}
      (noMark : c ≠ interpolationMark) :
      Moves inner dialect
        ⟨fragments, .quoted delimiter parts (some raw), c :: rest⟩
        ⟨fragments, .quoted delimiter parts (some (raw ++ [c])), rest⟩
  /-- The interpolation mark closes an interpolation whose text can be tokenized. -/
  | tokenized {fragments delimiter parts raw tokens rest}
      (reads : inner (String.ofList raw) = .ok tokens) :
      Moves inner dialect
        ⟨fragments, .quoted delimiter parts (some raw), interpolationMark :: rest⟩
        ⟨fragments, .quoted delimiter (parts ++ [.segment raw tokens]) none, rest⟩

/-- The ways in which a scan ends in a fault. -/
inductive Fails (inner : String → Except Halt (List Token)) (dialect : Dialect) :
    Account → Fault → Prop
  /-- The interpolation mark stands outside of strings. -/
  | outside {fragments word rest} :
      Fails inner dialect
        ⟨fragments, .plain word [], interpolationMark :: rest⟩
        ⟨.notInString, none, Fragment.extent fragments + word.length⟩
  /-- The interpolation mark stands in a string whose delimiter does not allow it. -/
  | forbidden {fragments delimiter parts rest}
      (plain : dialect.interpolatesIn delimiter = false) :
      Fails inner dialect
        ⟨fragments, .quoted delimiter parts none, interpolationMark :: rest⟩
        ⟨.notInInterpolationString delimiter, none, bodyStop fragments parts⟩
  /-- The text of an interpolation is at fault. -/
  | inside {fragments delimiter parts raw fault rest}
      (faulty : inner (String.ofList raw) = .error (.fault fault)) :
      Fails inner dialect
        ⟨fragments, .quoted delimiter parts (some raw), interpolationMark :: rest⟩
        (fault.moved (bodyStop fragments parts + 1))
  /-- The line ends inside a string. -/
  | unclosed {fragments delimiter parts} :
      Fails inner dialect
        ⟨fragments, .quoted delimiter parts none, []⟩
        ⟨.stringNotEnded, none, Fragment.extent fragments⟩
  /-- The line ends inside an interpolation. -/
  | unclosedSegment {fragments delimiter parts raw} :
      Fails inner dialect
        ⟨fragments, .quoted delimiter parts (some raw), []⟩
        ⟨.interpolationNotEnded, none, bodyStop fragments parts⟩

/-- What the rules lead to: the fragments of the line, or a fault. -/
inductive Runs (inner : String → Except Halt (List Token)) (dialect : Dialect) :
    Account → Except Fault (List Fragment) → Prop
  | ended {fragments word spelled} :
      Runs inner dialect
        ⟨fragments, .plain word spelled, []⟩
        (.ok (fragments ++ ending word spelled))
  | failed {account fault}
      (fails : Fails inner dialect account fault) :
      Runs inner dialect account (.error fault)
  | moved {account after result}
      (moves : Moves inner dialect account after)
      (runs : Runs inner dialect after result) :
      Runs inner dialect account result

section

variable {inner : String → Except Halt (List Token)} {dialect : Dialect}

/-- Reading on leaves the line as it is. -/
theorem line_of_moves
    {account after : Account}
    (moves : Moves inner dialect account after) :
    after.line = account.line := by
  cases moves with
  | _ => simp [line, passed, Mode.written, Fragment.written, Part.written]

/-- Reading on passes the characters that it takes from the rest. -/
theorem passed_of_moves
    {account after : Account}
    {taken : List Char}
    (moves : Moves inner dialect account after)
    (takes : account.rest = taken ++ after.rest) :
    after.passed = account.passed ++ taken := by
  have same := line_of_moves moves
  rw [line, line, takes, ← List.append_assoc] at same
  exact List.append_cancel_right same

end

end Account

end Brace
