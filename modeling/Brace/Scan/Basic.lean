import Brace.Literal
import Brace.Matcher
import Brace.Unicode.Space

namespace Brace

/-!
# Scans

The scan of one line.  Outside of strings, symbols become tokens and all other text is gathered into
words, which whitespace and symbols end.  A string is read up to its closing delimiter; its token is
then put before the tokens of its interpolations, each of which is tokenized by `inner`.
-/

/-- Text that spells no symbol and whose end is not yet known. -/
structure Word where
  start : Nat
  text : String
  deriving Repr, DecidableEq

namespace Word

/-- The offset after a word. -/
def stop (word : Word) : Except Halt Nat :=
  Offset.add word.start word.text.length

/-- Add text found at `start` to a word, or begin one with it. -/
def extend (word : Option Word) (text : List Char) (start : Nat) : Except Halt Word :=
  match word with
  | none => return ⟨start, String.ofList text⟩
  | some word => do
      let stop ← word.stop
      if stop = start then
        return { word with text := word.text ++ String.ofList text }
      else
        throw (.breach (.wordGap stop start))

/-- The tokens with the word after them, if there is one. -/
def flush (word : Option Word) (tokens : List Token) : Except Halt (List Token) :=
  match word with
  | none => return tokens
  | some word => do
      let stop ← word.stop
      let token ← Token.word word.text word.start stop
      return tokens ++ [token]

end Word

/-- What a scan is in the middle of. -/
inductive Mode
  /-- Outside of strings, perhaps within a symbol and after a part of a word. -/
  | plain (matcher : Matcher) (word : Option Word)
  /-- Inside a string. -/
  | quoted (literal : Literal)
  deriving Repr, DecidableEq

/-- How far the scan of a line has come. -/
structure Scan where
  reader : Reader
  mode : Mode
  tokens : List Token
  deriving Repr, DecidableEq

namespace Scan

/-- The scan of a line before its first character. -/
def ofText (text : String) : Scan :=
  ⟨Reader.ofText text, .plain .idle none, []⟩

/-- Pass the character to come if it was consumed. -/
def passIf (consumed : Bool) (reader : Reader) : Except Halt Reader :=
  if consumed then do
    let (_, reader) ← reader.advance
    return reader
  else
    return reader

/-- Act on a recognised symbol. -/
def recognise (reader : Reader) (matcher : Matcher) (word : Option Word) (tokens : List Token)
    (symbol : Symbol) (start stop : Nat) : Except Halt Scan :=
  match symbol.meaning with
  | .token kind => do
      let tokens ← Word.flush word tokens
      let token ← Token.plain kind start stop
      return ⟨reader, .plain matcher none, tokens ++ [token]⟩
  | .quote delimiter => do
      let tokens ← Word.flush word tokens
      return ⟨reader, .quoted (.opened delimiter start tokens.length), tokens⟩
  | .interpolation => throw (.fault ⟨.notInString, none, start⟩)
  | .escaped => do
      let word ← Word.extend word symbol.spelling start
      return ⟨reader, .plain matcher (some word), tokens⟩

/-- Act on a step of the matcher, which leaves it as `matcher`. -/
def apply (reader : Reader) (matcher : Matcher) (word : Option Word) (tokens : List Token) :
    Matcher.Step → Except Halt Scan
  | .pending => do
      let reader ← passIf true reader
      return ⟨reader, .plain matcher word, tokens⟩
  | .matched symbol start stop consumed => do
      let reader ← passIf consumed reader
      recognise reader matcher word tokens symbol start stop
  | .unknown text start consumed => do
      let reader ← passIf consumed reader
      let word ← Word.extend word text start
      return ⟨reader, .plain matcher (some word), tokens⟩

/-- Take the next character `c` outside of strings. -/
def stepPlain (reader : Reader) (matcher : Matcher) (word : Option Word) (tokens : List Token)
    (c : Char) : Except Halt Scan :=
  if matcher.isIdle && Unicode.isSpace c then do
    let tokens ← Word.flush word tokens
    let reader ← passIf true reader
    return ⟨reader, .plain matcher none, tokens⟩
  else do
    let (after, step) ← matcher.feed c reader.prev reader.pos
    apply reader after word tokens step

/-- Put the tokens of an interpolation after those of the line so far. -/
def splice (inner : String → Except Halt (List Token)) (segment : Segment) (tokens : List Token) :
    Except Halt (List Token) := do
  let offset ← segment.textOffset
  match inner segment.raw with
  | .ok found => do
      let moved ← found.mapM fun token => token.shift offset
      return tokens ++ moved
  | .error halt => throw (halt.shift offset)

/-- Act on what was met inside a string, before which the reader was at `pos`. -/
def stepQuoted (inner : String → Except Halt (List Token)) (reader : Reader) (literal : Literal)
    (tokens : List Token) (pos : Nat) : Literal.Event → Except Halt Scan
  | .continued => return ⟨reader, .quoted literal, tokens⟩
  | .closed => do
      let stop ← Offset.add pos 1
      let token ← literal.toToken stop
      return ⟨reader, .plain .idle none, tokens.insertIdx literal.insertAt token⟩
  | .segmentClosed segment => do
      let tokens ← splice inner segment tokens
      return ⟨reader, .quoted literal, tokens⟩

/-- Go on by one round; at the end of the line nothing changes. -/
def step (inner : String → Except Halt (List Token)) (dialect : Dialect) (scan : Scan) :
    Except Halt Scan :=
  match scan.reader.peek with
  | none => return scan
  | some c =>
      match scan.mode with
      | .plain matcher word => stepPlain scan.reader matcher word scan.tokens c
      | .quoted literal => do
          let reading := literal.read dialect scan.reader
          let event ← reading.outcome
          stepQuoted inner reading.reader reading.literal scan.tokens scan.reader.pos event

/-- Resolve a symbol that the end of the line cuts short. -/
def settle (scan : Scan) : Except Halt Scan :=
  match scan.mode with
  | .plain matcher word =>
      match matcher.finish scan.reader.pos with
      | some step => apply scan.reader .idle word scan.tokens step
      | none => return scan
  | .quoted _ => return scan

/-- Whether each token starts no later than the next one. -/
def startsAscend : List Token → Bool
  | first :: second :: rest =>
      first.span.start ≤ second.span.start && startsAscend (second :: rest)
  | _ => true

/-- The tokens of a line that has been read to its end. -/
def finish (scan : Scan) : Except Halt (List Token) := do
  let settled ← scan.settle
  match settled.mode with
  | .quoted literal => throw (.fault literal.unterminated)
  | .plain _ word => do
      let tokens ← Word.flush word settled.tokens
      if startsAscend tokens then return tokens else throw (.breach .startsOutOfOrder)

end Scan

end Brace
