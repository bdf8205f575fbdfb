import Brace.Dialect
import Brace.Reader
import Brace.Symbol
import Brace.Token

namespace Brace

/-!
# String literals

A string is read character by character up to the delimiter that opened it.  A backslash with one
of a few characters stands for another character; any other backslash is dropped.  Between two
interpolation marks the text is kept raw, for it is tokenized on its own.
-/

/-- An interpolation that is being read. -/
structure Segment where
  /-- The offset of the mark that opened it. -/
  start : Nat
  raw : String
  deriving Repr, DecidableEq

/-- The offset of the first character of a segment's text. -/
def Segment.textOffset (segment : Segment) : Except Halt Nat :=
  Offset.add segment.start 1

/-- A string that was opened and is not yet closed. -/
structure Literal where
  delimiter : Char
  /-- The offset of the opening delimiter. -/
  start : Nat
  /-- The decoded body so far, without interpolations. -/
  body : String
  /-- How many tokens of the line come before the string's own. -/
  insertAt : Nat
  segment : Option Segment
  deriving Repr, DecidableEq

namespace Literal

/-- A string that has just been opened. -/
def opened (delimiter : Char) (start insertAt : Nat) : Literal :=
  ⟨delimiter, start, "", insertAt, none⟩

/-- What a backslash with the given character stands for. -/
def decodeEscape (c : Char) : Option Char :=
  if c = '\\' then some '\\'
  else if c = 'n' then some '\n'
  else if c = 't' then some '\t'
  else if c = '"' then some '"'
  else if c = '\'' then some '\''
  else if c = interpolationMark then some interpolationMark
  else none

/-- The fault of a line that ends here. -/
def unterminated (literal : Literal) : Fault :=
  match literal.segment with
  | some segment => ⟨.interpolationNotEnded, none, segment.start⟩
  | none => ⟨.stringNotEnded, none, literal.start⟩

/-- The finished token; `stop` is one past the closing delimiter. -/
def toToken (literal : Literal) (stop : Nat) : Except Halt Token :=
  Token.string literal.body literal.start stop

/-- What reading on in a string came upon. -/
inductive Event
  | continued
  /-- The closing delimiter. -/
  | closed
  /-- The mark that ends an interpolation. -/
  | segmentClosed (segment : Segment)
  deriving Repr, DecidableEq

/-- The result of reading on: what was met, and string and reader as they are now. -/
structure Reading where
  outcome : Except Halt Event
  literal : Literal
  reader : Reader

/-- Read `c`, found at `pos` outside of interpolations; the reader stands after it. -/
def readBody (literal : Literal) (dialect : Dialect) (c : Char) (pos : Nat) (reader : Reader) :
    Reading :=
  if c = '\\' then
    match reader.peek.bind decodeEscape with
    | some decoded =>
        match reader.advance with
        | .ok (_, reader) =>
            ⟨.ok .continued, { literal with body := literal.body.push decoded }, reader⟩
        | .error halt => ⟨.error halt, literal, reader⟩
    | none => ⟨.ok .continued, literal, reader⟩
  else if c = literal.delimiter then
    ⟨.ok .closed, literal, reader⟩
  else if c = interpolationMark then
    if dialect.interpolatesIn literal.delimiter then
      ⟨.ok .continued, { literal with segment := some ⟨pos, ""⟩ }, reader⟩
    else
      ⟨.error (.fault ⟨.notInInterpolationString literal.delimiter, none, pos⟩), literal, reader⟩
  else
    ⟨.ok .continued, { literal with body := literal.body.push c }, reader⟩

/-- Read `c` inside an interpolation; the reader stands after it. -/
def readSegment (literal : Literal) (segment : Segment) (c : Char) (reader : Reader) : Reading :=
  if c = interpolationMark then
    ⟨.ok (.segmentClosed segment), { literal with segment := none }, reader⟩
  else
    ⟨.ok .continued,
      { literal with segment := some { segment with raw := segment.raw.push c } },
      reader⟩

/-- Read on by one character, or by two where a backslash takes the next one with it. -/
def read (literal : Literal) (dialect : Dialect) (reader : Reader) : Reading :=
  match reader.advance with
  | .error halt => ⟨.error halt, literal, reader⟩
  | .ok (none, reader) => ⟨.error (.fault literal.unterminated), literal, reader⟩
  | .ok (some c, after) =>
      match literal.segment with
      | some segment => literal.readSegment segment c after
      | none => literal.readBody dialect c reader.pos after

/-- Reading on in a string passes at least one character. -/
theorem length_rest_read
    {literal : Literal}
    {dialect : Dialect}
    {reader : Reader}
    {event : Event}
    (succeeds : (literal.read dialect reader).outcome = .ok event) :
    (literal.read dialect reader).reader.rest.length < reader.rest.length := by
  unfold read at succeeds ⊢
  split at succeeds
  · simp at succeeds
  · simp at succeeds
  · rename_i c after passed
    have shorter := Reader.length_rest_advance passed
    split
    · unfold readSegment
      split <;> exact shorter
    · unfold readBody
      split
      · split
        · split
          · rename_i next later again
            cases next with
            | none => exact Nat.lt_of_le_of_lt (Reader.length_rest_advance_le again) shorter
            | some next => exact Nat.lt_trans (Reader.length_rest_advance again) shorter
          · exact shorter
        · exact shorter
      · split
        · exact shorter
        · split
          · split <;> exact shorter
          · exact shorter

/-- Read on until that is no longer possible; lists every reading, the failing one last. -/
def readings (literal : Literal) (dialect : Dialect) (reader : Reader) : List Reading :=
  match _outcome : (literal.read dialect reader).outcome with
  | .error _ => [literal.read dialect reader]
  | .ok _ =>
      literal.read dialect reader ::
        readings
          (literal.read dialect reader).literal
          dialect
          (literal.read dialect reader).reader
termination_by reader.rest.length
decreasing_by exact length_rest_read (by assumption)

end Literal

end Brace
