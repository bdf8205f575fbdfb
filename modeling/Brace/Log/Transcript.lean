import Brace.Lexer
import Brace.Log.Event

namespace Brace

/-!
# What a scan has to tell

The events of the scan of a line, read off the scan at the beginning of each of its rounds.
-/

open Log (Event)

namespace Scan

/-- Told when a word is ended. -/
def wordEvents (word : Option Word) : List Event :=
  match word with
  | some word =>
      match word.stop with
      | .ok stop => [.word word.start stop word.text]
      | .error _ => []
  | none => []

/-- Told when a step of the matcher is acted on. -/
def stepEvents (word : Option Word) : Matcher.Step → List Event
  | .matched symbol start stop _ =>
      match symbol.meaning with
      | .token kind => wordEvents word ++ [.symbol kind start stop]
      | .quote delimiter => wordEvents word ++ [.stringOpened start delimiter]
      | .interpolation => []
      | .escaped => []
  | .pending => []
  | .unknown _ _ _ => []

/-- Told when a string is read on; `inner` tells about the text of an interpolation. -/
def quotedEvents (inner : String → List Event) (literal : Literal) (pos : Nat)
    (reading : Literal.Reading) : List Event :=
  match reading.outcome with
  | .ok .continued =>
      if literal.segment.isNone && reading.literal.segment.isSome then
        [.interpolationOpened pos]
      else
        []
  | .ok .closed => [.stringClosed literal.start (pos + 1)]
  | .ok (.segmentClosed segment) =>
      [.interpolationClosed segment.start pos,
        .tokenizingInterpolation (segment.start + 1) segment.raw]
        ++ inner segment.raw
  | .error _ => []

/-- Told when a line has been read to its end. -/
def finishEvents (scan : Scan) : List Event :=
  let settling :=
    match scan.mode with
    | .plain matcher word =>
        match matcher.finish scan.reader.pos with
        | some step => stepEvents word step
        | none => []
    | .quoted _ => []
  let flushing :=
    match scan.settle with
    | .ok ⟨_, .plain _ word, _⟩ => wordEvents word
    | .ok ⟨_, .quoted _, _⟩ => []
    | .error _ => []
  settling ++ flushing

/-- Told in the round that begins here. -/
def roundEvents (inner : String → List Event) (dialect : Dialect) (scan : Scan) : List Event :=
  match scan.reader.peek with
  | none => scan.finishEvents
  | some c =>
      match scan.mode with
      | .plain matcher word =>
          if matcher.isIdle && Unicode.isSpace c then
            wordEvents word
          else
            match matcher.feed c scan.reader.prev scan.reader.pos with
            | .ok (_, step) => stepEvents word step
            | .error _ => []
      | .quoted literal =>
          quotedEvents inner literal scan.reader.pos (literal.read dialect scan.reader)

end Scan

/-- The events of the scan of a text, with those of its interpolations in their places. -/
def transcript (dialect : Dialect) (text : String) : List Event :=
  let inner := fun raw =>
    if _shorter : raw.length < text.length then transcript dialect raw else []
  ((Scan.ofText text).rounds (tokenize dialect) dialect).flatMap (Scan.roundEvents inner dialect)
termination_by text.length

/-- The events of a line, from the announcement to the count of its tokens. -/
def lineTranscript (dialect : Dialect) (text : String) (line : Nat) : List Event :=
  let closing :=
    match tokenize dialect text with
    | .ok tokens => [.lineScanned line tokens.length]
    | .error _ => []
  .scanningLine line text.length :: transcript dialect text ++ closing

end Brace
