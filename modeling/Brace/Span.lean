import Brace.Halt

namespace Brace

/-!
# Spans

A stretch of one line, counted in characters: from `start` up to but not including `stop`.
-/

/-- A stretch of a line. -/
structure Span where
  start : Nat
  stop : Nat
  deriving Repr, DecidableEq

namespace Span

/-- The span between two offsets, refused when they come in the wrong order. -/
def between (start stop : Nat) : Except Halt Span :=
  if start ≤ stop then .ok ⟨start, stop⟩ else .error (.breach (.spanReversed start stop))

/-- How many characters the span covers. -/
def length (span : Span) : Except Halt Nat :=
  Offset.sub span.stop span.start

/-- Whether the span covers nothing. -/
def isEmpty (span : Span) : Bool :=
  span.start == span.stop

/-- The span, moved right by some characters. -/
def shift (span : Span) (distance : Nat) : Except Halt Span := do
  let start ← Offset.add span.start distance
  let stop ← Offset.add span.stop distance
  return ⟨start, stop⟩

/-- Whether another span lies entirely inside this one. -/
def encloses (outer inner : Span) : Bool :=
  outer.start ≤ inner.start && inner.stop ≤ outer.stop

/-- The JSON form of a span. -/
def json (span : Span) : String :=
  Text.Json.object
    [("start", Text.Json.number span.start), ("end", Text.Json.number span.stop)]

end Span

end Brace
