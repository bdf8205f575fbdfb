import Brace.Fault
import Brace.Span

namespace Brace

/-!
# Where a fault lies in a source

A report is drawn against all lines of a source at once, joined by line feeds.  The extent of a
fault is the one character at fault there, or nothing when the offset is past the end of its line.
-/

/-- The position of the line that a fault names; a fault without a line belongs to the first. -/
def Fault.lineIndex (fault : Fault) : Nat :=
  match fault.line with
  | some line => line - 1
  | none => 0

/-- How many characters of the joined source come before the line at a position. -/
def lineStart : List String → Nat → Nat
  | line :: rest, index + 1 => line.length + 1 + lineStart rest index
  | _, _ => 0

/-- The stretch of the joined source that a fault is about. -/
def Fault.extent (fault : Fault) (lines : List String) : Span :=
  let first := lineStart lines fault.lineIndex
  let size := (lines[fault.lineIndex]?.map String.length).getD 0
  let start := first + min fault.offset size
  ⟨start, max (min (start + 1) (first + size)) start⟩

end Brace
