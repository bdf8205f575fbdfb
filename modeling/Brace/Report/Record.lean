import Brace.Halt
import Brace.Report.Wording

namespace Brace

/-!
# Faults as JSON objects

The report of a fault for other programs.  Members come in alphabetical order.
-/

/-- The report of a fault in a named source. -/
def Fault.record (fault : Fault) (source : String) : Except Halt String := do
  let stop ← Offset.add fault.offset 1
  let span :=
    Text.Json.object
      [("end", Text.Json.number stop),
        ("label", Text.Json.string fault.cause.label),
        ("start", Text.Json.number fault.offset)]
  return Text.Json.object
    [("code", Text.Json.string fault.cause.code),
      ("file", Text.Json.string source),
      ("line", Text.Json.number? fault.line),
      ("message", Text.Json.string fault.cause.message),
      ("offset", Text.Json.number fault.offset),
      ("severity", Text.Json.string "error"),
      ("spans", Text.Json.array [span])]

end Brace
