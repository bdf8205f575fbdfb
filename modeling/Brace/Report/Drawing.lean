import Brace.Report.Extent
import Brace.Report.SourceLine
import Brace.Report.Wording
import Brace.Text.Paint
import Brace.Unicode.Space
import Brace.Unicode.Width

namespace Brace

/-!
# Faults as drawings

The report of a fault for people: a headline, the line at fault, and below it a mark under the
culprit with an arrow to what is wrong there.
-/

open Text (Paint)

/-- What a drawing shows below its headline. -/
structure Drawing where
  color : Bool
  /-- The number of the line shown. -/
  number : Nat
  /-- The offset of the line in the source. -/
  lineStart : Nat
  /-- The line without whitespace at its end. -/
  line : List Char
  /-- The stretch of the source that is marked. -/
  extent : Span

namespace Drawing

/-- Some spaces. -/
def spaces (count : Nat) : String :=
  String.ofList (List.replicate count ' ')

/-- Some repetitions of a piece of text. -/
def repeated (count : Nat) (piece : String) : String :=
  String.join (List.replicate count piece)

/-- How many digits the number of the line has. -/
def digits (drawing : Drawing) : Nat :=
  (toString drawing.number).length

/-- The position of the mark in the line. -/
def column (drawing : Drawing) : Nat :=
  drawing.extent.start - drawing.lineStart

/-- How many cells the character at a position of the line takes; tabs stop at every fourth. -/
def cellCount (c : Char) (index : Nat) : Nat :=
  if c = '\t' then 4 - index % 4
  else if Unicode.isSpace c then 1
  else Unicode.width c

/-- How many cells the position takes, be it in the line or past its end. -/
def cellsAt (drawing : Drawing) (index : Nat) : Nat :=
  match drawing.line[index]? with
  | some c => cellCount c index
  | none => 1

/-- The cells of the character at a position of the line. -/
def cells (c : Char) (index : Nat) : List String :=
  if Unicode.isSpace c then List.replicate (cellCount c index) " " else [c.toString]

/-- Whether an offset of the source is marked. -/
def marks (drawing : Drawing) (offset : Nat) : Bool :=
  drawing.extent.start ≤ offset && offset < drawing.extent.stop

/-- The paint of frames. -/
def frame (drawing : Drawing) (piece : String) : String :=
  Paint.apply (.palette 246) drawing.color piece

/-- The paint of the mark and its arrow. -/
def accent (drawing : Drawing) (piece : String) : String :=
  Paint.apply .red drawing.color piece

/-- The left edge of a row below the line. -/
def margin (drawing : Drawing) : String :=
  " " ++ Paint.apply (.palette 240) drawing.color (spaces (drawing.digits + 1) ++ "│") ++ " "

/-- Where the line is: its number and the column of the mark, both from 1. -/
def locationRow (drawing : Drawing) : String :=
  spaces (drawing.digits + 2) ++ drawing.frame "╭" ++ drawing.frame "─" ++ drawing.frame "["
    ++ " <unknown>:" ++ toString drawing.number ++ ":" ++ toString (drawing.column + 1) ++ " "
    ++ drawing.frame "]"

/-- An empty row before the line. -/
def leadRow (drawing : Drawing) : String :=
  spaces (drawing.digits + 2) ++ drawing.frame "│"

/-- The line itself, every cell painted. -/
def sourceRow (drawing : Drawing) : String :=
  let painted := drawing.line.zipIdx.map fun (c, index) =>
    let paint : Paint :=
      if drawing.marks (drawing.lineStart + index) then .red else .palette 249
    String.join ((cells c index).map (paint.apply drawing.color))
  " " ++ drawing.frame (toString drawing.number ++ " │") ++ " " ++ String.join painted

/-- The positions that the arrow spans: the line up to the marked stretch, and two more. -/
def arrowPositions (drawing : Drawing) : List Nat :=
  List.range (drawing.extent.stop - drawing.lineStart + 2)

/-- The mark at the position of the culprit. -/
def mark (drawing : Drawing) (cells : Nat) : String :=
  match cells with
  | 0 => ""
  | more + 1 =>
      if drawing.marks drawing.extent.start then
        drawing.accent "┬" ++ repeated more (drawing.accent "─")
      else
        drawing.accent "│" ++ repeated more (drawing.accent " ")

/-- The row with the mark below the culprit. -/
def markRow (drawing : Drawing) : String :=
  let pieces := drawing.arrowPositions.map fun index =>
    let cells := drawing.cellsAt index
    if index = drawing.column then drawing.mark cells else spaces cells
  drawing.margin ++ String.join pieces

/-- The part of the arrow at a position. -/
def arrow (drawing : Drawing) (index cells : Nat) : String :=
  if index < drawing.column then
    spaces cells
  else if index = drawing.column then
    match cells with
    | 0 => ""
    | more + 1 => drawing.accent "╰" ++ repeated more (drawing.accent "─")
  else
    repeated cells (drawing.accent "─")

/-- The row with the arrow and what it points out. -/
def labelRow (drawing : Drawing) (label : String) : String :=
  let pieces := drawing.arrowPositions.map fun index =>
    drawing.arrow index (drawing.cellsAt index)
  drawing.margin ++ String.join pieces ++ " " ++ label

/-- The rows with a suggestion. -/
def helpRows (drawing : Drawing) (help : String) : List String :=
  [drawing.margin,
    drawing.margin ++ Paint.apply (.palette 115) drawing.color "Help" ++ ": " ++ help]

/-- The closing edge. -/
def footRow (drawing : Drawing) : String :=
  drawing.frame (repeated (drawing.digits + 2) "─" ++ "╯")

/-- All rows. -/
def rows (drawing : Drawing) (cause : Fault.Cause) : List String :=
  [drawing.locationRow, drawing.leadRow, drawing.sourceRow, drawing.markRow,
    drawing.labelRow cause.label]
    ++ (cause.help.map drawing.helpRows).getD []
    ++ [drawing.footRow]

end Drawing

namespace Fault

/-- The line of a source on which a fault is drawn, with its position, if there is one. -/
def shownLine? (fault : Fault) (lines : List String) : Option (SourceLine × Nat) :=
  let source := ("\n".intercalate lines).toList
  let offset := (fault.extent lines).start
  if source.length < offset then
    none
  else
    SourceLine.holding offset (SourceLine.ofSource source)

/-- The drawing of a fault, if there is a line to draw it on. -/
def drawing? (fault : Fault) (lines : List String) (color : Bool) : Option Drawing :=
  (fault.shownLine? lines).map fun (line, index) =>
    ⟨color, index + 1, line.start, Unicode.trimRight line.text, fault.extent lines⟩

/-- The first line of a report. -/
def headline (fault : Fault) (source : String) (color : Bool) : String :=
  Paint.apply .red color ("[" ++ fault.cause.code ++ "] Error:")
    ++ " " ++ source ++ ": " ++ fault.message

/-- The report of a fault in a named source with the given lines. -/
def drawn (fault : Fault) (source : String) (lines : List String) (color : Bool) : String :=
  let rows :=
    match fault.drawing? lines color with
    | some drawing => drawing.rows fault.cause
    | none => []
  String.join ((fault.headline source color :: rows).map fun row => row ++ "\n")

end Fault

end Brace
