import Brace.Proofs.Culprit
import Brace.Proofs.DrawnLines
import Brace.Proofs.Overlong
import Brace.Text.Lines

namespace Brace

/-!
# The line that a report shows

The headline of a report numbers the line at fault as a line of its source; the drawing below it
shows a line under the number that it has among the lines of the drawing.  This number is never too
low, but it is right, and the line is the one at fault, only if no line of the drawing ends within a
line of the source up to there.
-/

/-- The fault of a text points at one of its characters, be the text too long for offsets or not. -/
theorem exists_pointsAt_of_fault
    {dialect : Dialect}
    {text : List Char}
    {fault : Fault}
    (faulty : tokenize dialect (String.ofList text) = .error (.fault fault)) :
    ∃ c, fault.PointsAt dialect text c := by
  by_cases fits : text.length < Offset.limit
  · exact exists_pointsAt_of_tokenize fits faulty
  · have faultyFirst := tokenize_take_of_fault (Nat.not_lt.mp fits) faulty
    obtain ⟨c, here, blames⟩ :=
      exists_pointsAt_of_tokenize (length_take_lt_limit text) faultyFirst
    rw [List.getElem?_take] at here
    split at here
    · exact ⟨c, here, blames⟩
    · cases here

namespace Fault

theorem Cause.isSpace_of_blames
    {dialect : Dialect}
    {cause : Cause}
    {c : Char}
    (blames : cause.Blames dialect c) :
    Unicode.isSpace c = false := by
  have mark : isMark c = true := by
    cases cause with
    | stringNotEnded => exact isMark_of_isQuote blames
    | notInString => simp [isMark, show c = interpolationMark from blames]
    | notInInterpolationString delimiter => simp [isMark, blames.1]
    | interpolationNotEnded => simp [isMark, show c = interpolationMark from blames]
  exact isSpace_of_isMark mark

/-- A fault at a character of a line is shown on the line of the drawing that holds it. -/
theorem exists_shownLine
    {fault : Fault}
    {lines : List String}
    {index : Nat}
    {text : String}
    {front back : List Char}
    {c : Char}
    (isLine : lines[index]? = some text)
    (numbered : fault.line = some (index + 1))
    (parted : text.toList = front ++ c :: back)
    (here : front.length = fault.offset)
    (noFeed : c ≠ '\n') :
    ∃ piece number,
      fault.shownLine? lines = some (piece, number) ∧
        index ≤ number ∧
        (number = index ↔
          (∀ line ∈ lines.take index, SourceLine.Undivided line.toList) ∧
            ∀ d ∈ front, SourceLine.endsLine d = false) ∧
        (number = index →
          piece.text = front ++ SourceLine.firstPiece (c :: (back ++ textAfter lines index))) := by
  have inside : fault.offset < text.length := by
    rw [← String.length_toList, parted, List.length_append, List.length_cons]
    omega
  have start :
      (fault.extent lines).start = (textBefore lines index).length + front.length := by
    rw [extent_of_lt isLine numbered inside, lineStart_eq_length, here]
  have whole :
      ("\n".intercalate lines).toList =
        textBefore lines index ++ (front ++ c :: (back ++ textAfter lines index)) := by
    rw [joined_eq isLine, parted]
    simp
  have count : (lines.take index).length = index := by
    rw [List.length_take]
    have bound := (List.getElem?_eq_some_iff.mp isLine).1
    omega
  obtain ⟨piece, number, held, notLow, right, shows⟩ :=
    SourceLine.exists_holding (lines.take index) front (back ++ textAfter lines index) noFeed
  rw [count] at notLow right shows
  refine ⟨piece, number, ?_, notLow, right, shows⟩
  rw [shownLine?, whole, start, if_neg]
  · exact held
  · simp

/-- The drawing of a fault next to the line at a position with some text, which the fault names. -/
structure Shows
    (fault : Fault)
    (lines : List String)
    (index : Nat)
    (text : String)
    (drawing : Drawing) : Prop where
  isLine : lines[index]? = some text
  numbered : fault.line = some (index + 1)
  told :
    fault.message =
      "line " ++ toString (index + 1) ++ ", character " ++ toString fault.offset ++ ": "
        ++ fault.cause.message
  notLow : index + 1 ≤ drawing.number
  /-- What is shown is the line at fault under its own number. -/
  own_iff :
    drawing.number = index + 1 ∧ drawing.line = Unicode.trimRight text.toList ↔
      (∀ line ∈ lines.take index, SourceLine.Undivided line.toList) ∧
        ∀ c ∈ Unicode.trimRight text.toList, SourceLine.endsLine c = false

/-- The fault of a line of a source is drawn. -/
theorem exists_shows
    {dialect : Dialect}
    {lines : List String}
    {index : Nat}
    {text : String}
    {fault : Fault}
    (isLine : lines[index]? = some text)
    (halts : tokenize dialect text = .error (.fault fault))
    (color : Bool) :
    ∃ drawing,
      (fault.atLine (index + 1)).drawing? lines color = some drawing ∧
        (fault.atLine (index + 1)).Shows lines index text drawing := by
  obtain ⟨c, here, blames⟩ :=
    @exists_pointsAt_of_fault dialect text.toList fault (by rwa [String.ofList_toList])
  have solid : Unicode.isSpace c = false := Cause.isSpace_of_blames blames
  obtain ⟨inText, isChar⟩ := List.getElem?_eq_some_iff.mp here
  obtain ⟨front, back, parted, size⟩ :
      ∃ front back, text.toList = front ++ c :: back ∧ front.length = fault.offset := by
    refine ⟨text.toList.take fault.offset, text.toList.drop (fault.offset + 1), ?_, ?_⟩
    · rw [← isChar, List.getElem_cons_drop, List.take_append_drop]
    · rw [List.length_take]
      omega
  obtain ⟨piece, number, shown, notLow, right, shows⟩ :=
    @exists_shownLine (fault.atLine (index + 1)) _ _ _ _ _ _ isLine rfl parted size
      (by rintro rfl; cases solid)
  have drawn :
      (fault.atLine (index + 1)).drawing? lines color =
        some
          ⟨color, number + 1, piece.start, Unicode.trimRight piece.text,
            (fault.atLine (index + 1)).extent lines⟩ := by
    rw [drawing?, shown]
    rfl
  refine ⟨_, drawn, isLine, rfl, rfl, Nat.succ_le_succ notLow, ?_⟩
  have wholeLine :
      (∀ d ∈ Unicode.trimRight text.toList, SourceLine.endsLine d = false) ↔
        (∀ d ∈ front, SourceLine.endsLine d = false) ∧
          ∀ d ∈ Unicode.trimRight back, SourceLine.endsLine d = false := by
    rw [parted, Unicode.trimRight_append_cons _ _ solid, List.forall_mem_append,
      List.forall_mem_cons, and_iff_right (SourceLine.endsLine_of_isSpace solid)]
  rw [Nat.add_right_cancel_iff, wholeLine, ← and_assoc, ← right]
  refine and_congr_right fun same => ?_
  rw [shows same, parted,
    SourceLine.trimRight_append_firstPiece_iff _ _ solid (head?_textAfter lines index)]

end Fault

namespace CommandLine.Source

open Emission

/--
Work on a source that ends in a fault reports it by a headline with the number of the line at fault
and the rows of a drawing.  The drawing shows this line under this number if and only if no line of
a drawing ends within a line of the source before it, nor within this one but for the whitespace at
its end.
-/
theorem draws_own_line_iff
    {source : Source}
    {settings : Settings}
    (inText : settings.form = .text)
    (faulty : (source.process settings).verdict = .faulty) :
    ∃ (fault : Fault) (index : Nat) (text : String) (drawing : Drawing),
      firstFault? settings.dialect 0 source.lines = some fault ∧
        reports (source.process settings).emissions =
          [String.join
            ((fault.headline source.name settings.color :: drawing.rows fault.cause).map
              fun row => row ++ "\n")] ∧
        fault.drawing? source.lines settings.color = some drawing ∧
        fault.Shows source.lines index text drawing := by
  have works := @works_process source settings (by rw [faulty]; exact nofun)
  have ends := works.ends
  generalize source.process settings = outcome at ends faulty ⊢
  generalize first : firstFault? settings.dialect 0 source.lines = found at ends
  cases ends with
  | clean quiet => cases faulty
  | faulty reported tells =>
      obtain ⟨before, text, after, found, halted, parted, -, halts, rfl⟩ :=
        exists_of_firstFault? first
      rw [Nat.zero_add] at reported
      have isLine : source.lines[before.length]? = some text := by
        rw [parted, List.getElem?_append_right (Nat.le_refl _), Nat.sub_self,
          List.getElem?_cons_zero]
      obtain ⟨drawing, drawn, shows⟩ := Fault.exists_shows isLine halts settings.color
      rw [report, inText] at reported
      cases reported
      rw [Nat.zero_add]
      refine ⟨_, _, text, drawing, rfl, ?_, drawn, shows⟩
      rw [tells, Fault.drawn, drawn]

/-- A return at the end of a line is no harm, nor is a form feed after the mark. -/
theorem draws_own_line_after_return :
    ∃ drawing : Drawing,
      Fault.drawing? ⟨.notInString, some 2, 0⟩ ["b\r", "\x60\x0C"] true = some drawing ∧
        drawing.number = 2 ∧ drawing.line = ['\x60'] := by
  have isFirst :
      firstFault? .usual 0 ["b\r", "\x60\x0C"] = some ⟨.notInString, some 2, 0⟩ := by
    decide +kernel
  obtain ⟨fault, index, text, drawing, first, -, drawn, shows⟩ :=
    @draws_own_line_iff ⟨"a.brace", ["b\r", "\x60\x0C"]⟩ ⟨.usual, .text, true, .warn⟩ rfl
      (by decide +kernel)
  obtain rfl := Option.some.inj (isFirst.symm.trans first)
  obtain rfl : index = 1 := by
    simpa using shows.numbered.symm
  obtain rfl : "\x60\x0C" = text := by
    simpa using shows.isLine
  have trimmed : Unicode.trimRight "\x60\x0C".toList = ['\x60'] := by
    decide +kernel
  have own := shows.own_iff
  rw [trimmed] at own
  exact ⟨drawing, drawn, own.mpr ⟨by decide +kernel, by simp [SourceLine.endsLine]⟩⟩

/--
With a form feed in the first line of a file the headline names line 2 for the mark after it, but
the drawing shows this line as line 3.
-/
theorem draws_form_feed_misnumbered :
    Text.Lines.ofFile "b\x0Cc\n\x60" = ["b\x0Cc", "\x60"] ∧
      firstFault? .usual 0 ["b\x0Cc", "\x60"] = some ⟨.notInString, some 2, 0⟩ ∧
      (Fault.drawing? ⟨.notInString, some 2, 0⟩ ["b\x0Cc", "\x60"] false).map Drawing.number =
          some 3 ∧
      reports
            (process ⟨"a.brace", ["b\x0Cc", "\x60"]⟩ ⟨.usual, .text, false, .warn⟩).emissions =
          [String.join
            ["[NOT_IN_STRING] Error: a.brace: line 2, character 0: ",
              "interpolation delimiter outside of a string\n",
              "   ╭─[ <unknown>:3:1 ]\n",
              "   │\n",
              " 3 │ \x60\n",
              "   │ ┬  \n",
              "   │ ╰── interpolation outside of a string\n",
              "   │ \n",
              "   │ Help: escape it as \\\x60 to use it as text\n",
              "───╯\n"]] := by
  decide +kernel

end CommandLine.Source

end Brace
