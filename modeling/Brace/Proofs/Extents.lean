import Mathlib.Algebra.GroupWithZero.Nat
import Mathlib.Data.List.Basic
import Brace.Report.Extent

namespace Brace

/-!
# Extents in the joined source

A report counts the characters of all lines together, joined by line feeds.  The characters of a
line follow those of the lines before it, each with its line feed, and the extent of a fault keeps
to the characters of its own line.
-/

/-! ## Lines in the joined source -/

/-- The lines before a position, each with its line feed. -/
def textBefore (lines : List String) (index : Nat) : List Char :=
  (lines.take index).flatMap fun line => line.toList ++ ['\n']

@[simp] theorem textBefore_zero
    (lines : List String) :
    textBefore lines 0 = [] := rfl

theorem textBefore_cons_succ
    (line : String)
    (lines : List String)
    (index : Nat) :
    textBefore (line :: lines) (index + 1) =
      line.toList ++ '\n' :: textBefore lines index := by
  simp [textBefore]

/-- A line starts after all that comes before it. -/
theorem lineStart_eq_length
    (lines : List String)
    (index : Nat) :
    lineStart lines index = (textBefore lines index).length := by
  induction lines generalizing index with
  | nil => cases index <;> rfl
  | cons line lines inductionHypothesis =>
      cases index with
      | zero => rfl
      | succ index =>
          rw [lineStart, inductionHypothesis, textBefore_cons_succ, List.length_append,
            List.length_cons, String.length_toList]
          omega

theorem lineStart_eq_sum
    (lines : List String)
    (index : Nat) :
    lineStart lines index = ((lines.take index).map fun line => line.length + 1).sum := by
  rw [lineStart_eq_length, textBefore, List.length_flatMap]
  simp [String.length_toList]

theorem lineStart_succ
    {lines : List String}
    {index : Nat}
    {text : String}
    (isLine : lines[index]? = some text) :
    lineStart lines (index + 1) = lineStart lines index + text.length + 1 := by
  rw [lineStart_eq_sum, lineStart_eq_sum, List.take_add_one, isLine]
  simp [Nat.add_assoc]

theorem lineStart_mono
    {lines : List String}
    {first second : Nat}
    (le : first ≤ second) :
    lineStart lines first ≤ lineStart lines second := by
  have isPrefix : lines.take first <+: lines.take second :=
    List.take_prefix_take_left le
  obtain ⟨more, whole⟩ := isPrefix
  rw [lineStart_eq_sum, lineStart_eq_sum, ← whole]
  simp

/-- All that comes after a line in the joined source: its line feed and the lines after it. -/
def textAfter (lines : List String) (index : Nat) : List Char :=
  match lines.drop (index + 1) with
  | [] => []
  | later => '\n' :: ("\n".intercalate later).toList

theorem head?_textAfter
    (lines : List String)
    (index : Nat) :
    textAfter lines index = [] ∨ (textAfter lines index).head? = some '\n' := by
  unfold textAfter
  split
  · exact Or.inl rfl
  · exact Or.inr rfl

/-- The joined source falls into a line, what comes before it and what comes after it. -/
theorem joined_eq
    {lines : List String}
    {index : Nat}
    {text : String}
    (isLine : lines[index]? = some text) :
    ("\n".intercalate lines).toList =
      textBefore lines index ++ (text.toList ++ textAfter lines index) := by
  induction lines generalizing index with
  | nil => cases isLine
  | cons line lines inductionHypothesis =>
      cases index with
      | zero =>
          cases isLine
          cases lines with
          | nil => simp [textAfter]
          | cons next lines =>
              rw [String.intercalate_cons_cons]
              simp [textAfter]
      | succ index =>
          rw [List.getElem?_cons_succ] at isLine
          have others := inductionHypothesis isLine
          have nonempty : lines ≠ [] := by
            rintro rfl
            cases isLine
          obtain ⟨next, later, rfl⟩ := List.exists_cons_of_ne_nil nonempty
          rw [String.intercalate_cons_cons, textBefore_cons_succ]
          simp [others, textAfter]

/-- The joined source ends one line feed earlier than all lines with theirs. -/
theorem length_joined
    {lines : List String}
    (filled : lines ≠ []) :
    ("\n".intercalate lines).toList.length + 1 = lineStart lines lines.length := by
  have inside : lines.length - 1 < lines.length :=
    Nat.sub_lt (List.length_pos_iff.mpr filled) Nat.one_pos
  have isLast : lines[lines.length - 1]? = some lines[lines.length - 1] :=
    List.getElem?_eq_getElem inside
  have size : lines.length - 1 + 1 = lines.length := by omega
  have next := lineStart_succ isLast
  rw [size] at next
  rw [joined_eq isLast, textAfter, size, List.drop_length, next, lineStart_eq_length]
  simp [Nat.add_assoc, String.length_toList]

/-- After the last line no more is counted. -/
theorem lineStart_of_le
    {lines : List String}
    {index : Nat}
    (past : lines.length ≤ index) :
    lineStart lines index = lineStart lines lines.length := by
  rw [lineStart_eq_sum, lineStart_eq_sum, List.take_of_length_le past, List.take_length]

/-- A character of a line stands in the joined source that many characters after its line begins. -/
theorem getElem?_joined
    {lines : List String}
    {index offset : Nat}
    {text : String}
    {c : Char}
    (isLine : lines[index]? = some text)
    (here : text.toList[offset]? = some c) :
    ("\n".intercalate lines).toList[lineStart lines index + offset]? = some c := by
  obtain ⟨inText, _⟩ := List.getElem?_eq_some_iff.mp here
  rw [joined_eq isLine, lineStart_eq_length, List.getElem?_append_right (Nat.le_add_right _ _),
    Nat.add_sub_cancel_left, List.getElem?_append_left inText, here]

/-- A line begins and ends within the joined source. -/
theorem lineStart_add_length_le
    {lines : List String}
    {index : Nat}
    {text : String}
    (isLine : lines[index]? = some text) :
    lineStart lines index + text.length ≤ ("\n".intercalate lines).toList.length := by
  rw [joined_eq isLine, List.length_append, List.length_append, lineStart_eq_length,
    String.length_toList]
  omega

/-- The place of a character of a line, or of the line feed after it, is that of no other one. -/
theorem lineStart_add_inj
    {lines : List String}
    {first second firstOffset secondOffset : Nat}
    {firstText secondText : String}
    (isFirst : lines[first]? = some firstText)
    (isSecond : lines[second]? = some secondText)
    (inFirst : firstOffset ≤ firstText.length)
    (inSecond : secondOffset ≤ secondText.length)
    (same : lineStart lines first + firstOffset = lineStart lines second + secondOffset) :
    first = second ∧ firstOffset = secondOffset := by
  have afterFirst := lineStart_succ isFirst
  have afterSecond := lineStart_succ isSecond
  rcases Nat.lt_trichotomy first second with before | rfl | after
  · have later : lineStart lines (first + 1) ≤ lineStart lines second := lineStart_mono before
    omega
  · exact ⟨rfl, Nat.add_left_cancel same⟩
  · have later : lineStart lines (second + 1) ≤ lineStart lines first := lineStart_mono after
    omega

/-! ## Extents -/

namespace Fault

/-- The position of its line, counted from the number of the line if it has one. -/
theorem lineIndex_eq
    (fault : Fault) :
    fault.lineIndex = fault.line.getD 0 - 1 := by
  unfold lineIndex
  cases fault.line <;> rfl

variable {fault : Fault} {lines : List String} {text : String}

/-- The extent of a fault with a line keeps to this line. -/
theorem extent_of_isLine
    (isLine : lines[fault.lineIndex]? = some text) :
    fault.extent lines =
      ⟨lineStart lines fault.lineIndex + min fault.offset text.length,
        lineStart lines fault.lineIndex + min (fault.offset + 1) text.length⟩ := by
  simp only [extent, isLine, Option.map_some, Option.getD_some, Span.mk.injEq, true_and]
  omega

/-- The extent of a fault without a line is empty and comes after all lines with their line feeds. -/
theorem extent_of_noLine
    (noLine : lines[fault.lineIndex]? = none) :
    fault.extent lines = ⟨lineStart lines lines.length, lineStart lines lines.length⟩ := by
  rw [extent, noLine, lineStart_of_le (List.getElem?_eq_none_iff.mp noLine)]
  simp

/-- The extent of a fault at a character is this character. -/
theorem extent_of_lt
    {index : Nat}
    (isLine : lines[index]? = some text)
    (numbered : fault.line = some (index + 1))
    (inside : fault.offset < text.length) :
    fault.extent lines =
      ⟨lineStart lines index + fault.offset, lineStart lines index + fault.offset + 1⟩ := by
  obtain rfl : index = fault.lineIndex := by
    simp [lineIndex_eq, numbered]
  rw [extent_of_isLine isLine, Nat.min_eq_left inside, Nat.min_eq_left (Nat.le_of_lt inside)]
  rfl

end Fault

/--
The extent of a fault is clamped to its own line, the one at a position with some text: it begins
at the offset, or at the end of the line.
-/
structure Fault.Clamped
    (fault : Fault)
    (lines : List String)
    (index : Nat)
    (text : String) : Prop where
  begins :
    (fault.extent lines).start =
      ((lines.take index).map fun line => line.length + 1).sum + min fault.offset text.length
  narrow : (fault.extent lines).stop = (fault.extent lines).start + 1 ↔ fault.offset < text.length
  empty : (fault.extent lines).stop = (fault.extent lines).start ↔ text.length ≤ fault.offset
  /-- Of the characters of all lines and of the line feeds after them it covers one at most. -/
  apart :
    ∀ other line offset,
      lines[other]? = some line →
        offset ≤ line.length →
          (fault.extent lines).start ≤
              ((lines.take other).map fun line => line.length + 1).sum + offset →
            ((lines.take other).map fun line => line.length + 1).sum + offset <
                (fault.extent lines).stop →
              other = index ∧ offset = fault.offset ∧ offset < text.length
  inSource : (fault.extent lines).stop ≤ ("\n".intercalate lines).toList.length
  /-- What it covers is the character of its line at the offset. -/
  covers :
    ∀ place,
      (fault.extent lines).start ≤ place →
        place < (fault.extent lines).stop →
          ∃ c,
            ("\n".intercalate lines).toList[place]? = some c ∧
              text.toList[fault.offset]? = some c

theorem Fault.clamped
    {fault : Fault}
    {lines : List String}
    {text : String}
    (isLine : lines[fault.lineIndex]? = some text) :
    fault.Clamped lines fault.lineIndex text := by
  have extent := extent_of_isLine isLine
  refine ⟨?_, ?_, ?_, ?_, ?_, ?_⟩
  · rw [extent, lineStart_eq_sum]
  · rw [extent]
    dsimp only
    omega
  · rw [extent]
    dsimp only
    omega
  · intro other line offset isOther inOther notBefore before
    rw [extent] at notBefore before
    rw [← lineStart_eq_sum] at notBefore before
    dsimp only at notBefore before
    have inside : fault.offset < text.length := by omega
    have same :
        lineStart lines other + offset = lineStart lines fault.lineIndex + fault.offset := by
      omega
    obtain ⟨rfl, rfl⟩ := lineStart_add_inj isOther isLine inOther (Nat.le_of_lt inside) same
    exact ⟨rfl, rfl, inside⟩
  · have bound := lineStart_add_length_le isLine
    rw [extent]
    dsimp only
    omega
  · intro place notBefore before
    rw [extent] at notBefore before
    dsimp only at notBefore before
    have inside : fault.offset < text.toList.length := by
      rw [String.length_toList]
      omega
    have here : place = lineStart lines fault.lineIndex + fault.offset := by omega
    have isChar := List.getElem?_eq_getElem inside
    rw [here]
    exact ⟨_, getElem?_joined isLine isChar, isChar⟩

/--
The extent of a fault is clamped to the line that it names, which is the first one if it names none;
where there is no such line it is empty, and lies after the joined source if that has lines at all.
-/
theorem Fault.extent_clamped
    (fault : Fault)
    (lines : List String) :
    (∀ text,
        lines[fault.line.getD 0 - 1]? = some text →
          fault.Clamped lines (fault.line.getD 0 - 1) text) ∧
      (lines[fault.line.getD 0 - 1]? = none →
        (fault.extent lines).stop = (fault.extent lines).start ∧
          (lines ≠ [] →
            ("\n".intercalate lines).toList.length < (fault.extent lines).start) ∧
          (lines = [] → fault.extent lines = ⟨0, 0⟩)) := by
  rw [← lineIndex_eq]
  refine ⟨fun text isLine => clamped isLine, fun noLine => ?_⟩
  rw [extent_of_noLine noLine]
  refine ⟨rfl, fun filled => ?_, ?_⟩
  · rw [← length_joined filled]
    exact Nat.lt_succ_self _
  · rintro rfl
    rfl

/-- An offset past the end of the last line, an empty line, and numbers of no line. -/
theorem Fault.extent_clamped_edges :
    Fault.Clamped ⟨.stringNotEnded, some 3, 7⟩ ["ab", "", "c"] 2 "c" ∧
      Fault.Clamped ⟨.notInString, some 2, 0⟩ ["ab", "", "c"] 1 "" ∧
      Fault.Clamped ⟨.notInString, some 0, 1⟩ ["ab", "", "c"] 0 "ab" ∧
      ("\n".intercalate ["ab", "", "c"]).toList.length <
        (Fault.extent ⟨.notInString, some 4, 0⟩ ["ab", "", "c"]).start ∧
      Fault.extent ⟨.notInString, none, 3⟩ [] = ⟨0, 0⟩ :=
  ⟨(Fault.extent_clamped _ _).1 "c" rfl,
    (Fault.extent_clamped _ _).1 "" rfl,
    (Fault.extent_clamped _ _).1 "ab" rfl,
    ((Fault.extent_clamped _ _).2 rfl).2.1 (by decide),
    ((Fault.extent_clamped _ _).2 rfl).2.2 rfl⟩

end Brace
