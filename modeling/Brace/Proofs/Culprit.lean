import Brace.Proofs.Extents
import Brace.Proofs.Sources

namespace Brace

/-!
# Culprits

The offset of a fault is that of the character to blame: the quote that opened the string which is
not ended, and the interpolation mark in all other cases.  This holds in an interpolation as well,
whose faults are moved to the line around it.
-/

open Account

/-- The cause blames this character, and a string for its delimiter only where it forbids marks. -/
def Fault.Cause.Blames (dialect : Dialect) : Fault.Cause → Char → Prop
  | stringNotEnded, c => isQuote c = true
  | notInString, c => c = interpolationMark
  | notInInterpolationString delimiter, c =>
      c = interpolationMark ∧ isQuote delimiter = true ∧ delimiter ∉ dialect.interpolating
  | interpolationNotEnded, c => c = interpolationMark

/-- The offset of a fault is that of a character which its cause blames. -/
def Fault.PointsAt (dialect : Dialect) (text : List Char) (fault : Fault) (c : Char) : Prop :=
  text[fault.offset]? = some c ∧ fault.cause.Blames dialect c

/-- A tokenizer for interpolations points at characters to blame in all texts below some size. -/
def Points (dialect : Dialect) (inner : String → Except Halt (List Token)) (size : Nat) : Prop :=
  ∀ raw : List Char,
    raw.length < size →
      ∀ fault,
        inner (String.ofList raw) = .error (.fault fault) →
          ∃ c, fault.PointsAt dialect raw c

theorem Fault.pointsAt_append
    {dialect : Dialect}
    {cause : Cause}
    {line : Option Nat}
    {before after : List Char}
    {c : Char}
    (blames : cause.Blames dialect c) :
    PointsAt dialect (before ++ c :: after) ⟨cause, line, before.length⟩ c := by
  refine ⟨?_, blames⟩
  rw [List.getElem?_append_right (Nat.le_refl _), Nat.sub_self, List.getElem?_cons_zero]

/-- A fault in a part of a text points at the same character of the whole text. -/
theorem Fault.PointsAt.moved
    {dialect : Dialect}
    {fault : Fault}
    {before text after : List Char}
    {c : Char}
    (points : fault.PointsAt dialect text c) :
    (fault.moved before.length).PointsAt dialect (before ++ (text ++ after)) c := by
  obtain ⟨here, blames⟩ := points
  refine ⟨?_, blames⟩
  obtain ⟨inText, _⟩ := List.getElem?_eq_some_iff.mp here
  rw [Fault.moved, Nat.add_comm, List.getElem?_append_right (Nat.le_add_right _ _),
    Nat.add_sub_cancel_left, List.getElem?_append_left inText, here]

section

variable {inner : String → Except Halt (List Token)} {dialect : Dialect}

namespace Account

/-- The text of an open interpolation comes after its mark in the body of the string. -/
theorem line_segment
    {fragments : List Fragment}
    {delimiter : Char}
    {parts : List Part}
    {raw rest : List Char} :
    line ⟨fragments, .quoted delimiter parts (some raw), rest⟩ =
      passed ⟨fragments, .quoted delimiter parts none, rest⟩ ++
        interpolationMark :: (raw ++ rest) := by
  simp [line, passed, Mode.written]

/-- A fault in which the rules end points at a character of the line. -/
theorem exists_pointsAt_of_fails
    {account : Account}
    {fault : Fault}
    (sound : Sound inner dialect account)
    (points : Points dialect inner account.line.length)
    (fails : Fails inner dialect account fault) :
    ∃ c, fault.PointsAt dialect account.line c := by
  cases fails with
  | @outside fragments word rest =>
      have position := @length_passed_plain fragments word [] (interpolationMark :: rest)
      rw [List.length_nil, Nat.add_zero] at position
      rw [← position]
      exact ⟨interpolationMark, Fault.pointsAt_append rfl⟩
  | @forbidden fragments delimiter parts rest plain =>
      have absent : delimiter ∉ dialect.interpolating := by
        simpa [Dialect.interpolatesIn] using plain
      rw [← @length_passed_quoted fragments delimiter parts (interpolationMark :: rest)]
      exact ⟨interpolationMark, Fault.pointsAt_append ⟨rfl, sound.mode.1, absent⟩⟩
  | @inside fragments delimiter parts raw fault rest faulty =>
      obtain ⟨c, here⟩ := points raw length_raw_lt fault faulty
      have position :
          (passed ⟨fragments, .quoted delimiter parts none, interpolationMark :: rest⟩ ++
              [interpolationMark]).length =
            bodyStop fragments parts + 1 := by
        rw [List.length_append, length_passed_quoted, List.length_singleton]
      rw [line_segment, ← position, List.append_cons]
      exact ⟨c, here.moved⟩
  | @unclosed fragments delimiter parts =>
      have line :
          line ⟨fragments, .quoted delimiter parts none, []⟩ =
            fragments.flatMap Fragment.written ++ delimiter :: parts.flatMap Part.written := by
        simp [Account.line, passed, Mode.written]
      rw [line]
      exact ⟨delimiter, Fault.pointsAt_append sound.mode.1⟩
  | @unclosedSegment fragments delimiter parts raw =>
      rw [line_segment, ← @length_passed_quoted fragments delimiter parts []]
      exact ⟨interpolationMark, Fault.pointsAt_append rfl⟩

/-- A fault that the rules lead to points at a character of the line. -/
theorem exists_pointsAt_of_runs
    {account : Account}
    {fault : Fault}
    (sound : Sound inner dialect account)
    (points : Points dialect inner account.line.length)
    (runs : Runs inner dialect account (.error fault)) :
    ∃ c, fault.PointsAt dialect account.line c := by
  generalize shape : Except.error fault = result at runs
  induction runs with
  | ended => cases shape
  | failed fails =>
      cases shape
      exact exists_pointsAt_of_fails sound points fails
  | moved moves runs inductionHypothesis =>
      rw [line_of_moves moves] at inductionHypothesis
      exact inductionHypothesis (sound.of_moves moves) points shape

end Account

end

/-- The fault of a text points at one of its characters. -/
theorem exists_pointsAt_of_tokenize
    {dialect : Dialect}
    {text : List Char}
    {fault : Fault}
    (fits : text.length < Offset.limit)
    (faulty : tokenize dialect (String.ofList text) = .error (.fault fault)) :
    ∃ c, fault.PointsAt dialect text c := by
  -- The induction is on the length of the text, for interpolations are shorter than their lines.
  have points : Points dialect (tokenize dialect) text.length := by
    intro raw shorter inside insideFaulty
    exact exists_pointsAt_of_tokenize (Nat.lt_trans shorter fits) insideFaulty
  exact exists_pointsAt_of_runs (sound_ofText text) points (runs_of_tokenize_error fits faulty)
termination_by text.length

/-! ## Culprits in a source -/

/--
A fault of a source blames a character of its first line that cannot be tokenized, in all the ways
in which the place of a fault is told.
-/
structure Fault.Blamed
    (dialect : Dialect)
    (lines : List String)
    (fault : Fault)
    (index : Nat)
    (text : String)
    (c : Char) : Prop where
  isLine : lines[index]? = some text
  numbered : fault.line = some (index + 1)
  first :
    ∀ earlier < index,
      ∀ line,
        lines[earlier]? = some line →
          ∃ tokens, tokenize dialect line = .ok tokens
  halts :
    ∃ halted, tokenize dialect text = .error (.fault halted) ∧ fault = halted.atLine (index + 1)
  inside : fault.offset < text.length
  pointsAt : fault.PointsAt dialect text.toList c
  /-- Its extent is one character wide, and is this character of the joined source. -/
  narrow : (fault.extent lines).stop = (fault.extent lines).start + 1
  inSource : ("\n".intercalate lines).toList[(fault.extent lines).start]? = some c
  /-- Its record ends in the one span of this character. -/
  recorded :
    ∀ source,
      ∃ members,
        fault.record source =
          .ok
            (Text.Json.object
              (members ++
                [("spans",
                  Text.Json.array
                    [Text.Json.object
                      [("end", Text.Json.number (fault.offset + 1)),
                        ("label", Text.Json.string fault.cause.label),
                        ("start", Text.Json.number fault.offset)]])]))

/-- The fault of the first line that cannot be tokenized blames one of its characters. -/
theorem Fault.exists_blamed
    {dialect : Dialect}
    {before after : List String}
    {text : String}
    {found : List (List Token)}
    {fault : Fault}
    (tokenized : Tokenized dialect before found)
    (halts : tokenize dialect text = .error (.fault fault))
    (fits : text.length < Offset.limit) :
    ∃ c,
      (fault.atLine (before.length + 1)).Blamed dialect (before ++ text :: after)
        before.length text c := by
  have size : text.toList.length < Offset.limit := by
    rwa [String.length_toList]
  obtain ⟨c, here, blames⟩ := exists_pointsAt_of_tokenize size (by rwa [String.ofList_toList])
  have inside : fault.offset < text.length := by
    rw [← String.length_toList]
    exact (List.getElem?_eq_some_iff.mp here).1
  have isLine : (before ++ text :: after)[before.length]? = some text := by
    rw [List.getElem?_append_right (Nat.le_refl _), Nat.sub_self, List.getElem?_cons_zero]
  have extent :=
    @Fault.extent_of_lt (fault.atLine (before.length + 1)) _ _ _ isLine rfl inside
  refine ⟨c, isLine, rfl, ?_, ?_, inside, ⟨here, blames⟩, ?_, ?_, ?_⟩
  · intro earlier isEarlier line isOther
    rw [List.getElem?_append_left isEarlier] at isOther
    exact tokenized.exists_of_mem (List.mem_of_getElem? isOther)
  · exact ⟨fault, halts, rfl⟩
  · rw [extent]
  · rw [extent]
    exact getElem?_joined isLine here
  · intro source
    have stop :
        Offset.add (fault.atLine (before.length + 1)).offset 1 = .ok (fault.offset + 1) :=
      Offset.add_eq_ok.mpr ⟨Nat.lt_of_le_of_lt inside fits, rfl⟩
    simp only [record, stop]
    exact ⟨[_, _, _, _, _, _], rfl⟩

namespace CommandLine.Source

open Emission

/--
Of a source that fits the offsets nothing is reported if all of its lines can be tokenized, and
otherwise the one fault of the first line that cannot be, which blames a character of this line.
-/
theorem reports_culprit
    {source : Source}
    {settings : Settings}
    (fits : source.Fits) :
    (firstFault? settings.dialect 0 source.lines = none →
        (∃ found, Tokenized settings.dialect source.lines found) ∧
          reports (source.process settings).emissions = []) ∧
      ∀ fault,
        firstFault? settings.dialect 0 source.lines = some fault →
          ∃ report index text c,
            source.report settings fault = ⟨[.report report], .faulty⟩ ∧
              reports (source.process settings).emissions = [report] ∧
              fault.Blamed settings.dialect source.lines index text c := by
  have works := @works_process source settings (not_broken_process fits)
  have ends := works.ends
  refine ⟨?_, ?_⟩
  · intro faultless
    refine ⟨works.whole faultless, ?_⟩
    rw [faultless] at ends
    generalize source.process settings = outcome at ends ⊢
    cases ends with
    | clean quiet => exact quiet
  · intro fault first
    obtain ⟨before, text, after, found, halted, parted, tokenized, halts, rfl⟩ :=
      exists_of_firstFault? first
    have bound := fits.short text (by simp [parted])
    obtain ⟨c, blamed⟩ := Fault.exists_blamed tokenized halts bound
    rw [first] at ends
    generalize source.process settings = outcome at ends ⊢
    cases ends with
    | faulty reported tells =>
        rw [Nat.zero_add] at reported ⊢
        rw [parted]
        exact ⟨_, _, text, c, reported, tells, blamed⟩

/-- A string left open in an interpolation, on a line between one without and one with a fault. -/
theorem reports_culprit_nested :
    ∃ report,
      reports
            (process ⟨"<command>", ["if", "x \"a\x60b'\x60\"", "\x60"]⟩
              ⟨.usual, .json, false, .trace⟩).emissions =
          [report] ∧
        Fault.Blamed .usual ["if", "x \"a\x60b'\x60\"", "\x60"] ⟨.stringNotEnded, some 2, 6⟩
          1 "x \"a\x60b'\x60\"" '\'' := by
  have fits : Fits ⟨"<command>", ["if", "x \"a\x60b'\x60\"", "\x60"]⟩ :=
    ⟨by decide, by decide⟩
  have first :
      firstFault? .usual 0 ["if", "x \"a\x60b'\x60\"", "\x60"] =
        some ⟨.stringNotEnded, some 2, 6⟩ := by
    decide +kernel
  obtain ⟨report, index, text, c, _, tells, blamed⟩ :=
    (@reports_culprit _ ⟨.usual, .json, false, .trace⟩ fits).2 _ first
  obtain rfl : index = 1 := by
    simpa using blamed.numbered
  obtain rfl : "x \"a\x60b'\x60\"" = text := by
    simpa using blamed.isLine
  obtain rfl : '\'' = c := by
    simpa using blamed.pointsAt.1
  exact ⟨report, tells, blamed⟩

end CommandLine.Source

end Brace
