import Brace.Scan.Progress

namespace Brace

/-!
# How far interpolations can reach

The text of an interpolation lies in the line after the mark that opened it, so it is shorter than
the line.  Hence a scan asks `inner` about shorter texts only, and its result depends on nothing
else of `inner`.
-/

namespace Literal

/-- The characters of an open interpolation, with its mark. -/
def segmentSize (literal : Literal) : Nat :=
  match literal.segment with
  | some segment => segment.raw.length + 1
  | none => 0

/-- Outside of interpolations, reading a character can only open one. -/
theorem segmentSize_readBody_le
    {literal : Literal}
    {dialect : Dialect}
    {c : Char}
    {pos : Nat}
    {reader : Reader}
    (closed : literal.segment = none) :
    (literal.readBody dialect c pos reader).literal.segmentSize ≤ 1 := by
  unfold readBody
  repeat' split
  all_goals simp [segmentSize, closed]

/-- Inside an interpolation, reading a character adds it or closes the interpolation. -/
theorem segmentSize_readSegment_le
    {literal : Literal}
    {segment : Segment}
    {c : Char}
    {reader : Reader} :
    (literal.readSegment segment c reader).literal.segmentSize ≤ segment.raw.length + 2 := by
  unfold readSegment
  split
  all_goals simp [segmentSize]

/-- Reading on moves characters from the line into an interpolation or past it. -/
theorem segmentSize_read_le
    {literal : Literal}
    {dialect : Dialect}
    {reader : Reader}
    {event : Event}
    (succeeds : (literal.read dialect reader).outcome = .ok event) :
    (literal.read dialect reader).reader.rest.length
        + (literal.read dialect reader).literal.segmentSize
      ≤ reader.rest.length + literal.segmentSize := by
  have shorter := length_rest_read succeeds
  have grown : (literal.read dialect reader).literal.segmentSize ≤ literal.segmentSize + 1 := by
    unfold read at succeeds ⊢
    split at succeeds
    · cases succeeds
    · cases succeeds
    · split
      · rename_i segment isOpen
        have size : literal.segmentSize = segment.raw.length + 1 := by
          simp [segmentSize, isOpen]
        rw [size]
        exact segmentSize_readSegment_le
      · rename_i isClosed
        exact Nat.le_trans (segmentSize_readBody_le isClosed) (Nat.le_add_left _ _)
  omega

/-- An interpolation that is closed was open, and its closing mark stood in the line. -/
theorem length_raw_lt_of_segmentClosed
    {literal : Literal}
    {dialect : Dialect}
    {reader : Reader}
    {segment : Segment}
    (closes : (literal.read dialect reader).outcome = .ok (.segmentClosed segment)) :
    segment.raw.length < literal.segmentSize := by
  unfold read at closes
  split at closes
  · cases closes
  · cases closes
  · split at closes
    · rename_i current isOpen
      unfold readSegment at closes
      split at closes
      · cases closes
        simp [segmentSize, isOpen]
      · cases closes
    · unfold readBody at closes
      repeat' split at closes
      all_goals cases closes

end Literal

namespace Scan

/-- The characters left, with those of an open interpolation. -/
def stretch (scan : Scan) : Nat :=
  match scan.mode with
  | .plain _ _ => scan.reader.rest.length
  | .quoted literal => scan.reader.rest.length + literal.segmentSize

/-- Passing a character or not leaves no more than there was. -/
theorem length_rest_passIf_le
    {consumed : Bool}
    {reader after : Reader}
    (passed : passIf consumed reader = .ok after) :
    after.rest.length ≤ reader.rest.length := by
  unfold passIf at passed
  split at passed
  · obtain ⟨⟨next, later⟩, advanced, same⟩ := Halt.bind_eq_ok.mp passed
    cases same
    exact Reader.length_rest_advance_le advanced
  · cases passed
    exact Nat.le_refl _

/-- Acting on a symbol leaves all that was left. -/
theorem stretch_recognise
    {reader : Reader}
    {matcher : Matcher}
    {word : Option Word}
    {tokens : List Token}
    {symbol : Symbol}
    {start stop : Nat}
    {after : Scan}
    (acted : recognise reader matcher word tokens symbol start stop = .ok after) :
    after.stretch = reader.rest.length := by
  unfold recognise at acted
  split at acted
  · obtain ⟨_, _, acted⟩ := Halt.bind_eq_ok.mp acted
    obtain ⟨_, _, acted⟩ := Halt.bind_eq_ok.mp acted
    cases acted
    rfl
  · obtain ⟨_, _, acted⟩ := Halt.bind_eq_ok.mp acted
    cases acted
    rfl
  · cases acted
  · obtain ⟨_, _, acted⟩ := Halt.bind_eq_ok.mp acted
    cases acted
    rfl

/-- Acting on a step of the matcher leaves no more than there was. -/
theorem stretch_apply_le
    {reader : Reader}
    {matcher : Matcher}
    {word : Option Word}
    {tokens : List Token}
    {step : Matcher.Step}
    {after : Scan}
    (acted : apply reader matcher word tokens step = .ok after) :
    after.stretch ≤ reader.rest.length := by
  cases step with
  | pending =>
      obtain ⟨later, passed, acted⟩ := Halt.bind_eq_ok.mp acted
      cases acted
      exact length_rest_passIf_le passed
  | matched symbol start stop consumed =>
      obtain ⟨later, passed, acted⟩ := Halt.bind_eq_ok.mp acted
      rw [stretch_recognise acted]
      exact length_rest_passIf_le passed
  | unknown text start consumed =>
      obtain ⟨later, passed, acted⟩ := Halt.bind_eq_ok.mp acted
      obtain ⟨_, _, acted⟩ := Halt.bind_eq_ok.mp acted
      cases acted
      exact length_rest_passIf_le passed

/-- A round outside of strings leaves no more than there was. -/
theorem stretch_stepPlain_le
    {reader : Reader}
    {matcher : Matcher}
    {word : Option Word}
    {tokens : List Token}
    {c : Char}
    {after : Scan}
    (acted : stepPlain reader matcher word tokens c = .ok after) :
    after.stretch ≤ reader.rest.length := by
  unfold stepPlain at acted
  split at acted
  · obtain ⟨_, _, acted⟩ := Halt.bind_eq_ok.mp acted
    obtain ⟨later, passed, acted⟩ := Halt.bind_eq_ok.mp acted
    cases acted
    exact length_rest_passIf_le passed
  · obtain ⟨_, _, acted⟩ := Halt.bind_eq_ok.mp acted
    exact stretch_apply_le acted

/-- Acting on what was met inside a string leaves no more than there was. -/
theorem stretch_stepQuoted_le
    {inner : String → Except Halt (List Token)}
    {reader : Reader}
    {literal : Literal}
    {tokens : List Token}
    {pos : Nat}
    {event : Literal.Event}
    {after : Scan}
    (acted : stepQuoted inner reader literal tokens pos event = .ok after) :
    after.stretch ≤ reader.rest.length + literal.segmentSize := by
  cases event with
  | continued =>
      cases acted
      exact Nat.le_refl _
  | closed =>
      obtain ⟨_, _, acted⟩ := Halt.bind_eq_ok.mp acted
      obtain ⟨_, _, acted⟩ := Halt.bind_eq_ok.mp acted
      cases acted
      exact Nat.le_add_right _ _
  | segmentClosed segment =>
      obtain ⟨_, _, acted⟩ := Halt.bind_eq_ok.mp acted
      cases acted
      exact Nat.le_refl _

/-- No round makes the stretch of a scan longer. -/
theorem stretch_step_le
    {inner : String → Except Halt (List Token)}
    {dialect : Dialect}
    {scan after : Scan}
    (acted : scan.step inner dialect = .ok after) :
    after.stretch ≤ scan.stretch := by
  obtain ⟨reader, mode, tokens⟩ := scan
  unfold step at acted
  split at acted
  · cases acted
    exact Nat.le_refl _
  · split at acted
    · rename_i matcher word shape
      cases shape
      exact stretch_stepPlain_le acted
    · rename_i literal shape
      cases shape
      obtain ⟨event, outcome, acted⟩ := Halt.bind_eq_ok.mp acted
      exact Nat.le_trans
        (stretch_stepQuoted_le acted)
        (Literal.segmentSize_read_le outcome)

/-- A round asks `inner` only about texts shorter than the stretch of the scan. -/
theorem step_congr
    {inner other : String → Except Halt (List Token)}
    {dialect : Dialect}
    {scan : Scan}
    (agree : ∀ raw : String, raw.length < scan.stretch → inner raw = other raw) :
    scan.step inner dialect = scan.step other dialect := by
  obtain ⟨reader, mode, tokens⟩ := scan
  unfold step
  split
  · rfl
  · split
    · rfl
    · rename_i literal shape
      cases shape
      refine Halt.bind_congr ?_
      intro event outcome
      cases event with
      | continued => rfl
      | closed => rfl
      | segmentClosed segment =>
          have short : segment.raw.length < reader.rest.length + literal.segmentSize :=
            Nat.lt_of_lt_of_le
              (Literal.length_raw_lt_of_segmentClosed outcome)
              (Nat.le_add_left _ _)
          simp only [stepQuoted, splice, agree segment.raw short]

/-- A scan asks `inner` only about texts shorter than its stretch. -/
theorem run_congr
    {inner other : String → Except Halt (List Token)}
    {dialect : Dialect}
    {scan : Scan}
    (agree : ∀ raw : String, raw.length < scan.stretch → inner raw = other raw) :
    scan.run inner dialect = scan.run other dialect := by
  fun_induction run inner dialect scan with
  | case1 scan atEnd => exact (run_of_atEnd atEnd).symm
  | case2 scan notAtEnd halt acted =>
      rw [Bool.not_eq_true] at notAtEnd
      rw [step_congr agree] at acted
      exact (run_of_step_error notAtEnd acted).symm
  | case3 scan notAtEnd after acted inductionHypothesis =>
      rw [Bool.not_eq_true] at notAtEnd
      have smaller := stretch_step_le acted
      rw [inductionHypothesis fun raw short => agree raw (Nat.lt_of_lt_of_le short smaller)]
      rw [step_congr agree] at acted
      exact (run_of_step_ok notAtEnd acted).symm

end Scan

end Brace
