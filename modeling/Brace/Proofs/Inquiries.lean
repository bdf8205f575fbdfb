import Brace.Proofs.Permission
import Brace.Proofs.Prospect
import Brace.Proofs.Turns

namespace Brace

/-!
# Inquiries of a scan

A scan asks how an interpolation is tokenized in the round that passes its closing mark, and its
result depends on nothing else that is known of interpolations.  The text that it asks about lies
between two marks of the line, so the scan of that text has no marks to pass and asks nothing.
-/

namespace Scan

/-- The text that is asked about in the round that begins here. -/
def inquiry? (dialect : Dialect) (scan : Scan) : Option String :=
  match scan.mode with
  | .plain _ _ => none
  | .quoted literal =>
      match (literal.read dialect scan.reader).outcome with
      | .ok (.segmentClosed segment) => some segment.raw
      | _ => none

theorem exists_of_inquiry?
    {dialect : Dialect}
    {scan : Scan}
    {raw : String}
    (asks : scan.inquiry? dialect = some raw) :
    ∃ literal segment,
      scan.mode = .quoted literal ∧
        (literal.read dialect scan.reader).outcome = .ok (.segmentClosed segment) ∧
        segment.raw = raw := by
  unfold inquiry? at asks
  split at asks
  · cases asks
  · rename_i literal shape
    split at asks
    · rename_i segment outcome
      exact ⟨literal, segment, shape, outcome, Option.some.inj asks⟩
    · cases asks

/-- All texts that are asked about in the rounds of a scan. -/
def inquiries (inner : String → Except Halt (List Token)) (dialect : Dialect) (scan : Scan) :
    List String :=
  (scan.rounds inner dialect).filterMap (inquiry? dialect)

section

variable {inner other : String → Except Halt (List Token)} {dialect : Dialect}

/-- A round depends on `inner` only through the text that it asks about. -/
theorem step_eq_of_inquiry?
    {scan : Scan}
    (agree : ∀ raw ∈ scan.inquiry? dialect, inner raw = other raw) :
    scan.step inner dialect = scan.step other dialect := by
  obtain ⟨reader, mode, tokens⟩ := scan
  unfold step
  split
  · rfl
  · cases mode with
    | plain matcher word => rfl
    | quoted literal =>
        refine Halt.bind_congr ?_
        intro event outcome
        cases event with
        | continued => rfl
        | closed => rfl
        | segmentClosed segment =>
            have asked : inner segment.raw = other segment.raw :=
              agree segment.raw (by simp [inquiry?, outcome])
            simp only [stepQuoted, splice, asked]

/-- A scan depends on `inner` only through the texts that it asks about. -/
theorem run_eq_of_inquiries
    {scan : Scan}
    (agree : ∀ raw ∈ scan.inquiries inner dialect, inner raw = other raw) :
    scan.run inner dialect = scan.run other dialect := by
  fun_induction run inner dialect scan with
  | case1 scan atEnd => exact (run_of_atEnd atEnd).symm
  | case2 scan notAtEnd halt acted =>
      rw [Bool.not_eq_true] at notAtEnd
      have same : scan.step inner dialect = scan.step other dialect := by
        refine step_eq_of_inquiry? fun raw asked => agree raw ?_
        rw [inquiries, rounds_of_step_error notAtEnd acted]
        exact List.mem_filterMap.mpr ⟨scan, List.mem_singleton_self scan, asked⟩
      exact (run_of_step_error notAtEnd (same.symm.trans acted)).symm
  | case3 scan notAtEnd after acted inductionHypothesis =>
      rw [Bool.not_eq_true] at notAtEnd
      rw [inquiries, rounds_of_step_ok notAtEnd acted] at agree
      have same : scan.step inner dialect = scan.step other dialect :=
        step_eq_of_inquiry? fun raw asked =>
          agree raw (List.mem_filterMap.mpr ⟨scan, List.mem_cons_self, asked⟩)
      have later : after.run inner dialect = after.run other dialect := by
        refine inductionHypothesis fun raw asked => agree raw ?_
        obtain ⟨visited, member, asks⟩ := List.mem_filterMap.mp asked
        exact List.mem_filterMap.mpr ⟨visited, List.mem_cons_of_mem scan member, asks⟩
      rw [later]
      exact (run_of_step_ok notAtEnd (same.symm.trans acted)).symm

/-- In a round that asks about a text, a mark is passed. -/
theorem mark_mem_of_inquiry?
    {scan : Scan}
    {raw : String}
    (asks : scan.inquiry? dialect = some raw) :
    interpolationMark ∈ scan.reader.rest := by
  obtain ⟨literal, segment, -, outcome, -⟩ := exists_of_inquiry? asks
  unfold Literal.read at outcome
  split at outcome
  · cases outcome
  · cases outcome
  · rename_i c after advanced
    rw [Reader.rest_of_advance advanced]
    split at outcome
    · unfold Literal.readSegment at outcome
      split at outcome
      · rename_i mark
        exact List.mem_cons.mpr (Or.inl mark.symm)
      · cases outcome
    · unfold Literal.readBody at outcome
      repeat' split at outcome
      all_goals cases outcome

end

end Scan

/-- The texts that tokenizing a text asks about. -/
def inquiries (dialect : Dialect) (text : String) : List String :=
  (Scan.ofText text).inquiries (tokenize dialect) dialect

/-- What holds of a text that tokenizing another one asks about. -/
structure Inquiry (dialect : Dialect) (text raw : String) : Prop where
  shorter : raw.length < text.length
  unmarked : interpolationMark ∉ raw.toList
  /-- Tokenizing it asks about nothing in turn. -/
  silent : ∀ other, inquiries other raw = []
  alike : ∀ other, tokenize other raw = tokenize dialect raw
  /-- It has tokens, or a string that is not ended. -/
  fails : ∀ halt,
    tokenize dialect raw = .error halt →
      ∃ fault, halt = .fault fault ∧ fault.cause = .stringNotEnded

/-- A text without interpolation marks asks about nothing. -/
theorem inquiries_of_unmarked
    {dialect : Dialect}
    {text : String}
    (unmarked : interpolationMark ∉ text.toList) :
    inquiries dialect text = [] := by
  rw [inquiries, Scan.inquiries, List.filterMap_eq_nil_iff]
  intro visited member
  rw [Option.eq_none_iff_forall_ne_some]
  intro raw asks
  have follows := Scan.follows_of_mem_rounds (Scan.valid_ofText text) member
  exact unmarked (follows.leads.suffix.subset (Scan.mark_mem_of_inquiry? asks))

/-- A text without interpolation marks that fits the offsets has tokens, or an open string. -/
theorem cause_of_tokenize_unmarked
    {dialect : Dialect}
    {text : String}
    {halt : Halt}
    (fits : text.length < Offset.limit)
    (unmarked : interpolationMark ∉ text.toList)
    (faulty : tokenize dialect text = .error halt) :
    ∃ fault, halt = .fault fault ∧ fault.cause = .stringNotEnded := by
  have agrees := @agrees_tokenize dialect text.toList (by rwa [String.length_toList])
  rw [String.ofList_toList, faulty] at agrees
  cases found : Audit.fault dialect text.toList with
  | none =>
      rw [found] at agrees
      obtain ⟨tokens, impossible⟩ := agrees
      cases impossible
  | some fault =>
      rw [found] at agrees
      cases agrees
      exact ⟨fault, rfl, Audit.cause_of_unmarked unmarked found⟩

/-- A text that is asked about lies between two marks of a line whose offsets were counted. -/
theorem inquiry_of_mem
    {dialect : Dialect}
    {text raw : String}
    (member : raw ∈ inquiries dialect text) :
    Inquiry dialect text raw := by
  obtain ⟨visited, reached, asks⟩ := List.mem_filterMap.mp member
  have follows := Scan.follows_of_mem_rounds (Scan.valid_ofText text) reached
  have stretch : visited.stretch ≤ (Scan.ofText text).stretch :=
    Scan.forall_mem_rounds (motive := fun visited => visited.stretch ≤ (Scan.ofText text).stretch)
      (Nat.le_refl _) (fun _ _ bounded leads => Nat.le_trans (Scan.stretch_step_le leads.2) bounded)
      visited reached
  obtain ⟨literal, segment, shape, outcome, rfl⟩ := Scan.exists_of_inquiry? asks
  have valid : (Mode.quoted literal).Valid := shape ▸ follows.valid
  have unmarked := Literal.unmarked_of_segmentClosed valid outcome
  have short := Literal.length_raw_lt_of_segmentClosed outcome
  have size : visited.reader.rest.length + literal.segmentSize ≤ text.length := by
    rw [stretch_ofText, Scan.stretch, shape] at stretch
    exact stretch
  have counted : visited.reader.pos + visited.reader.rest.length = 0 + text.length := by
    rw [← String.length_toList]
    exact follows.leads.total
  have atStart : 0 < Offset.limit := by
    decide
  have bound : visited.reader.pos < Offset.limit := follows.leads.fits atStart
  exact
    { shorter := by omega
      unmarked
      silent := fun other => inquiries_of_unmarked unmarked
      alike := fun other => tokenize_eq_of_unmarked other dialect unmarked
      fails := fun halt => cause_of_tokenize_unmarked (by omega) unmarked }

/--
Tokenizing ends.  There is no infinite sequence of rounds; each round but the last one leads to
the next one and passes characters, or it ends a match and passes none, as a character that a
matcher does not consume leaves it idle.  So there are at most two rounds for each character.
Tokenizing asks only about shorter texts without interpolation marks, about which nothing is asked
in turn, whose results are the same in all dialects, and which can only fail for an open string.
-/
theorem tokenize_terminates
    (dialect : Dialect)
    (text : String) :
    (∀ inner, WellFounded fun after scan => Scan.LeadsTo inner dialect scan after) ∧
      (∀ (matcher after : Matcher) c prev pos step,
        matcher.feed c prev pos = .ok (after, step) →
          step.consumed = true ∨ matcher.isIdle = false ∧ after.isIdle = true) ∧
      (((Scan.ofText text).rounds (tokenize dialect) dialect).IsChain fun scan after =>
        scan.LeadsTo (tokenize dialect) dialect after ∧ scan.Turn after) ∧
      ((Scan.ofText text).rounds (tokenize dialect) dialect).length ≤ 2 * text.length + 1 ∧
      (∀ pos, Scan.visits ((Scan.ofText text).rounds (tokenize dialect) dialect) pos ≤ 2) ∧
      (∀ inner,
        (∀ raw ∈ inquiries dialect text, tokenize dialect raw = inner raw) →
          tokenize dialect text = (Scan.ofText text).run inner dialect) ∧
      ∀ raw ∈ inquiries dialect text, Inquiry dialect text raw := by
  have valid := Scan.valid_ofText text
  refine
    ⟨fun inner => Scan.wellFounded_leadsTo, fun _ _ _ _ _ _ fed => Matcher.turn_of_feed fed,
      Scan.isChain_rounds valid, ?_, fun pos => (Scan.visits_le valid pos).1, ?_,
      fun _ => inquiry_of_mem⟩
  · rw [← String.length_toList]
    exact Scan.length_rounds_le (Scan.ofText text)
  · intro inner agree
    rw [tokenize_eq]
    exact Scan.run_eq_of_inquiries agree

/--
An equals sign that a letter ends, which is read again, and a line that asks about one text, whose
string is open, and about nothing else.
-/
theorem tokenize_terminates_nested :
    ((Matcher.Step.matched ⟨['='], .token .setVar⟩ 0 1 false).consumed = true ∨
        (Matcher.matching 0 ['='] (Symbol.startingWith '=')).isIdle = false ∧
          Matcher.idle.isIdle = true) ∧
      Inquiry .usual "x=\"a\x60i '\x60" "i '" ∧
      (∃ fault,
        Halt.fault ⟨.stringNotEnded, none, 2⟩ = .fault fault ∧ fault.cause = .stringNotEnded) ∧
      tokenize .usual "x=\"a\x60i '\x60" =
        (Scan.ofText "x=\"a\x60i '\x60").run
          (fun raw => if raw = "i '" then tokenize .usual raw else .ok []) .usual := by
  have asks : inquiries .usual "x=\"a\x60i '\x60" = ["i '"] := by
    decide +kernel
  have fed :
      (Matcher.matching 0 ['='] (Symbol.startingWith '=')).feed 'x' (some '=') 1 =
        .ok (.idle, .matched ⟨['='], .token .setVar⟩ 0 1 false) := by
    decide +kernel
  have unended : tokenize .usual "i '" = .error (.fault ⟨.stringNotEnded, none, 2⟩) := by
    decide +kernel
  obtain ⟨-, turns, -, -, -, depends, inquires⟩ :=
    tokenize_terminates .usual "x=\"a\x60i '\x60"
  have inquiry := inquires "i '" (by rw [asks]; exact List.mem_singleton_self _)
  refine ⟨turns _ _ _ _ _ _ fed, inquiry, inquiry.fails _ unended, depends _ ?_⟩
  intro raw asked
  rw [asks, List.mem_singleton] at asked
  rw [asked, if_pos rfl]

end Brace
