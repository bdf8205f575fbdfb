import Brace.CommandLine.Source
import Brace.Proofs.Account.Tokenize
import Brace.Proofs.Isolation

namespace Brace.CommandLine

/-!
# Work on sources

What the work on a source writes apart from the log, and how it ends.  The lines that can be
tokenized are listed with their numbers, the first one that cannot be is reported, and nothing
comes after it.
-/

namespace Emission

/-- The text of a report, if it is one. -/
def report? : Emission → Option String
  | output _ => none
  | report text => some text
  | log _ => none

/-- The texts of a listing. -/
def outputs (emissions : List Emission) : List String :=
  emissions.filterMap output?

/-- The texts of reports. -/
def reports (emissions : List Emission) : List String :=
  emissions.filterMap report?

@[simp] theorem outputs_nil : outputs [] = [] := rfl

@[simp] theorem outputs_append
    (first second : List Emission) :
    outputs (first ++ second) = outputs first ++ outputs second :=
  List.filterMap_append

@[simp] theorem reports_append
    (first second : List Emission) :
    reports (first ++ second) = reports first ++ reports second :=
  List.filterMap_append

@[simp] theorem outputs_log
    (settings : Settings)
    (events : List Log.Event) :
    outputs (settings.log events) = [] := by
  simp [outputs, Settings.log, output?]

@[simp] theorem reports_log
    (settings : Settings)
    (events : List Log.Event) :
    reports (settings.log events) = [] := by
  simp [reports, Settings.log, report?]

@[simp] theorem outputs_report
    (text : String) :
    outputs [.report text] = [] := rfl

@[simp] theorem reports_report
    (text : String) :
    reports [.report text] = [text] := rfl

end Emission

open Emission

@[simp] theorem Outcome.emissions_after
    (outcome : Outcome)
    (earlier : List Emission) :
    (outcome.after earlier).emissions = earlier ++ outcome.emissions := rfl

@[simp] theorem Outcome.verdict_after
    (outcome : Outcome)
    (earlier : List Emission) :
    (outcome.after earlier).verdict = outcome.verdict := rfl

theorem Outcome.after_after
    (outcome : Outcome)
    (first second : List Emission) :
    (outcome.after second).after first = outcome.after (first ++ second) := by
  simp [after]

/-- The tokens of the lines before the first one that cannot be tokenized, line by line. -/
def leadingTokens (dialect : Dialect) : List String → List (List Token)
  | [] => []
  | text :: lines =>
      match tokenize dialect text with
      | .ok tokens => tokens :: leadingTokens dialect lines
      | .error _ => []

/--
The fault of the first line that cannot be tokenized, unless a breach keeps it from being.  The
first line is numbered one more than `index`.
-/
def firstFault? (dialect : Dialect) (index : Nat) : List String → Option Fault
  | [] => none
  | text :: lines =>
      match tokenize dialect text with
      | .ok _ => firstFault? dialect (index + 1) lines
      | .error (.fault fault) => some (fault.atLine (index + 1))
      | .error (.breach _) => none

/-- A first fault is that of a line after lines that can be tokenized. -/
theorem exists_of_firstFault?
    {dialect : Dialect}
    {lines : List String}
    {index : Nat}
    {fault : Fault}
    (faulty : firstFault? dialect index lines = some fault) :
    ∃ before text after found halted,
      lines = before ++ text :: after ∧
        Tokenized dialect before found ∧
        tokenize dialect text = .error (.fault halted) ∧
        fault = halted.atLine (index + before.length + 1) := by
  induction lines generalizing index with
  | nil => cases faulty
  | cons text lines inductionHypothesis =>
      unfold firstFault? at faulty
      split at faulty
      · rename_i tokens reads
        obtain ⟨before, other, after, found, halted, rfl, tokenized, halts, same⟩ :=
          inductionHypothesis faulty
        refine
          ⟨text :: before, other, after, tokens :: found, halted, rfl,
            .cons reads tokenized, halts, ?_⟩
        rw [same, List.length_cons, Nat.add_assoc index, Nat.add_comm 1]
      · rename_i halted halts
        cases faulty
        exact ⟨[], text, lines, [], halted, rfl, .nil, halts, rfl⟩
      · cases faulty

/-- The texts that list lines by their tokens; the first line is numbered one more than `index`. -/
def listedLines (form : Form) (index : Nat) (found : List (List Token)) : List String :=
  (found.zipIdx (index + 1)).flatMap fun (tokens, line) =>
    tokens.map fun token => token.listed line form ++ "\n"

namespace Source

variable {source : Source} {settings : Settings} {lexer : Lexer}

@[simp] theorem outputs_lineLog
    (settings : Settings)
    (text : String)
    (line : Nat) :
    outputs (lineLog settings text line) = [] := by
  unfold lineLog
  split
  · exact outputs_log settings _
  · rfl

@[simp] theorem reports_lineLog
    (settings : Settings)
    (text : String)
    (line : Nat) :
    reports (lineLog settings text line) = [] := by
  unfold lineLog
  split
  · exact reports_log settings _
  · rfl

@[simp] theorem outputs_listing
    (settings : Settings)
    (line : Nat)
    (tokens : List Token) :
    outputs (listing settings line tokens) =
      tokens.map fun token => token.listed line settings.form ++ "\n" := by
  simp [outputs, listing, List.filterMap_map, Function.comp_def, output?]

@[simp] theorem reports_listing
    (settings : Settings)
    (line : Nat)
    (tokens : List Token) :
    reports (listing settings line tokens) = [] := by
  simp [reports, listing, report?]

/-! ## Lines -/

/-- A line that can be tokenized is listed, and the work goes on after it. -/
theorem processLines_of_ok
    {text : String}
    {lines : List String}
    {index : Nat}
    {tokens : List Token}
    (reads : tokenize lexer.dialect text = .ok tokens)
    (few : index + 1 < Offset.limit) :
    source.processLines settings lexer index (text :: lines) =
      (source.processLines settings (lexer.add tokens) (index + 1) lines).after
        (lineLog settings text (index + 1) ++ listing settings (index + 1) tokens) := by
  have next : Offset.add index 1 = .ok (index + 1) :=
    Offset.add_eq_ok.mpr ⟨few, rfl⟩
  simp only [processLines, next, Lexer.tokenizeLine, reads, Outcome.after_after]

/-- A line at fault is reported, and ends the work. -/
theorem processLines_of_fault
    {text : String}
    {lines : List String}
    {index : Nat}
    {fault : Fault}
    (faulty : tokenize lexer.dialect text = .error (.fault fault))
    (few : index + 1 < Offset.limit) :
    source.processLines settings lexer index (text :: lines) =
      (source.report settings (fault.atLine (index + 1))).after
        (lineLog settings text (index + 1)) := by
  have next : Offset.add index 1 = .ok (index + 1) :=
    Offset.add_eq_ok.mpr ⟨few, rfl⟩
  simp only [processLines, next, Lexer.tokenizeLine, faulty, Halt.atLine]

/-- A line with a breach ends the work for good. -/
theorem processLines_of_breach
    {text : String}
    {lines : List String}
    {index : Nat}
    {rule : Breach}
    (broken : tokenize lexer.dialect text = .error (.breach rule)) :
    (source.processLines settings lexer index (text :: lines)).verdict = .broken := by
  unfold processLines Offset.add
  split
  · rename_i halt tooLarge
    split at tooLarge
    · cases tooLarge
    · cases tooLarge
      rfl
  · simp only [Lexer.tokenizeLine, broken, Halt.atLine]
    rfl

/-- A line whose number is no offset ends the work for good. -/
theorem processLines_of_many
    {text : String}
    {lines : List String}
    {index : Nat}
    (many : ¬ index + 1 < Offset.limit) :
    (source.processLines settings lexer index (text :: lines)).verdict = .broken := by
  simp only [processLines, Offset.add, if_neg many]
  rfl

/-! ## Reports -/

/-- A fault with an offset before the last one has a record. -/
theorem exists_record
    {fault : Fault}
    (inside : fault.offset + 1 < Offset.limit)
    (name : String) :
    ∃ record, fault.record name = .ok record := by
  have stop : Offset.add fault.offset 1 = .ok (fault.offset + 1) :=
    Offset.add_eq_ok.mpr ⟨inside, rfl⟩
  simp only [Fault.record, stop]
  exact ⟨_, rfl⟩

/-- A fault with an offset before the last one is reported by one text. -/
theorem exists_report
    {fault : Fault}
    (inside : fault.offset + 1 < Offset.limit) :
    ∃ text, source.report settings fault = ⟨[.report text], .faulty⟩ := by
  obtain ⟨record, recorded⟩ := exists_record inside source.name
  unfold report
  cases settings.form with
  | text => exact ⟨_, rfl⟩
  | json => exact ⟨record ++ "\n", by rw [recorded]⟩

/-- A fault is reported by one text, or the work is abandoned. -/
theorem exists_report_or_broken
    (source : Source)
    (settings : Settings)
    (fault : Fault) :
    (∃ text, source.report settings fault = ⟨[.report text], .faulty⟩) ∨
      (source.report settings fault).verdict = .broken := by
  by_cases inside : fault.offset + 1 < Offset.limit
  · exact Or.inl (exists_report inside)
  · unfold report
    cases settings.form with
    | text => exact Or.inl ⟨_, rfl⟩
    | json =>
        have tooLarge : fault.record source.name = .error (.breach .sumTooLarge) := by
          simp only [Fault.record, Offset.add, if_neg inside]
          rfl
        rw [tooLarge]
        exact Or.inr rfl

/-! ## Work that is not abandoned -/

/-- How work ends that is not abandoned: with a report if there is a fault. -/
inductive Ends (source : Source) (settings : Settings) : Option Fault → Outcome → Prop
  | clean {emissions}
      (quiet : reports emissions = []) :
      Ends source settings none ⟨emissions, .clean⟩
  | faulty {fault report emissions}
      (reported : source.report settings fault = ⟨[.report report], .faulty⟩)
      (tells : reports emissions = [report]) :
      Ends source settings (some fault) ⟨emissions, .faulty⟩

/-- What becomes of the lines after the first `index` ones unless the work is abandoned. -/
structure Works
    (source : Source)
    (settings : Settings)
    (index : Nat)
    (lines : List String)
    (outcome : Outcome) : Prop where
  lists :
    outputs outcome.emissions =
      listedLines settings.form index (leadingTokens settings.dialect lines)
  ends : source.Ends settings (firstFault? settings.dialect index lines) outcome
  whole :
    firstFault? settings.dialect index lines = none →
      ∃ found, Tokenized settings.dialect lines found

theorem Ends.after
    {fault : Option Fault}
    {outcome : Outcome}
    {earlier : List Emission}
    (ends : source.Ends settings fault outcome)
    (quiet : reports earlier = []) :
    source.Ends settings fault (outcome.after earlier) := by
  cases ends with
  | clean stillQuiet => exact .clean (by simp [quiet, stillQuiet])
  | faulty reported tells => exact .faulty reported (by simp [quiet, tells])

/-- A line that can be tokenized is listed before the others. -/
theorem Works.cons
    {text : String}
    {lines : List String}
    {index : Nat}
    {tokens : List Token}
    {outcome : Outcome}
    (reads : tokenize settings.dialect text = .ok tokens)
    (works : source.Works settings (index + 1) lines outcome) :
    source.Works settings index (text :: lines)
      (outcome.after
        (lineLog settings text (index + 1) ++ listing settings (index + 1) tokens)) where
  lists := by
    simp [works.lists, leadingTokens, reads, listedLines, List.zipIdx_cons]
  ends := by
    simp only [firstFault?, reads]
    exact works.ends.after (by simp)
  whole faultless := by
    simp only [firstFault?, reads] at faultless
    obtain ⟨found, tokenized⟩ := works.whole faultless
    exact ⟨tokens :: found, .cons reads tokenized⟩

/-- The work on lines does what it has to do, unless it is abandoned. -/
theorem works_processLines
    {lines : List String}
    {index : Nat}
    (same : lexer.dialect = settings.dialect)
    (whole : (source.processLines settings lexer index lines).verdict ≠ .broken) :
    source.Works settings index lines (source.processLines settings lexer index lines) := by
  induction lines generalizing lexer index with
  | nil =>
      exact ⟨outputs_log settings _, .clean (reports_log settings _), fun _ => ⟨[], .nil⟩⟩
  | cons text lines inductionHypothesis =>
      by_cases few : index + 1 < Offset.limit
      · cases reads : tokenize lexer.dialect text with
        | ok tokens =>
            rw [processLines_of_ok reads few] at whole ⊢
            rw [same] at reads
            exact (@inductionHypothesis (lexer.add tokens) (index + 1) same whole).cons reads
        | error halt =>
            cases halt with
            | breach rule => exact absurd (processLines_of_breach reads) whole
            | fault fault =>
                rw [processLines_of_fault reads few] at whole ⊢
                rw [same] at reads
                rcases source.exists_report_or_broken settings (fault.atLine (index + 1)) with
                  ⟨report, reported⟩ | broken
                · have first :
                      firstFault? settings.dialect index (text :: lines) =
                        some (fault.atLine (index + 1)) := by
                    simp only [firstFault?, reads]
                  rw [reported]
                  refine ⟨?_, ?_, ?_⟩
                  · simp [leadingTokens, reads, listedLines]
                  · rw [first]
                    exact .faulty reported (by simp)
                  · simp [first]
                · exact absurd broken whole
      · exact absurd (processLines_of_many few) whole

/-- The work on a source does what it has to do, unless it is abandoned. -/
theorem works_process
    (whole : (source.process settings).verdict ≠ .broken) :
    source.Works settings 0 source.lines (source.process settings) := by
  have works :=
    @works_processLines source settings (.ofDialect settings.dialect) source.lines 0 rfl whole
  refine ⟨?_, works.ends.after (reports_log settings _), works.whole⟩
  simp [process, works.lists]

/-- Lines that fit the offsets, and are not too many to be numbered, are not abandoned. -/
theorem not_broken_processLines
    {lines : List String}
    {index : Nat}
    (few : index + lines.length < Offset.limit)
    (short : ∀ line ∈ lines, line.length < Offset.limit) :
    (source.processLines settings lexer index lines).verdict ≠ .broken := by
  induction lines generalizing lexer index with
  | nil =>
      intro broken
      cases broken
  | cons text lines inductionHypothesis =>
      rw [List.length_cons] at few
      have bound := short text (by simp)
      have orderly := @orderly_tokenize lexer.dialect text bound
      cases reads : tokenize lexer.dialect text with
      | ok tokens =>
          rw [processLines_of_ok reads (by omega)]
          exact inductionHypothesis (by omega) fun line member => short line (by simp [member])
      | error halt =>
          rw [reads] at orderly
          cases halt with
          | breach rule => exact orderly.elim
          | fault fault =>
              have inside : fault.offset < text.length := orderly
              obtain ⟨report, reported⟩ :=
                @exists_report source settings (fault.atLine (index + 1))
                  (Nat.lt_of_le_of_lt inside bound)
              rw [processLines_of_fault reads (by omega), reported]
              intro broken
              cases broken

/-- The lines of a source are not too many to be numbered, and each of them fits the offsets. -/
structure Fits (source : Source) : Prop where
  few : source.lines.length < Offset.limit
  short : ∀ line ∈ source.lines, line.length < Offset.limit

/-- The work on a source that fits the offsets is not abandoned. -/
theorem not_broken_process
    (fits : source.Fits) :
    (source.process settings).verdict ≠ .broken := by
  have few : 0 + source.lines.length < Offset.limit := by
    rw [Nat.zero_add]
    exact fits.few
  exact not_broken_processLines few fits.short

end Source

end Brace.CommandLine
