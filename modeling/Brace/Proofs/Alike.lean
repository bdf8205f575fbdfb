import Brace.CommandLine.Run
import Brace.Proofs.Sources

namespace Brace.CommandLine

/-!
# Work that is alike

How much is logged, whether reports have colors and what a source is called have no effect on what
is listed, nor on how the work ends.
-/

open Emission

/-- Settings under which the same is tokenized and listed. -/
structure Settings.Alike (first second : Settings) : Prop where
  dialect : first.dialect = second.dialect
  form : first.form = second.form

namespace Outcome

/-- Outcomes with the same listings and the same end. -/
structure Alike (first second : Outcome) : Prop where
  outputs : outputs first.emissions = outputs second.emissions
  verdict : first.verdict = second.verdict

namespace Alike

variable {first second next other : Outcome}

protected theorem refl
    (outcome : Outcome) :
    outcome.Alike outcome :=
  ⟨rfl, rfl⟩

protected theorem trans
    {third : Outcome}
    (alike : first.Alike second)
    (alikeNext : second.Alike third) :
    first.Alike third :=
  ⟨alike.outputs.trans alikeNext.outputs, alike.verdict.trans alikeNext.verdict⟩

theorem after
    {earlier before : List Emission}
    (alike : first.Alike second)
    (same : Emission.outputs earlier = Emission.outputs before) :
    (first.after earlier).Alike (second.after before) :=
  ⟨by simp [same, alike.outputs], alike.verdict⟩

theorem andThen
    (alike : first.Alike second)
    (alikeNext : next.Alike other) :
    (first.andThen next).Alike (second.andThen other) := by
  unfold Outcome.andThen
  rw [← alike.verdict, ← alikeNext.verdict]
  split
  · exact alike
  · exact ⟨by simp [alike.outputs, alikeNext.outputs], rfl⟩

end Alike

end Outcome

theorem failed_alike
    {settings others : Settings}
    (alike : settings.Alike others)
    (message : String) :
    (failed settings message).Alike (failed others message) := by
  unfold failed
  rw [← alike.form]
  split <;> exact ⟨rfl, rfl⟩

namespace Source

variable {source other : Source} {settings others : Settings}

/-- Whether a fault can be reported depends on its offset only. -/
theorem report_alike
    (alike : settings.Alike others)
    (fault : Fault) :
    (source.report settings fault).Alike (other.report others fault) := by
  by_cases inside : fault.offset + 1 < Offset.limit
  · obtain ⟨report, reported⟩ := @exists_report source settings fault inside
    obtain ⟨otherReport, otherReported⟩ := @exists_report other others fault inside
    rw [reported, otherReported]
    exact ⟨rfl, rfl⟩
  · unfold report Fault.record Offset.add
    rw [← alike.form, if_neg inside]
    split <;> exact ⟨rfl, rfl⟩

/-- Alike work on lines, with lexers that differ in the tokens they hold. -/
theorem processLines_alike
    {lexer second : Lexer}
    {index : Nat}
    {lines : List String}
    (alike : settings.Alike others)
    (same : lexer.dialect = second.dialect) :
    (source.processLines settings lexer index lines).Alike
      (other.processLines others second index lines) := by
  induction lines generalizing lexer second index with
  | nil => exact ⟨by simp [processLines], rfl⟩
  | cons text lines inductionHypothesis =>
      simp only [processLines, ← same]
      cases Offset.add index 1 with
      | error halt => exact .refl _
      | ok line =>
          refine Outcome.Alike.after ?_ (by simp)
          cases Lexer.tokenizeLine lexer.dialect text line with
          | ok tokens =>
              refine Outcome.Alike.after ?_ (by simp [alike.form])
              exact @inductionHypothesis (lexer.add tokens) (second.add tokens) line same
          | error halt =>
              cases halt with
              | fault fault => exact report_alike alike fault
              | breach rule => exact .refl _

/-- Work on the same lines is alike under settings that are. -/
theorem process_alike
    (alike : settings.Alike others)
    (same : source.lines = other.lines) :
    (source.process settings).Alike (other.process others) := by
  unfold process
  rw [← same]
  exact (processLines_alike alike alike.dialect).after (by simp)

end Source

/-- Work on files is alike under settings that are. -/
theorem processFiles_alike
    {settings others : Settings}
    (alike : settings.Alike others)
    (world : World)
    (names : List String) :
    (processFiles settings world names).Alike (processFiles others world names) := by
  induction names with
  | nil => exact .refl _
  | cons name names inductionHypothesis =>
      unfold processFiles
      cases world.text name with
      | error failure => exact failed_alike alike _
      | ok text => exact (Source.process_alike alike rfl).andThen inductionHypothesis

end Brace.CommandLine
