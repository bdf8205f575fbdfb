import Mathlib.Data.List.Chain
import Mathlib.Order.WellFounded
import Brace.Proofs.Validity

namespace Brace

/-!
# From round to round

A round that leads on either passes characters, or it passes none and ends a match.  An idle matcher
consumes every character that it is fed, so after a match has ended the same character is passed.
Hence no scan goes on forever, and at most two rounds begin at each character.
-/

/-- A matcher either consumes a character, or it was matching and becomes idle. -/
theorem Matcher.turn_of_feed
    {matcher after : Matcher}
    {c : Char}
    {prev : Option Char}
    {pos : Nat}
    {step : Step}
    (fed : matcher.feed c prev pos = .ok (after, step)) :
    step.consumed = true ∨ matcher.isIdle = false ∧ after.isIdle = true := by
  cases consumed : step.consumed with
  | true => exact Or.inl rfl
  | false => exact Or.inr (feed_not_consumed fed consumed)

/-- The matcher of a scan, which is idle inside a string. -/
def Mode.matcher : Mode → Matcher
  | plain matcher _ => matcher
  | quoted _ => .idle

namespace Scan

/-- The round that begins here leads to another scan. -/
def LeadsTo (inner : String → Except Halt (List Token)) (dialect : Dialect) (scan after : Scan) :
    Prop :=
  scan.reader.atEnd = false ∧ scan.step inner dialect = .ok after

/-- What a round that leads on does: it passes characters, or ends a match and passes none. -/
inductive Turn (scan after : Scan) : Prop
  | passes (taken : List Char)
      (some : taken ≠ [])
      (takes : scan.reader.rest = taken ++ after.reader.rest)
      (counts : after.reader.pos = scan.reader.pos + taken.length)
  | rests
      (sameRest : after.reader.rest = scan.reader.rest)
      (samePos : after.reader.pos = scan.reader.pos)
      (wasMatching : scan.mode.matcher.isIdle = false)
      (isIdle : after.mode.matcher.isIdle = true)

theorem budget_eq
    (scan : Scan) :
    scan.budget = 2 * scan.reader.rest.length + matchWeight scan.mode.matcher := by
  obtain ⟨reader, mode, tokens⟩ := scan
  cases mode with
  | plain matcher word => rfl
  | quoted literal => rfl

theorem matchWeight_of_isIdle
    {matcher : Matcher}
    (idle : matcher.isIdle = true) :
    matchWeight matcher = 0 := by
  rw [matchWeight, if_pos idle]

theorem matchWeight_of_matching
    {matcher : Matcher}
    (matching : matcher.isIdle = false) :
    matchWeight matcher = 1 := by
  rw [matchWeight, if_neg (by simp [matching])]

theorem matchWeight_le
    (matcher : Matcher) :
    matchWeight matcher ≤ 1 := by
  cases matcher with
  | idle => decide
  | matching start spelled candidates => exact Nat.le_refl 1

variable {inner : String → Except Halt (List Token)} {dialect : Dialect}

/-- There is no infinite sequence of rounds, whatever is done about interpolations. -/
theorem wellFounded_leadsTo : WellFounded fun after scan => LeadsTo inner dialect scan after :=
  Subrelation.wf
    (fun leads => budget_step_lt leads.1 leads.2)
    (InvImage.wf budget Nat.lt_wfRel.wf)

/-- A round that passes nothing ends a match, for it has to use up some of the budget. -/
theorem turn_of_leadsTo
    {scan after : Scan}
    (valid : scan.mode.Valid)
    (leads : scan.LeadsTo inner dialect after) :
    scan.Turn after := by
  obtain ⟨⟨taken, takes⟩, total, -⟩ := (follows_of_step valid leads.2).leads
  have smaller := budget_step_lt leads.1 leads.2
  rw [budget_eq, budget_eq] at smaller
  rw [← takes, List.length_append] at total smaller
  have counts : after.reader.pos = scan.reader.pos + taken.length := by omega
  by_cases nothing : taken = []
  · subst nothing
    have lighter : matchWeight after.mode.matcher < matchWeight scan.mode.matcher := by
      simpa using smaller
    have wasMatching : scan.mode.matcher.isIdle = false := by
      cases idle : scan.mode.matcher.isIdle with
      | false => rfl
      | true =>
          rw [matchWeight_of_isIdle idle] at lighter
          exact absurd lighter (Nat.not_lt_zero _)
    have isIdle : after.mode.matcher.isIdle = true := by
      cases idle : after.mode.matcher.isIdle with
      | true => rfl
      | false =>
          rw [matchWeight_of_matching idle, matchWeight_of_matching wasMatching] at lighter
          exact absurd lighter (Nat.lt_irrefl 1)
    exact .rests (by simpa using takes) (by simpa using counts) wasMatching isIdle
  · exact .passes taken nothing takes.symm counts

/-! ## All rounds of a scan -/

/-- The rounds of a scan begin with the scan itself. -/
theorem head?_rounds
    (scan : Scan) :
    (scan.rounds inner dialect).head? = some scan := by
  fun_cases rounds inner dialect scan with
  | _ => rfl

/-- What holds of a scan and is kept by rounds that lead on holds in all of its rounds. -/
theorem forall_mem_rounds
    {motive : Scan → Prop}
    {scan : Scan}
    (holds : motive scan)
    (kept : ∀ scan after, motive scan → scan.LeadsTo inner dialect after → motive after) :
    ∀ visited ∈ scan.rounds inner dialect, motive visited := by
  fun_induction rounds inner dialect scan with
  | case1 scan atEnd => simpa using holds
  | case2 scan notAtEnd halt acted => simpa using holds
  | case3 scan notAtEnd after acted inductionHypothesis =>
      rw [Bool.not_eq_true] at notAtEnd
      rw [List.forall_mem_cons]
      exact ⟨holds, inductionHypothesis (kept scan after holds ⟨notAtEnd, acted⟩)⟩

/-- All rounds of a valid scan are those of valid scans further on in its line. -/
theorem follows_of_mem_rounds
    {scan visited : Scan}
    (valid : scan.mode.Valid)
    (member : visited ∈ scan.rounds inner dialect) :
    visited.Follows scan.reader := by
  refine
    forall_mem_rounds (motive := fun visited => visited.Follows scan.reader) ⟨valid, .refl _⟩ ?_
      visited member
  intro before after follows leads
  have further := follows_of_step follows.valid leads.2
  exact ⟨further.valid, follows.leads.trans further.leads⟩

/-- Each round of a valid scan but the last one leads to the next one. -/
theorem isChain_rounds
    {scan : Scan}
    (valid : scan.mode.Valid) :
    (scan.rounds inner dialect).IsChain fun scan after =>
      scan.LeadsTo inner dialect after ∧ scan.Turn after := by
  fun_induction rounds inner dialect scan with
  | case1 scan atEnd => exact .singleton scan
  | case2 scan notAtEnd halt acted => exact .singleton scan
  | case3 scan notAtEnd after acted inductionHypothesis =>
      rw [Bool.not_eq_true] at notAtEnd
      have leads : scan.LeadsTo inner dialect after := ⟨notAtEnd, acted⟩
      refine List.isChain_cons.mpr ⟨?_, inductionHypothesis (follows_of_step valid acted).valid⟩
      intro next isNext
      rw [head?_rounds, Option.mem_some_iff] at isNext
      subst next
      exact ⟨leads, turn_of_leadsTo valid leads⟩

/-- There are no more rounds than the budget allows, with one for the end of the line. -/
theorem length_rounds_le
    (scan : Scan) :
    (scan.rounds inner dialect).length ≤ scan.budget + 1 := by
  fun_induction rounds inner dialect scan with
  | case1 scan atEnd => simp
  | case2 scan notAtEnd halt acted => simp
  | case3 scan notAtEnd after acted inductionHypothesis =>
      rw [Bool.not_eq_true] at notAtEnd
      have smaller := budget_step_lt notAtEnd acted
      rw [List.length_cons]
      omega

/-- How many rounds begin at an offset. -/
def visits (rounds : List Scan) (pos : Nat) : Nat :=
  rounds.countP fun scan => scan.reader.pos == pos

theorem visits_cons
    (scan : Scan)
    (rounds : List Scan)
    (pos : Nat) :
    visits (scan :: rounds) pos =
      visits rounds pos + if scan.reader.pos = pos then 1 else 0 := by
  simp [visits, List.countP_cons]

theorem visits_singleton_le
    (scan : Scan)
    (pos : Nat) :
    visits [scan] pos ≤ 1 :=
  List.countP_le_length

/-- No round goes back to a character that the scan has passed. -/
theorem visits_passed
    {scan : Scan}
    {pos : Nat}
    (valid : scan.mode.Valid)
    (passed : pos < scan.reader.pos) :
    visits (scan.rounds inner dialect) pos = 0 := by
  rw [visits, List.countP_eq_zero]
  intro visited member
  obtain ⟨suffix, total, -⟩ := (follows_of_mem_rounds valid member).leads
  have shorter := suffix.length_le
  rw [beq_iff_eq]
  omega

/--
Two rounds at most begin at each offset, and only one where the scan is if nothing is being matched.
-/
theorem visits_le
    {scan : Scan}
    (valid : scan.mode.Valid)
    (pos : Nat) :
    visits (scan.rounds inner dialect) pos ≤ 2 ∧
      visits (scan.rounds inner dialect) scan.reader.pos ≤ 1 + matchWeight scan.mode.matcher := by
  fun_induction rounds inner dialect scan with
  | case1 scan atEnd =>
      have once := visits_singleton_le scan
      exact ⟨Nat.le_succ_of_le (once pos), Nat.le_add_right_of_le (once _)⟩
  | case2 scan notAtEnd halt acted =>
      have once := visits_singleton_le scan
      exact ⟨Nat.le_succ_of_le (once pos), Nat.le_add_right_of_le (once _)⟩
  | case3 scan notAtEnd after acted inductionHypothesis =>
      rw [Bool.not_eq_true] at notAtEnd
      have laterValid := (follows_of_step valid acted).valid
      obtain ⟨twice, again⟩ := inductionHypothesis laterValid
      have here :
          visits (scan :: after.rounds inner dialect) scan.reader.pos ≤
            1 + matchWeight scan.mode.matcher := by
        rw [visits_cons, if_pos rfl]
        cases turn_of_leadsTo valid ⟨notAtEnd, acted⟩ with
        | passes taken some takes counts =>
            have positive := List.length_pos_iff.mpr some
            rw [visits_passed laterValid (by omega)]
            omega
        | rests sameRest samePos wasMatching isIdle =>
            rw [samePos, matchWeight_of_isIdle isIdle] at again
            rw [matchWeight_of_matching wasMatching]
            omega
      refine ⟨?_, here⟩
      by_cases isHere : scan.reader.pos = pos
      · subst isHere
        exact Nat.le_trans here (Nat.add_le_add_left (matchWeight_le _) 1)
      · rw [visits_cons, if_neg isHere]
        exact twice

end Scan

end Brace
