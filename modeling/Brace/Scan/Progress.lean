import Brace.Scan.Basic

namespace Brace

/-!
# Progress of a scan

Every round of a scan passes a character, or ends a match without passing one.  So the rounds are
at most twice as many as the characters, and the scan of a line always ends.
-/

namespace Matcher

/-- A matcher that leaves its character unconsumed was matching and is idle now. -/
theorem feed_not_consumed
    {matcher after : Matcher}
    {c : Char}
    {prev : Option Char}
    {pos : Nat}
    {step : Step}
    (fed : matcher.feed c prev pos = .ok (after, step))
    (unconsumed : step.consumed = false) :
    matcher.isIdle = false ∧ after.isIdle = true := by
  have extend_consumed :
      ∀ {start spelled candidates},
        extend start spelled candidates pos = .ok (after, step) → step.consumed = true := by
    intro start spelled candidates extended
    unfold extend at extended
    split at extended
    · split at extended
      · obtain ⟨_, _, same⟩ := Halt.bind_eq_ok.mp extended
        cases same
        rfl
      · cases extended
        rfl
    · cases extended
      rfl
  unfold feed at fed
  split at fed
  · split at fed
    · cases fed
      cases unconsumed
    · simp [extend_consumed fed] at unconsumed
  · split at fed
    · cases fed
      exact ⟨rfl, rfl⟩
    · simp [extend_consumed fed] at unconsumed

end Matcher

namespace Scan

/-- One while a symbol is being matched, none otherwise. -/
def matchWeight (matcher : Matcher) : Nat :=
  if matcher.isIdle then 0 else 1

/-- Twice the characters left, and one more while a symbol is being matched. -/
def budget (scan : Scan) : Nat :=
  match scan.mode with
  | .plain matcher _ => 2 * scan.reader.rest.length + matchWeight matcher
  | .quoted _ => 2 * scan.reader.rest.length

/-- Passing a character that was consumed leaves less. -/
theorem length_rest_passIf_true
    {reader after : Reader}
    (left : reader.rest ≠ [])
    (passed : passIf true reader = .ok after) :
    after.rest.length < reader.rest.length := by
  obtain ⟨⟨next, later⟩, advanced, same⟩ := Halt.bind_eq_ok.mp passed
  cases same
  cases next with
  | some c => exact Reader.length_rest_advance advanced
  | none =>
      unfold Reader.advance at advanced
      split at advanced
      · contradiction
      · obtain ⟨_, _, impossible⟩ := Halt.bind_eq_ok.mp advanced
        cases impossible

/-- Acting on a symbol passes nothing and starts no match. -/
theorem budget_recognise_le
    {reader : Reader}
    {matcher : Matcher}
    {word : Option Word}
    {tokens : List Token}
    {symbol : Symbol}
    {start stop : Nat}
    {after : Scan}
    (acted : recognise reader matcher word tokens symbol start stop = .ok after) :
    after.budget ≤ 2 * reader.rest.length + matchWeight matcher := by
  unfold recognise at acted
  split at acted
  · obtain ⟨_, _, acted⟩ := Halt.bind_eq_ok.mp acted
    obtain ⟨_, _, acted⟩ := Halt.bind_eq_ok.mp acted
    cases acted
    exact Nat.le_refl _
  · obtain ⟨_, _, acted⟩ := Halt.bind_eq_ok.mp acted
    cases acted
    exact Nat.le_add_right _ _
  · cases acted
  · obtain ⟨_, _, acted⟩ := Halt.bind_eq_ok.mp acted
    cases acted
    exact Nat.le_refl _

/-- Acting on a step that consumed its character passes that character. -/
theorem budget_apply_of_consumed
    {reader : Reader}
    {matcher : Matcher}
    {word : Option Word}
    {tokens : List Token}
    {step : Matcher.Step}
    {after : Scan}
    (left : reader.rest ≠ [])
    (consumed : step.consumed = true)
    (acted : apply reader matcher word tokens step = .ok after) :
    after.budget < 2 * reader.rest.length := by
  have weight : matchWeight matcher ≤ 1 := by
    unfold matchWeight
    split <;> decide
  cases step with
  | pending =>
      obtain ⟨later, passed, acted⟩ := Halt.bind_eq_ok.mp acted
      have shorter := length_rest_passIf_true left passed
      cases acted
      simp only [budget]
      omega
  | matched symbol start stop flag =>
      obtain ⟨later, passed, acted⟩ := Halt.bind_eq_ok.mp acted
      rw [show flag = true from consumed] at passed
      have shorter := length_rest_passIf_true left passed
      have bounded := budget_recognise_le acted
      omega
  | unknown text start flag =>
      obtain ⟨later, passed, acted⟩ := Halt.bind_eq_ok.mp acted
      rw [show flag = true from consumed] at passed
      have shorter := length_rest_passIf_true left passed
      obtain ⟨_, _, acted⟩ := Halt.bind_eq_ok.mp acted
      cases acted
      simp only [budget]
      omega

/-- Acting on a step that consumed nothing leaves the reader where it is. -/
theorem budget_apply_of_unconsumed
    {reader : Reader}
    {matcher : Matcher}
    {word : Option Word}
    {tokens : List Token}
    {step : Matcher.Step}
    {after : Scan}
    (unconsumed : step.consumed = false)
    (acted : apply reader matcher word tokens step = .ok after) :
    after.budget ≤ 2 * reader.rest.length + matchWeight matcher := by
  cases step with
  | pending => cases unconsumed
  | matched symbol start stop flag =>
      obtain ⟨later, passed, acted⟩ := Halt.bind_eq_ok.mp acted
      rw [show flag = false from unconsumed] at passed
      cases passed
      exact budget_recognise_le acted
  | unknown text start flag =>
      obtain ⟨later, passed, acted⟩ := Halt.bind_eq_ok.mp acted
      rw [show flag = false from unconsumed] at passed
      cases passed
      obtain ⟨_, _, acted⟩ := Halt.bind_eq_ok.mp acted
      cases acted
      exact Nat.le_refl _

/-- Every round outside of strings uses up some of the budget. -/
theorem budget_stepPlain_lt
    {reader : Reader}
    {matcher : Matcher}
    {word : Option Word}
    {tokens : List Token}
    {c : Char}
    {after : Scan}
    (left : reader.rest ≠ [])
    (acted : stepPlain reader matcher word tokens c = .ok after) :
    after.budget < 2 * reader.rest.length + matchWeight matcher := by
  unfold stepPlain at acted
  split at acted
  · rename_i idle
    obtain ⟨_, _, acted⟩ := Halt.bind_eq_ok.mp acted
    obtain ⟨later, passed, acted⟩ := Halt.bind_eq_ok.mp acted
    have shorter := length_rest_passIf_true left passed
    cases acted
    simp only [budget]
    omega
  · obtain ⟨⟨later, step⟩, fed, acted⟩ := Halt.bind_eq_ok.mp acted
    cases consumed : step.consumed with
    | true =>
        exact Nat.lt_of_lt_of_le
          (budget_apply_of_consumed left consumed acted)
          (Nat.le_add_right _ _)
    | false =>
        have bounded := budget_apply_of_unconsumed consumed acted
        obtain ⟨wasMatching, isIdle⟩ := Matcher.feed_not_consumed fed consumed
        simp only [matchWeight, isIdle, wasMatching] at bounded ⊢
        simp at bounded ⊢
        omega

/-- Acting on what was met inside a string starts no match. -/
theorem budget_stepQuoted_le
    {inner : String → Except Halt (List Token)}
    {reader : Reader}
    {literal : Literal}
    {tokens : List Token}
    {pos : Nat}
    {event : Literal.Event}
    {after : Scan}
    (acted : stepQuoted inner reader literal tokens pos event = .ok after) :
    after.budget ≤ 2 * reader.rest.length := by
  cases event with
  | continued =>
      cases acted
      exact Nat.le_refl _
  | closed =>
      obtain ⟨_, _, acted⟩ := Halt.bind_eq_ok.mp acted
      obtain ⟨_, _, acted⟩ := Halt.bind_eq_ok.mp acted
      cases acted
      exact Nat.le_refl _
  | segmentClosed segment =>
      obtain ⟨_, _, acted⟩ := Halt.bind_eq_ok.mp acted
      cases acted
      exact Nat.le_refl _

/-- Every round uses up some of the budget. -/
theorem budget_step_lt
    {inner : String → Except Halt (List Token)}
    {dialect : Dialect}
    {scan after : Scan}
    (left : scan.reader.atEnd = false)
    (acted : scan.step inner dialect = .ok after) :
    after.budget < scan.budget := by
  obtain ⟨reader, mode, tokens⟩ := scan
  have nonempty : reader.rest ≠ [] := by
    simpa [Reader.atEnd] using left
  unfold step at acted
  split at acted
  · rename_i nothing
    exact absurd (List.head?_eq_none_iff.mp nothing) nonempty
  · split at acted
    · rename_i matcher word shape
      cases shape
      exact budget_stepPlain_lt nonempty acted
    · rename_i literal shape
      cases shape
      obtain ⟨event, outcome, acted⟩ := Halt.bind_eq_ok.mp acted
      exact Nat.lt_of_le_of_lt
        (budget_stepQuoted_le acted)
        (Nat.mul_lt_mul_of_pos_left (Literal.length_rest_read outcome) (by decide))

/-- Go on to the end of the line and give its tokens. -/
def run (inner : String → Except Halt (List Token)) (dialect : Dialect) (scan : Scan) :
    Except Halt (List Token) :=
  if _left : scan.reader.atEnd then
    scan.finish
  else
    match _acted : scan.step inner dialect with
    | .error halt => .error halt
    | .ok after => run inner dialect after
termination_by scan.budget
decreasing_by exact budget_step_lt (by simpa using _left) _acted

/-- The scan at the beginning of every round and at the end, as far as it gets. -/
def rounds (inner : String → Except Halt (List Token)) (dialect : Dialect) (scan : Scan) :
    List Scan :=
  if _left : scan.reader.atEnd then
    [scan]
  else
    match _acted : scan.step inner dialect with
    | .error _ => [scan]
    | .ok after => scan :: rounds inner dialect after
termination_by scan.budget
decreasing_by exact budget_step_lt (by simpa using _left) _acted

/-! ## Runs by rounds -/

variable {inner : String → Except Halt (List Token)} {dialect : Dialect}

theorem run_of_atEnd
    {scan : Scan}
    (atEnd : scan.reader.atEnd = true) :
    scan.run inner dialect = scan.finish := by
  rw [run, dif_pos atEnd]

/-- A round that halts ends the scan. -/
theorem run_of_step_error
    {scan : Scan}
    {halt : Halt}
    (left : scan.reader.atEnd = false)
    (acted : scan.step inner dialect = .error halt) :
    scan.run inner dialect = .error halt := by
  rw [run, dif_neg (by simp [left])]
  split <;> simp_all

/-- After a round the scan goes on from where it led. -/
theorem run_of_step_ok
    {scan after : Scan}
    (left : scan.reader.atEnd = false)
    (acted : scan.step inner dialect = .ok after) :
    scan.run inner dialect = after.run inner dialect := by
  conv => lhs; rw [run, dif_neg (by simp [left])]
  split <;> simp_all

theorem rounds_of_atEnd
    {scan : Scan}
    (atEnd : scan.reader.atEnd = true) :
    scan.rounds inner dialect = [scan] := by
  rw [rounds, dif_pos atEnd]

/-- A round that halts is the last one. -/
theorem rounds_of_step_error
    {scan : Scan}
    {halt : Halt}
    (left : scan.reader.atEnd = false)
    (acted : scan.step inner dialect = .error halt) :
    scan.rounds inner dialect = [scan] := by
  rw [rounds, dif_neg (by simp [left])]
  split <;> simp_all

/-- After a round come the rounds from where it led. -/
theorem rounds_of_step_ok
    {scan after : Scan}
    (left : scan.reader.atEnd = false)
    (acted : scan.step inner dialect = .ok after) :
    scan.rounds inner dialect = scan :: after.rounds inner dialect := by
  conv => lhs; rw [rounds, dif_neg (by simp [left])]
  split <;> simp_all

end Scan

end Brace
