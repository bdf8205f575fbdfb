import Brace.Proofs.Account.Tokenize
import Brace.Proofs.Isolation

namespace Brace

/-!
# Tokenizing breaks no rule

Every sum of offsets is checked, and so are the order of the ends of a span, the place where text
is added to a word, and the order of tokens.  A check that fails halts the work with a breach.  In
a line that fits the offsets none of them fails, in no round: each round is one of a sound
account, which leads on or ends in a fault of the line.
-/

open Account

/-- A result that comes about without a breach of the rules that the program must keep. -/
def Unbroken (result : Except Halt α) : Prop :=
  ∀ rule, result ≠ .error (.breach rule)

theorem unbroken_ok
    (value : α) :
    Unbroken (.ok value) := by
  intro rule same
  cases same

theorem unbroken_fault
    (fault : Fault) :
    @Unbroken α (.error (.fault fault)) := by
  intro rule same
  cases same

/-! ## Rounds -/

section

variable {inner : String → Except Halt (List Token)} {dialect : Dialect}

namespace Account

/-- The scans in the rounds of a line are those of sound accounts of the line. -/
theorem exists_account_of_mem_rounds
    (account : Account)
    (sound : Sound inner dialect account)
    (answers : Answers inner account.line.length)
    (fits : account.line.length < Offset.limit)
    {scan : Scan}
    (visited : scan ∈ account.scan.rounds inner dialect) :
    ∃ reached,
      Sound inner dialect reached ∧ reached.line = account.line ∧ scan = reached.scan := by
  by_cases ends : account.rest = []
  · have atEnd : account.scan.reader.atEnd = true := by
      rw [atEnd_scan, ends, List.isEmpty_nil]
    rw [Scan.rounds_of_atEnd atEnd, List.mem_singleton] at visited
    exact ⟨account, sound, rfl, visited⟩
  · have left : account.scan.reader.atEnd = false := by
      rw [atEnd_scan, List.isEmpty_eq_false_iff]
      exact ends
    rcases @leads inner dialect account answers ends with ⟨after, moves⟩ | ⟨fault, fails⟩
    · -- Every rule uses up some of the budget, so there are only so many rounds.
      have smaller := budget_lt_of_moves moves
      have line := line_of_moves moves
      have stepped := step_of_moves sound answers fits moves
      rw [Scan.rounds_of_step_ok left stepped, List.mem_cons] at visited
      rcases visited with isFirst | isLater
      · exact ⟨account, sound, rfl, isFirst⟩
      · rw [← line] at answers fits ⊢
        exact exists_account_of_mem_rounds after (sound.of_moves moves) answers fits isLater
    · have stepped := step_of_fails sound answers fits ends fails
      rw [Scan.rounds_of_step_error left stepped, List.mem_singleton] at visited
      exact ⟨account, sound, rfl, visited⟩
termination_by account.budget

/-- A round breaks no rule. -/
theorem unbroken_step
    {account : Account}
    (sound : Sound inner dialect account)
    (answers : Answers inner account.line.length)
    (fits : account.line.length < Offset.limit) :
    Unbroken (account.scan.step inner dialect) := by
  by_cases ends : account.rest = []
  · have stays : account.scan.step inner dialect = .ok account.scan := by
      simp only [Scan.step, Reader.peek, scan, Reader.between, ends, List.head?_nil]
      rfl
    rw [stays]
    exact unbroken_ok account.scan
  · rcases @leads inner dialect account answers ends with ⟨after, moves⟩ | ⟨fault, fails⟩
    · rw [step_of_moves sound answers fits moves]
      exact unbroken_ok after.scan
    · rw [step_of_fails sound answers fits ends fails]
      exact unbroken_fault fault

/-- The end of a line breaks no rule. -/
theorem unbroken_finish
    {account : Account}
    (sound : Sound inner dialect account)
    (answers : Answers inner account.line.length)
    (fits : account.line.length < Offset.limit)
    (ends : account.rest = []) :
    Unbroken account.scan.finish := by
  obtain ⟨fragments, mode, rest⟩ := account
  cases ends
  cases mode with
  | plain word spelled =>
      rw [finish_of_plain sound answers fits]
      exact unbroken_ok _
  | quoted delimiter parts segment =>
      cases segment with
      | none =>
          rw [finish_of_fails rfl (@Fails.unclosed inner dialect fragments delimiter parts)]
          exact unbroken_fault _
      | some raw =>
          rw [finish_of_fails rfl
            (@Fails.unclosedSegment inner dialect fragments delimiter parts raw)]
          exact unbroken_fault _

/-- The place that is kept for the token of a string is one among the tokens. -/
theorem insertAt_le_of_quoted
    {account : Account}
    {literal : Literal}
    (quoted : account.scan.mode = .quoted literal) :
    literal.insertAt ≤ account.scan.tokens.length := by
  obtain ⟨fragments, mode, rest⟩ := account
  cases mode with
  | plain word spelled => cases quoted
  | quoted delimiter parts segment =>
      cases quoted
      simp [Account.literal, scan]

end Account

end

/-! ## Lines -/

/-- A halt that is no breach is none with the number of a line either. -/
theorem Unbroken.mapError_atLine
    {result : Except Halt α}
    (unbroken : Unbroken result)
    (line : Nat) :
    Unbroken (result.mapError fun halt => halt.atLine line) := by
  cases result with
  | ok value => exact unbroken_ok value
  | error halt =>
      cases halt with
      | fault fault => exact unbroken_fault (fault.atLine line)
      | breach rule => exact absurd rfl (unbroken rule)

theorem unbroken_tokenize
    {dialect : Dialect}
    {text : String}
    (fits : text.length < Offset.limit) :
    Unbroken (tokenize dialect text) := by
  intro rule broken
  have orderly := @orderly_tokenize dialect text fits
  rw [broken] at orderly
  exact orderly

theorem unbroken_scanLine
    {lexer : Lexer}
    {text : String}
    (fits : text.length < Offset.limit)
    (line : Nat) :
    Unbroken (lexer.scanLine text line) := by
  have unbroken :=
    (@unbroken_tokenize lexer.dialect text fits).mapError_atLine line
  rw [← Lexer.tokenizeLine_eq] at unbroken
  unfold Lexer.scanLine
  cases tokenized : Lexer.tokenizeLine lexer.dialect text line with
  | ok tokens => exact unbroken_ok (lexer.add tokens)
  | error halt =>
      rw [tokenized] at unbroken
      rintro rule same
      cases same
      exact unbroken rule rfl

theorem unbroken_tokenizeLines
    {lines : List String}
    (few : lines.length < Offset.limit)
    (short : ∀ line ∈ lines, line.length < Offset.limit) :
    Unbroken (tokenizeLines lines) := by
  rcases tokenized_or_halts .usual lines with
    ⟨found, tokenized⟩ | ⟨before, text, after, found, halt, rfl, tokenized, halts⟩
  · rw [Lexer.tokenizeLines_of_tokenized tokenized few]
    exact unbroken_ok found.flatten
  · have unbroken :=
      (@unbroken_tokenize .usual text (short text (by simp))).mapError_atLine (before.length + 1)
    rw [Lexer.tokenizeLines_of_halt tokenized halts few]
    rwa [halts] at unbroken

/--
A text that fits the offsets is tokenized without a breach in any round, and so is each line of a
list and the list itself.
-/
theorem unbroken_of_fits
    {dialect : Dialect}
    {text : String}
    {lines : List String}
    (fits : text.length < Offset.limit)
    (few : lines.length < Offset.limit)
    (short : ∀ line ∈ lines, line.length < Offset.limit) :
    Unbroken (tokenize dialect text) ∧
      (∀ scan ∈ (Scan.ofText text).rounds (tokenize dialect) dialect,
        Unbroken (scan.step (tokenize dialect) dialect) ∧
          (scan.reader.atEnd = true → Unbroken scan.finish) ∧
          ∀ literal, scan.mode = .quoted literal → literal.insertAt ≤ scan.tokens.length) ∧
      (∀ tokens line, Unbroken (Lexer.scanLine ⟨dialect, tokens⟩ text line)) ∧
      Unbroken (tokenizeLines lines) := by
  refine
    ⟨unbroken_tokenize fits, ?_, fun tokens line => unbroken_scanLine fits line,
      unbroken_tokenizeLines few short⟩
  intro scan visited
  have size : (ofText text.toList).line.length = text.length := String.length_toList
  rw [← size] at fits
  have answers : Answers (tokenize dialect) (ofText text.toList).line.length :=
    answers_tokenize (Nat.le_of_lt fits)
  obtain ⟨account, sound, line, rfl⟩ :=
    exists_account_of_mem_rounds _ (sound_ofText text.toList) answers fits visited
  rw [← line] at answers fits
  refine ⟨unbroken_step sound answers fits, ?_, fun _ => insertAt_le_of_quoted⟩
  intro atEnd
  rw [atEnd_scan, List.isEmpty_iff] at atEnd
  exact unbroken_finish sound answers fits atEnd

/-- A string with interpolations that is as long as offsets allow, alone and before a fault. -/
theorem unbroken_longest :
    Unbroken
        (tokenize .usual
          (String.ofList ('"' :: List.replicate 4294967294 interpolationMark))) ∧
      Unbroken
        (tokenizeLines
          [String.ofList ('"' :: List.replicate 4294967294 interpolationMark), "'"]) := by
  have size :
      (String.ofList ('"' :: List.replicate 4294967294 interpolationMark)).length =
        4294967294 + 1 := by
    rw [String.length_ofList, List.length_cons, List.length_replicate]
  have fits :
      (String.ofList ('"' :: List.replicate 4294967294 interpolationMark)).length <
        Offset.limit := by
    rw [size]
    decide
  have few :
      [String.ofList ('"' :: List.replicate 4294967294 interpolationMark), "'"].length <
        Offset.limit := by
    rw [List.length_cons, List.length_singleton]
    decide
  have short :
      ∀ line ∈ [String.ofList ('"' :: List.replicate 4294967294 interpolationMark), "'"],
        line.length < Offset.limit := by
    rintro line member
    rcases List.mem_cons.mp member with rfl | isLast
    · exact fits
    · rw [List.mem_singleton.mp isLast]
      decide
  have unbroken := @unbroken_of_fits .usual _ _ fits few short
  exact ⟨unbroken.1, unbroken.2.2.2⟩

end Brace
