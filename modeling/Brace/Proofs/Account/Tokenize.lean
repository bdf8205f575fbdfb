import Brace.Proofs.Account.Rounds

namespace Brace

/-!
# Accounts of tokenizing

Tokenizing a line gives the answer to which the rules lead from its first character on, where
the rules for interpolations are read in terms of tokenizing itself.  It follows that tokenizing
a line which fits the offsets never breaks a rule of the program.
-/

open Account

theorem scan_ofText
    (text : String) :
    Scan.ofText text = (ofText text.toList).scan := rfl

/--
Tokenizing a text that fits the offsets gives tidy tokens, or a fault at one of its characters.
-/
theorem orderly_tokenize
    {dialect : Dialect}
    {text : String}
    (fits : text.length < Offset.limit) :
    Orderly text.length (tokenize dialect text) := by
  have size : (ofText text.toList).line.length = text.length := String.length_toList
  -- The induction is on the length of the text, for interpolations are shorter than their lines.
  have answers : Answers (tokenize dialect) text.length := by
    intro raw shorter
    exact orderly_tokenize (Nat.lt_trans shorter fits)
  rw [← size] at answers fits
  obtain ⟨result, runs⟩ := exists_runs (ofText text.toList) answers
  have sound := @sound_ofText (tokenize dialect) dialect text.toList
  have orderly := orderly_of_runs sound answers runs
  rw [tokenize_eq, scan_ofText, run_of_runs sound answers fits runs, ← size]
  exact orderly
termination_by text.length

/-- Tokenizing gives an orderly result for every text that fits the offsets. -/
theorem answers_tokenize
    {dialect : Dialect}
    {size : Nat}
    (fits : size ≤ Offset.limit) :
    Answers (tokenize dialect) size := by
  intro raw shorter
  exact orderly_tokenize (Nat.lt_of_lt_of_le shorter fits)

/-- Tokenizing gives the answer that the rules lead to. -/
theorem tokenize_of_runs
    {dialect : Dialect}
    {text : List Char}
    {result : Except Fault (List Fragment)}
    (fits : text.length < Offset.limit)
    (runs : Runs (tokenize dialect) dialect (ofText text) result) :
    tokenize dialect (String.ofList text) = answer result := by
  have sound := @sound_ofText (tokenize dialect) dialect text
  rw [tokenize_eq, scan_ofText, String.toList_ofList]
  exact run_of_runs sound (answers_tokenize (Nat.le_of_lt fits)) fits runs

/-- The rules lead to the result of tokenizing. -/
theorem exists_runs_tokenize
    {dialect : Dialect}
    {text : List Char}
    (fits : text.length < Offset.limit) :
    ∃ result,
      Runs (tokenize dialect) dialect (ofText text) result ∧
        tokenize dialect (String.ofList text) = answer result := by
  have answers : Answers (tokenize dialect) (ofText text).line.length :=
    answers_tokenize (Nat.le_of_lt fits)
  obtain ⟨result, runs⟩ := @exists_runs (tokenize dialect) dialect (ofText text) answers
  exact ⟨result, runs, tokenize_of_runs fits runs⟩

/-- A text that can be tokenized falls into lawful fragments, which give its tokens. -/
theorem runs_of_tokenize_ok
    {dialect : Dialect}
    {text : List Char}
    {tokens : List Token}
    (fits : text.length < Offset.limit)
    (reads : tokenize dialect (String.ofList text) = .ok tokens) :
    ∃ fragments,
      Runs (tokenize dialect) dialect (ofText text) (.ok fragments) ∧
        tokens = Fragment.layout 0 fragments := by
  obtain ⟨result, runs, same⟩ := exists_runs_tokenize fits
  rw [reads] at same
  cases result with
  | ok fragments =>
      cases same
      exact ⟨fragments, runs, rfl⟩
  | error fault => cases same

/-- A text that is at fault leads by the rules to its fault. -/
theorem runs_of_tokenize_error
    {dialect : Dialect}
    {text : List Char}
    {fault : Fault}
    (fits : text.length < Offset.limit)
    (faulty : tokenize dialect (String.ofList text) = .error (.fault fault)) :
    Runs (tokenize dialect) dialect (ofText text) (.error fault) := by
  obtain ⟨result, runs, same⟩ := exists_runs_tokenize fits
  rw [faulty] at same
  cases result with
  | ok fragments => cases same
  | error found =>
      cases same
      exact runs

end Brace
