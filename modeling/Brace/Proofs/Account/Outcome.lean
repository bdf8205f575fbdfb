import Brace.Proofs.Account.Sound

namespace Brace

/-!
# Outcomes of accounts

The rules always lead to a result.  A line that can be tokenized is then spelled by lawful
fragments, whose tokens are tidy, and a fault lies at one of its characters.
-/

namespace Account

/-- The answer that a result stands for: the tokens of the fragments, or the fault. -/
def answer : Except Fault (List Fragment) → Except Halt (List Token)
  | .ok fragments => .ok (Fragment.layout 0 fragments)
  | .error fault => .error (.fault fault)

end Account

section

variable {inner : String → Except Halt (List Token)} {dialect : Dialect}

namespace Account

/-! ## The rules lead on -/

/-- A character that completes a spelling leads on, unless it is the interpolation mark. -/
theorem leads_of_completed
    {fragments : List Fragment}
    {word spelled rest : List Char}
    {c : Char}
    (extendable : Symbol.extending (spelled ++ [c]) ≠ [])
    (decided : Symbol.pending (spelled ++ [c]) = false) :
    (∃ after, Moves inner dialect ⟨fragments, .plain word spelled, c :: rest⟩ after) ∨
      ∃ fault, Fails inner dialect ⟨fragments, .plain word spelled, c :: rest⟩ fault := by
  obtain ⟨meaning, sole, _⟩ := Symbol.eq_singleton_of_not_pending extendable decided
  have member := Symbol.mem_table_of_sole sole
  cases meaning with
  | token kind => exact Or.inl ⟨_, .token member decided⟩
  | quote delimiter =>
      obtain ⟨spells, quote⟩ := Symbol.quote_mem_table_iff.mp member
      obtain ⟨rfl, same⟩ := List.append_eq_singleton_iff.mp spells |>.resolve_right (by simp)
      cases same
      exact Or.inl ⟨_, .quote quote⟩
  | interpolation =>
      have spells := Symbol.interpolation_mem_table_iff.mp member
      obtain ⟨rfl, same⟩ := List.append_eq_singleton_iff.mp spells |>.resolve_right (by simp)
      cases same
      exact Or.inr ⟨_, .outside⟩
  | escaped =>
      obtain ⟨mark, isMark, spells⟩ := Symbol.escaped_mem_table_iff.mp member
      have parted : spelled ++ [c] = ['\\'] ++ [mark] := spells
      obtain ⟨rfl, same⟩ := List.append_inj' parted rfl
      cases same
      exact Or.inl ⟨_, .escaped isMark⟩

theorem leads_of_plain
    {fragments : List Fragment}
    {word spelled rest : List Char}
    {c : Char} :
    (∃ after, Moves inner dialect ⟨fragments, .plain word spelled, c :: rest⟩ after) ∨
      ∃ fault, Fails inner dialect ⟨fragments, .plain word spelled, c :: rest⟩ fault := by
  by_cases idle : spelled = []
  · subst spelled
    cases space : Unicode.isSpace c with
    | true => exact Or.inl ⟨_, .blank space⟩
    | false =>
        by_cases refused : Matcher.openings c (lastOf fragments word) = []
        · exact Or.inl ⟨_, .unknown space refused⟩
        · cases waits : Symbol.pending ([] ++ [c]) with
          | true => exact Or.inl ⟨_, .grown (fun _ => refused) waits⟩
          | false =>
              have extendable : Symbol.extending ([] ++ [c]) ≠ [] := by
                intro nothing
                rw [List.nil_append] at nothing
                exact refused (by simp [Symbol.openings_eq, nothing])
              exact leads_of_completed extendable waits
  · by_cases stops : Symbol.extending (spelled ++ [c]) = []
    · cases decided : Symbol.verdict spelled (some c) with
      | some kind => exact Or.inl ⟨_, .settled idle stops decided⟩
      | none => exact Or.inl ⟨_, .abandoned idle stops decided⟩
    · cases waits : Symbol.pending (spelled ++ [c]) with
      | true => exact Or.inl ⟨_, .grown (fun empty => absurd empty idle) waits⟩
      | false => exact leads_of_completed stops waits

theorem leads_of_quoted
    {fragments : List Fragment}
    {delimiter c : Char}
    {parts : List Part}
    {rest : List Char} :
    (∃ after, Moves inner dialect ⟨fragments, .quoted delimiter parts none, c :: rest⟩ after) ∨
      ∃ fault, Fails inner dialect ⟨fragments, .quoted delimiter parts none, c :: rest⟩ fault := by
  by_cases backslash : c = '\\'
  · subst c
    cases decodes : rest.head?.bind Literal.decodeEscape with
    | none => exact Or.inl ⟨_, .stray decodes⟩
    | some decoded =>
        obtain ⟨next, isNext, decodes⟩ := Option.bind_eq_some_iff.mp decodes
        obtain ⟨others, rfl⟩ := List.head?_eq_some_iff.mp isNext
        exact Or.inl ⟨_, .escape decodes⟩
  · by_cases closes : c = delimiter
    · subst c
      exact Or.inl ⟨_, .closed⟩
    · by_cases mark : c = interpolationMark
      · subst c
        cases allowed : dialect.interpolatesIn delimiter with
        | true => exact Or.inl ⟨_, .opened allowed⟩
        | false => exact Or.inr ⟨_, .forbidden allowed⟩
      · exact Or.inl ⟨_, .verbatim backslash closes mark⟩

theorem leads_of_segment
    {fragments : List Fragment}
    {delimiter c : Char}
    {parts : List Part}
    {raw rest : List Char}
    (orderly : Orderly raw.length (inner (String.ofList raw))) :
    (∃ after,
        Moves inner dialect ⟨fragments, .quoted delimiter parts (some raw), c :: rest⟩ after) ∨
      ∃ fault,
        Fails inner dialect ⟨fragments, .quoted delimiter parts (some raw), c :: rest⟩ fault := by
  by_cases mark : c = interpolationMark
  · subst c
    cases reads : inner (String.ofList raw) with
    | ok tokens => exact Or.inl ⟨_, .tokenized reads⟩
    | error halt =>
        cases halt with
        | fault fault => exact Or.inr ⟨_, .inside reads⟩
        | breach rule =>
            rw [reads] at orderly
            exact orderly.elim
  · exact Or.inl ⟨_, .gathered mark⟩

theorem length_raw_lt
    {fragments : List Fragment}
    {delimiter : Char}
    {parts : List Part}
    {raw rest : List Char} :
    raw.length < (line ⟨fragments, .quoted delimiter parts (some raw), rest⟩).length := by
  simp only [line, passed, Mode.written, List.length_append, List.length_cons]
  omega

/-- Unless the line ends, every account leads on or is at fault. -/
theorem leads
    {account : Account}
    (answers : Answers inner account.line.length)
    (left : account.rest ≠ []) :
    (∃ after, Moves inner dialect account after) ∨ ∃ fault, Fails inner dialect account fault := by
  obtain ⟨fragments, mode, rest⟩ := account
  cases rest with
  | nil => contradiction
  | cons c rest =>
      cases mode with
      | plain word spelled => exact leads_of_plain
      | quoted delimiter parts segment =>
          cases segment with
          | none => exact leads_of_quoted
          | some raw =>
              have orderly :=
                answers (String.ofList raw) (by simpa using length_raw_lt)
              exact leads_of_segment (by simpa using orderly)

/-- Twice the characters left, and one more while a spelling is waited on. -/
def budget (account : Account) : Nat :=
  match account.mode with
  | .plain _ [] => 2 * account.rest.length
  | .plain _ (_ :: _) => 2 * account.rest.length + 1
  | .quoted _ _ _ => 2 * account.rest.length

/-- Reading on uses up some of the budget. -/
theorem budget_lt_of_moves
    {account after : Account}
    (moves : Moves inner dialect account after) :
    after.budget < account.budget := by
  cases moves with
  | @grown fragments word spelled c rest opens waits =>
      cases spelled with
      | nil =>
          simp only [budget, List.nil_append, List.length_cons]
          omega
      | cons first others =>
          simp only [budget, List.cons_append, List.length_cons]
          omega
  | @token fragments word spelled c kind rest member decided =>
      cases spelled with
      | nil =>
          simp only [budget, List.length_cons]
          omega
      | cons first others =>
          simp only [budget, List.length_cons]
          omega
  | @settled fragments word spelled c kind rest nonempty stops decided =>
      cases spelled with
      | nil => contradiction
      | cons first others =>
          simp only [budget]
          omega
  | @abandoned fragments word spelled c rest nonempty stops undecided =>
      cases spelled with
      | nil => contradiction
      | cons first others =>
          simp only [budget]
          omega
  | _ =>
      simp only [budget, List.length_cons]
      omega

/-- The rules lead every account to a result. -/
theorem exists_runs
    (account : Account)
    (answers : Answers inner account.line.length) :
    ∃ result, Runs inner dialect account result := by
  by_cases left : account.rest = []
  · obtain ⟨fragments, mode, rest⟩ := account
    cases left
    cases mode with
    | plain word spelled => exact ⟨_, .ended⟩
    | quoted delimiter parts segment =>
        cases segment with
        | none => exact ⟨_, .failed .unclosed⟩
        | some raw => exact ⟨_, .failed .unclosedSegment⟩
  · rcases @leads inner dialect account answers left with ⟨after, moves⟩ | ⟨fault, fails⟩
    · -- Every rule uses up some of the budget, so following the rules comes to an end.
      have smaller := budget_lt_of_moves moves
      obtain ⟨result, runs⟩ := exists_runs after (by rw [line_of_moves moves]; exact answers)
      exact ⟨result, .moved moves runs⟩
    · exact ⟨_, .failed fails⟩
termination_by account.budget

end Account

/-! ## Lawful fragments have tidy tokens -/

/-- The tokens of a part lie between its first and its last character. -/
theorem Part.tidy_tokens
    {delimiter : Char}
    {part : Part}
    {size : Nat}
    (answers : Answers inner size)
    (sound : part.Sound inner dialect delimiter)
    (short : part.written.length ≤ size)
    (offset : Nat) :
    Tidy offset (offset + part.written.length) (part.tokens offset) := by
  cases part with
  | segment raw tokens =>
      obtain ⟨_, _, reads⟩ := sound
      have length : (written (.segment raw tokens)).length = raw.length + 2 := by
        simp [written]
      have orderly := answers (String.ofList raw) (by simp; omega)
      rw [reads, String.length_ofList] at orderly
      have inPlace : Tidy (0 + (offset + 1)) (raw.length + (offset + 1)) _ :=
        orderly.moved (offset + 1)
      exact inPlace.widen (by omega) (by omega)
  | _ => exact .nil

/-- The tokens of one of the parts of a string are tidy. -/
theorem Part.tidy_of_mem
    {delimiter : Char}
    {parts : List Part}
    {part : Part}
    {size : Nat}
    (answers : Answers inner size)
    (sound : ∀ part ∈ parts, part.Sound inner dialect delimiter)
    (short : extent parts ≤ size)
    (member : part ∈ parts)
    (offset : Nat) :
    Tidy offset (offset + part.written.length) (part.tokens offset) := by
  have inside := length_written_le member
  exact part.tidy_tokens answers (sound part member) (Nat.le_trans inside short) offset

/-- The tokens of the parts of a string are tidy. -/
theorem Part.tidy_layout
    {delimiter : Char}
    {parts : List Part}
    {size : Nat}
    (answers : Answers inner size)
    (sound : ∀ part ∈ parts, part.Sound inner dialect delimiter)
    (short : extent parts ≤ size)
    (offset : Nat) :
    Tidy offset (offset + extent parts) (layout offset parts) :=
  tidy_spread fun _ member => tidy_of_mem answers sound short member

/-- The tokens of a fragment lie between its first and its last character. -/
theorem Fragment.tidy_tokens
    {fragment : Fragment}
    {size : Nat}
    (answers : Answers inner size)
    (sound : fragment.Sound inner dialect)
    (short : fragment.written.length ≤ size)
    (offset : Nat) :
    Tidy offset (offset + fragment.written.length) (fragment.tokens offset) := by
  cases fragment with
  | blank c => exact .nil
  | symbol spelling kind =>
      have nonempty := List.length_pos_iff.mpr (Symbol.spelling_ne_nil sound)
      exact .singleton (Nat.lt_add_of_pos_right nonempty)
  | word text =>
      have nonempty := List.length_pos_iff.mpr sound.1
      exact .singleton (Nat.lt_add_of_pos_right nonempty)
  | string delimiter parts =>
      have length : (written (.string delimiter parts)).length = Part.extent parts + 2 := by
        simp [written, Part.extent]
      rw [length] at short ⊢
      have bodyShort : Part.extent parts ≤ size := by
        omega
      have body := Part.tidy_layout answers sound.2 bodyShort (offset + 1)
      have string :
          Tidy offset (offset + 1 + Part.extent parts + 1)
            (⟨.string, ⟨offset, offset + 1 + Part.extent parts + 1⟩, some (Part.body parts)⟩ ::
              Part.layout (offset + 1) parts) :=
        body.string (by omega)
      simpa [tokens, head, nested, Nat.add_assoc, Nat.add_comm 1] using string

/-- The tokens of one of some lawful fragments are tidy. -/
theorem Fragment.Lawful.tidy_of_mem
    {fragments : List Fragment}
    {fragment : Fragment}
    {size : Nat}
    (lawful : Lawful inner dialect fragments)
    (answers : Answers inner size)
    (short : extent fragments ≤ size)
    (member : fragment ∈ fragments)
    (offset : Nat) :
    Tidy offset (offset + fragment.written.length) (fragment.tokens offset) := by
  have inside := length_written_le member
  exact
    fragment.tidy_tokens answers (lawful.sound fragment member) (Nat.le_trans inside short) offset

/-- The tokens of lawful fragments are tidy. -/
theorem Fragment.Lawful.tidy_layout
    {fragments : List Fragment}
    {size : Nat}
    (lawful : Lawful inner dialect fragments)
    (answers : Answers inner size)
    (short : extent fragments ≤ size)
    (offset : Nat) :
    Tidy offset (offset + extent fragments) (layout offset fragments) :=
  tidy_spread fun _ member => lawful.tidy_of_mem answers short member

/-! ## What the rules lead to -/

namespace Account

theorem written_ending
    (word spelled : List Char) :
    (ending word spelled).flatMap Fragment.written = word ++ spelled := by
  unfold ending
  split
  · simp [Fragment.written]
  · simp

/-- The end of a line leaves lawful fragments. -/
theorem lawful_ending
    {fragments : List Fragment}
    {word spelled : List Char}
    (sound : Sound inner dialect ⟨fragments, .plain word spelled, []⟩) :
    Fragment.Lawful inner dialect (fragments ++ ending word spelled) := by
  obtain ⟨lawful, admits, solid, waits⟩ := sound
  unfold ending
  split
  · rename_i kind decided
    rw [← List.append_assoc]
    exact
      (lawful.concat_wordOf admits solid).concat
        (Symbol.mem_table_of_verdict decided) (Or.inr rfl)
  · refine lawful.concat_wordOf admits ?_
    intro c member
    rcases List.mem_append.mp member with inWord | inSpelled
    · exact solid c inWord
    · exact Fragment.isSpace_of_mem_pending waits inSpelled

/-- The fragments that the rules lead to spell the line. -/
theorem Runs.written
    {account : Account}
    {fragments : List Fragment}
    (runs : Runs inner dialect account (.ok fragments)) :
    fragments.flatMap Fragment.written = account.line := by
  generalize shape : Except.ok fragments = result at runs
  induction runs with
  | ended =>
      cases shape
      simp [line, passed, Mode.written, written_ending]
  | failed fails => cases shape
  | moved moves runs inductionHypothesis =>
      exact (inductionHypothesis shape).trans (line_of_moves moves)

/-- The fragments that the rules lead to are lawful and spell the line. -/
theorem lawful_of_runs
    {account : Account}
    {fragments : List Fragment}
    (sound : Sound inner dialect account)
    (runs : Runs inner dialect account (.ok fragments)) :
    Fragment.Lawful inner dialect fragments ∧
      fragments.flatMap Fragment.written = account.line := by
  refine ⟨?_, runs.written⟩
  generalize shape : Except.ok fragments = result at runs
  induction runs with
  | ended =>
      cases shape
      exact lawful_ending sound
  | failed fails => cases shape
  | moved moves runs inductionHypothesis => exact inductionHypothesis (sound.of_moves moves) shape

/-- A fault lies at a character of its line. -/
theorem offset_lt_of_fails
    {account : Account}
    {fault : Fault}
    (answers : Answers inner account.line.length)
    (fails : Fails inner dialect account fault) :
    fault.offset < account.line.length := by
  cases fails with
  | outside =>
      simp only [line, passed, Mode.written, Fragment.extent, List.length_append, List.length_cons]
      omega
  | forbidden plain =>
      simp only [line, passed, Mode.written, bodyStop, Fragment.extent, Part.extent,
        List.length_append, List.length_cons]
      omega
  | @inside fragments delimiter parts raw fault rest faulty =>
      have orderly := answers (String.ofList raw) (by simpa using length_raw_lt)
      rw [faulty, String.length_ofList] at orderly
      have bound : fault.offset < raw.length := orderly
      simp only [Fault.moved, line, passed, Mode.written, bodyStop, Fragment.extent, Part.extent,
        List.length_append, List.length_cons]
      omega
  | unclosed =>
      simp only [line, passed, Mode.written, Fragment.extent, List.length_append, List.length_cons]
      omega
  | unclosedSegment =>
      simp only [line, passed, Mode.written, bodyStop, Fragment.extent, Part.extent,
        List.length_append, List.length_cons]
      omega

/-- A fault that the rules lead to lies at a character of the line. -/
theorem offset_lt_of_runs
    {account : Account}
    {fault : Fault}
    (answers : Answers inner account.line.length)
    (runs : Runs inner dialect account (.error fault)) :
    fault.offset < account.line.length := by
  generalize shape : Except.error fault = result at runs
  induction runs with
  | ended => cases shape
  | failed fails =>
      cases shape
      exact offset_lt_of_fails answers fails
  | moved moves runs inductionHypothesis =>
      rw [line_of_moves moves] at inductionHypothesis
      exact inductionHypothesis answers shape

/-- The rules lead to an orderly answer. -/
theorem orderly_of_runs
    {account : Account}
    {result : Except Fault (List Fragment)}
    (sound : Sound inner dialect account)
    (answers : Answers inner account.line.length)
    (runs : Runs inner dialect account result) :
    Orderly account.line.length (answer result) := by
  cases result with
  | ok fragments =>
      obtain ⟨lawful, spells⟩ := lawful_of_runs sound runs
      have size : Fragment.extent fragments = account.line.length := by
        rw [Fragment.extent, spells]
      have tidy := lawful.tidy_layout answers (Nat.le_of_eq size) 0
      rwa [size, Nat.zero_add] at tidy
  | error fault => exact offset_lt_of_runs answers runs

end Account

end

end Brace
