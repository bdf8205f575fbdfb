import Brace.Proofs.Account.Tokenize

namespace Brace

/-!
# Audits

An audit finds the fault of a line in one pass, without symbols, words or tokens: it heeds
quotes, backslashes and the interpolation mark only.  Tokenizing a line ends in a fault exactly
when the audit finds this fault.
-/

open Account

namespace Audit

/-- Where in a line an audit is. -/
inductive State
  /-- Outside of strings, perhaps just after a backslash. -/
  | plain (armed : Bool)
  /-- In the string with this delimiter that was opened at an offset. -/
  | quoted (delimiter : Char) (start : Nat)
  /-- In an interpolation of such a string, opened at `mark`, after the characters in `raw`. -/
  | segment (delimiter : Char) (start mark : Nat) (raw : List Char)

/-- How many characters of an open interpolation were read. -/
def State.gathered : State → Nat
  | segment _ _ _ raw => raw.length
  | _ => 0

/-- Whether a backslash in a string takes this character with it. -/
def escapes (c : Char) : Bool :=
  c = '\\' || c = 'n' || c = 't' || isMark c

/-- The fault that an audit finds in the rest of a line, which begins at an offset. -/
def faultFrom (dialect : Dialect) : State → Nat → List Char → Option Fault
  | .plain _, _, [] => none
  | .plain armed, position, c :: rest =>
      if c = '\\' then
        faultFrom dialect (.plain true) (position + 1) rest
      else if armed then
        faultFrom dialect (.plain false) (position + 1) rest
      else if isQuote c then
        faultFrom dialect (.quoted c position) (position + 1) rest
      else if c = interpolationMark then
        some ⟨.notInString, none, position⟩
      else
        faultFrom dialect (.plain false) (position + 1) rest
  | .quoted _ start, _, [] => some ⟨.stringNotEnded, none, start⟩
  | .quoted delimiter start, position, c :: rest =>
      if c = '\\' then
        if rest.head?.any escapes then
          faultFrom dialect (.quoted delimiter start) (position + 2) rest.tail
        else
          faultFrom dialect (.quoted delimiter start) (position + 1) rest
      else if c = delimiter then
        faultFrom dialect (.plain false) (position + 1) rest
      else if c = interpolationMark then
        if dialect.interpolatesIn delimiter then
          faultFrom dialect (.segment delimiter start position []) (position + 1) rest
        else
          some ⟨.notInInterpolationString delimiter, none, position⟩
      else
        faultFrom dialect (.quoted delimiter start) (position + 1) rest
  | .segment _ _ mark _, _, [] => some ⟨.interpolationNotEnded, none, mark⟩
  | .segment delimiter start mark raw, position, c :: rest =>
      if c = interpolationMark then
        match faultFrom dialect (.plain false) 0 raw with
        | some fault => some (fault.moved (mark + 1))
        | none => faultFrom dialect (.quoted delimiter start) (position + 1) rest
      else
        faultFrom dialect (.segment delimiter start mark (raw ++ [c])) (position + 1) rest
-- Gathering moves characters from the rest to an interpolation, whose closing takes them up again.
termination_by state _ rest => (rest.length + state.gathered, rest.length)
decreasing_by
  all_goals
    simp only [State.gathered, List.length_cons, List.length_append, List.length_tail,
      List.length_nil, Prod.lex_def]
    omega

/-- The fault that an audit finds in a text. -/
def fault (dialect : Dialect) (text : List Char) : Option Fault :=
  faultFrom dialect (.plain false) 0 text

variable {dialect : Dialect}

/-- A character that has no part in quoting is passed. -/
theorem faultFrom_ordinary
    {armed : Bool}
    {position : Nat}
    {c : Char}
    {rest : List Char}
    (noBackslash : c ≠ '\\')
    (noMark : isMark c = false) :
    faultFrom dialect (.plain armed) position (c :: rest) =
      faultFrom dialect (.plain false) (position + 1) rest := by
  obtain ⟨noQuote, noInterpolation⟩ : isQuote c = false ∧ c ≠ interpolationMark := by
    simpa [isMark] using noMark
  rw [faultFrom, if_neg noBackslash]
  simp [noQuote, noInterpolation]

theorem faultFrom_isPlain
    {armed : Bool}
    {position : Nat}
    {c : Char}
    {rest : List Char}
    (plain : isPlain c = true) :
    faultFrom dialect (.plain armed) position (c :: rest) =
      faultFrom dialect (.plain false) (position + 1) rest := by
  obtain ⟨⟨noMark, noBackslash⟩, _⟩ :
      (isMark c = false ∧ c ≠ '\\') ∧ Unicode.isSpace c = false := by
    simpa [isPlain] using plain
  exact faultFrom_ordinary noBackslash noMark

/-- A character that ends a match after a backslash is audited as if there were no backslash. -/
theorem faultFrom_disarmed
    {armed : Bool}
    {position : Nat}
    {c : Char}
    {rest : List Char}
    (noMark : armed = true → isMark c = false) :
    faultFrom dialect (.plain armed) position (c :: rest) =
      faultFrom dialect (.plain false) position (c :: rest) := by
  cases armed with
  | false => rfl
  | true =>
      by_cases backslash : c = '\\'
      · rw [faultFrom, faultFrom, if_pos backslash, if_pos backslash]
      · rw [faultFrom_ordinary backslash (noMark rfl), faultFrom_ordinary backslash (noMark rfl)]

/-- A result is what an audit says: the fault that it finds, or tokens if it finds none. -/
def Agrees : Option Fault → Except Halt (List Token) → Prop
  | some fault, result => result = .error (.fault fault)
  | none, result => ∃ tokens, result = .ok tokens

/-- A tokenizer for interpolations does what audits say for every text below some size. -/
def Confirms (dialect : Dialect) (inner : String → Except Halt (List Token)) (size : Nat) : Prop :=
  ∀ raw : List Char, raw.length < size → Agrees (fault dialect raw) (inner (String.ofList raw))

end Audit

section

variable {inner : String → Except Halt (List Token)} {dialect : Dialect}

namespace Account

/-- The state of an audit where a scan is in some mode after some fragments. -/
def Mode.audited (fragments : List Fragment) : Mode → Audit.State
  | plain _ spelled => .plain (spelled == ['\\'])
  | quoted delimiter _ none => .quoted delimiter (Fragment.extent fragments)
  | quoted delimiter parts (some raw) =>
      .segment delimiter (Fragment.extent fragments) (bodyStop fragments parts) raw

/-- The fault that an audit finds in what is left of a line. -/
def audit (dialect : Dialect) (account : Account) : Option Fault :=
  Audit.faultFrom dialect
    (account.mode.audited account.fragments) account.passed.length account.rest

/-- The fault that the rules lead to, if it is not fragments that they lead to. -/
def faultOf : Except Fault (List Fragment) → Option Fault
  | .ok _ => none
  | .error fault => some fault

theorem length_passed_of_moves
    {account after : Account}
    {taken : List Char}
    (moves : Moves inner dialect account after)
    (takes : account.rest = taken ++ after.rest) :
    after.passed.length = account.passed.length + taken.length := by
  rw [passed_of_moves moves takes, List.length_append]

/-- Outside of strings only a backslash arms the audit. -/
theorem unarmed_of_isPlain
    {spelled : List Char}
    (plain : ∀ c ∈ spelled, isPlain c = true) :
    (spelled == ['\\']) = false := by
  rw [beq_eq_false_iff_ne]
  rintro rfl
  have backslash : isPlain '\\' = true := plain '\\' (by simp)
  exact absurd backslash (by decide)

/-- After a backslash that is not waited on any more, no mark comes. -/
theorem isMark_of_stops
    {spelled : List Char}
    {c : Char}
    (armed : (spelled == ['\\']) = true)
    (stops : Symbol.extending (spelled ++ [c]) = []) :
    isMark c = false := by
  rw [beq_iff_eq] at armed
  subst spelled
  cases mark : isMark c with
  | false => rfl
  | true =>
      rw [List.singleton_append, Symbol.extending_of_isMark mark] at stops
      cases stops

/-- Reading on outside of strings does not change what an audit finds. -/
theorem audit_of_moves_plain
    {fragments : List Fragment}
    {word spelled rest : List Char}
    {after : Account}
    (moves : Moves inner dialect ⟨fragments, .plain word spelled, rest⟩ after) :
    after.audit dialect = audit dialect ⟨fragments, .plain word spelled, rest⟩ := by
  have position := fun taken => @length_passed_of_moves inner dialect _ after taken moves
  cases moves with
  | @blank fragments word c rest space =>
      have noBackslash : c ≠ '\\' := by
        rintro rfl
        exact absurd space (by decide)
      have noMark := isMark_of_isSpace space
      rw [audit, audit, Mode.audited, Mode.audited, Audit.faultFrom_ordinary noBackslash noMark,
        position [c] rfl]
      rfl
  | @unknown fragments word c rest space refused =>
      have plain := Symbol.isPlain_of_refused space refused
      rw [audit, audit, Mode.audited, Mode.audited, Audit.faultFrom_isPlain plain,
        position [c] rfl]
      rfl
  | @grown fragments word spelled c rest opens waits =>
      -- What is waited on is a lone backslash, which arms the audit, or has no part in quoting.
      rcases Symbol.plain_of_pending waits with backslash | plain
      · obtain ⟨rfl, same⟩ :=
          List.append_eq_singleton_iff.mp backslash |>.resolve_right (by simp)
        cases same
        rw [audit, audit, Mode.audited, Mode.audited, position ['\\'] rfl]
        simp only [List.nil_append]
        conv => rhs; rw [Audit.faultFrom, if_pos rfl]
        rfl
      · have plainHere : isPlain c = true := plain c (by simp)
        rw [audit, audit, Mode.audited, Mode.audited, Audit.faultFrom_isPlain plainHere,
          position [c] rfl, unarmed_of_isPlain plain]
        rfl
  | @token fragments word spelled c kind rest member decided =>
      have plain := (Symbol.plain_of_token member).1 c (by simp)
      rw [audit, audit, Mode.audited, Mode.audited, Audit.faultFrom_isPlain plain,
        position [c] rfl]
      rfl
  | @quote fragments word c rest quote =>
      have noBackslash := ne_backslash_of_isMark (isMark_of_isQuote quote)
      rw [audit, audit, Mode.audited, Mode.audited, position [c] rfl]
      conv => rhs; rw [Audit.faultFrom, if_neg noBackslash]
      simp [quote, length_passed_plain]
  | @escaped fragments word c rest mark =>
      have noBackslash := ne_backslash_of_isMark mark
      rw [audit, audit, Mode.audited, Mode.audited, position [c] rfl]
      conv => rhs; rw [Audit.faultFrom, if_neg noBackslash]
      rfl
  -- A character that ends a match is read again; it is no mark, so a backslash before it is idle.
  | @settled fragments word spelled c kind rest nonempty stops decided =>
      rw [audit, audit, Mode.audited, Mode.audited,
        position [] rfl,
        Audit.faultFrom_disarmed fun armed => isMark_of_stops armed stops]
      rfl
  | @abandoned fragments word spelled c rest nonempty stops undecided =>
      rw [audit, audit, Mode.audited, Mode.audited,
        position [] rfl,
        @Audit.faultFrom_disarmed _ (spelled == _) _ _ _ fun armed => isMark_of_stops armed stops]
      rfl

/-- Reading on in a string does not change what an audit finds. -/
theorem audit_of_moves_quoted
    {fragments : List Fragment}
    {delimiter : Char}
    {parts : List Part}
    {segment : Option (List Char)}
    {rest : List Char}
    {after : Account}
    (quote : isQuote delimiter = true)
    (confirms :
      Audit.Confirms dialect inner (line ⟨fragments, .quoted delimiter parts segment, rest⟩).length)
    (moves : Moves inner dialect ⟨fragments, .quoted delimiter parts segment, rest⟩ after) :
    after.audit dialect = audit dialect ⟨fragments, .quoted delimiter parts segment, rest⟩ := by
  have noBackslash := ne_backslash_of_isMark (isMark_of_isQuote quote)
  have position := fun taken => @length_passed_of_moves inner dialect _ after taken moves
  cases moves with
  | @escape fragments delimiter parts c decoded rest decodes =>
      have escapes : (c :: rest).head?.any Audit.escapes = true := by
        rw [List.head?_cons, Option.any_some, Audit.escapes, ← Literal.isSome_decodeEscape, decodes]
        rfl
      rw [audit, audit, Mode.audited, Mode.audited, position ['\\', c] rfl]
      conv => rhs; rw [Audit.faultFrom, if_pos rfl, if_pos escapes]
      rfl
  | @stray fragments delimiter parts rest undecoded =>
      have escapes : ¬ rest.head?.any Audit.escapes = true := by
        cases rest with
        | nil => simp
        | cons c rest =>
            rw [List.head?_cons, Option.bind_some] at undecoded
            rw [List.head?_cons, Option.any_some, Audit.escapes, ← Literal.isSome_decodeEscape,
              undecoded]
            exact Bool.false_ne_true
      rw [audit, audit, Mode.audited, Mode.audited, position ['\\'] rfl]
      conv => rhs; rw [Audit.faultFrom, if_pos rfl, if_neg escapes]
      rfl
  | @closed fragments delimiter parts rest =>
      rw [audit, audit, Mode.audited, Mode.audited, position [delimiter] rfl]
      conv => rhs; rw [Audit.faultFrom, if_neg noBackslash, if_pos rfl]
      rfl
  | @opened fragments delimiter parts rest interpolates =>
      have markNoDelimiter := (ne_interpolationMark_of_isQuote quote).symm
      rw [audit, audit, Mode.audited, Mode.audited, position [interpolationMark] rfl,
        length_passed_quoted]
      conv =>
        rhs
        rw [Audit.faultFrom, if_neg interpolationMark_ne_backslash, if_neg markNoDelimiter,
          if_pos rfl, if_pos interpolates]
      rfl
  | @verbatim fragments delimiter parts c rest noBackslash noDelimiter noMark =>
      rw [audit, audit, Mode.audited, Mode.audited, position [c] rfl]
      conv => rhs; rw [Audit.faultFrom, if_neg noBackslash, if_neg noDelimiter, if_neg noMark]
      rfl
  | @gathered fragments delimiter parts raw c rest noMark =>
      rw [audit, audit, Mode.audited, Mode.audited, position [c] rfl]
      conv => rhs; rw [Audit.faultFrom, if_neg noMark]
      rfl
  | @tokenized fragments delimiter parts raw tokens rest reads =>
      have agrees := confirms raw length_raw_lt
      have faultless : Audit.faultFrom dialect (.plain false) 0 raw = none := by
        cases found : Audit.fault dialect raw with
        | none => exact found
        | some fault =>
            rw [found, reads] at agrees
            cases agrees
      rw [audit, audit, Mode.audited, Mode.audited, position [interpolationMark] rfl]
      conv => rhs; rw [Audit.faultFrom, if_pos rfl, faultless]
      rfl

/-- Reading on does not change what an audit finds. -/
theorem audit_of_moves
    {account after : Account}
    (sound : Sound inner dialect account)
    (confirms : Audit.Confirms dialect inner account.line.length)
    (moves : Moves inner dialect account after) :
    after.audit dialect = account.audit dialect := by
  obtain ⟨fragments, mode, rest⟩ := account
  cases mode with
  | plain word spelled => exact audit_of_moves_plain moves
  | quoted delimiter parts segment => exact audit_of_moves_quoted sound.mode.1 confirms moves

/-- An audit finds the fault in which the rules end. -/
theorem audit_of_fails
    {account : Account}
    {fault : Fault}
    (sound : Sound inner dialect account)
    (confirms : Audit.Confirms dialect inner account.line.length)
    (fails : Fails inner dialect account fault) :
    account.audit dialect = some fault := by
  cases fails with
  | @outside fragments word rest =>
      have noQuote : ¬ isQuote interpolationMark = true := by
        decide
      rw [audit, Mode.audited, length_passed_plain]
      simp [Audit.faultFrom, interpolationMark_ne_backslash, noQuote]
  | @forbidden fragments delimiter parts rest plain =>
      have markNoDelimiter := (ne_interpolationMark_of_isQuote sound.mode.1).symm
      rw [audit, Mode.audited, length_passed_quoted, Audit.faultFrom,
        if_neg interpolationMark_ne_backslash, if_neg markNoDelimiter, if_pos rfl,
        if_neg (by simp [plain])]
  | @inside fragments delimiter parts raw fault rest faulty =>
      have agrees := confirms raw length_raw_lt
      have found : Audit.faultFrom dialect (.plain false) 0 raw = some fault := by
        cases found : Audit.fault dialect raw with
        | none =>
            rw [found, faulty] at agrees
            obtain ⟨tokens, impossible⟩ := agrees
            cases impossible
        | some other =>
            rw [found, faulty] at agrees
            cases agrees
            exact found
      rw [audit, Mode.audited, Audit.faultFrom, if_pos rfl, found]
  | unclosed => rw [audit, Mode.audited, Audit.faultFrom]
  | unclosedSegment => rw [audit, Mode.audited, Audit.faultFrom]

/-- An audit finds the fault that the rules lead to, and none where they lead to fragments. -/
theorem audit_of_runs
    {account : Account}
    {result : Except Fault (List Fragment)}
    (sound : Sound inner dialect account)
    (confirms : Audit.Confirms dialect inner account.line.length)
    (runs : Runs inner dialect account result) :
    account.audit dialect = faultOf result := by
  induction runs with
  | ended => rw [audit, Mode.audited, Audit.faultFrom, faultOf]
  | failed fails => exact audit_of_fails sound confirms fails
  | moved moves runs inductionHypothesis =>
      rw [← audit_of_moves sound confirms moves]
      rw [line_of_moves moves] at inductionHypothesis
      exact inductionHypothesis (sound.of_moves moves) confirms

end Account

end

/-- Tokenizing does what the audit of the text says. -/
theorem agrees_tokenize
    {dialect : Dialect}
    {text : List Char}
    (fits : text.length < Offset.limit) :
    Audit.Agrees (Audit.fault dialect text) (tokenize dialect (String.ofList text)) := by
  have confirms : Audit.Confirms dialect (tokenize dialect) text.length := by
    intro raw shorter
    exact agrees_tokenize (Nat.lt_trans shorter fits)
  obtain ⟨result, runs, reads⟩ := exists_runs_tokenize fits
  have found : Audit.fault dialect text = faultOf result :=
    audit_of_runs (sound_ofText text) confirms runs
  rw [reads, found]
  cases result with
  | ok fragments => exact ⟨_, rfl⟩
  | error fault => exact rfl
termination_by text.length

/-- Tokenizing ends in the fault that the audit finds, and succeeds exactly when it finds none. -/
theorem tokenize_error_iff_audit
    {dialect : Dialect}
    {text : String}
    (fits : text.length < Offset.limit) :
    (∀ fault,
        tokenize dialect text = .error (.fault fault) ↔
          Audit.fault dialect text.toList = some fault) ∧
      ((∃ tokens, tokenize dialect text = .ok tokens) ↔
        Audit.fault dialect text.toList = none) := by
  have agrees := @agrees_tokenize dialect text.toList (by rwa [String.length_toList])
  rw [String.ofList_toList] at agrees
  cases found : Audit.fault dialect text.toList with
  | none =>
      rw [found] at agrees
      obtain ⟨tokens, reads⟩ := agrees
      simp [reads]
  | some fault =>
      rw [found] at agrees
      have faulty : tokenize dialect text = .error (.fault fault) := agrees
      simp [faulty]

/--
An audit past a backslash with a quote, into a string and its interpolation, whose string is
open.
-/
theorem audit_nested_string :
    Audit.fault .usual "t\\'??\"a\\\x60b\x60x 'c\x60\"".toList =
      some ⟨.stringNotEnded, none, 13⟩ := by
  have fits : "t\\'??\"a\\\x60b\x60x 'c\x60\"".length < Offset.limit := by
    decide
  refine ((tokenize_error_iff_audit fits).1 _).mp ?_
  decide +kernel

end Brace
