import Mathlib.Control.Monad.Basic
import Brace.Proofs.Validity

namespace Brace

/-!
# Dialects only permit

A dialect matters through the two quotes only, and only to permit interpolations.  Two scans of
one line in dialects of which one permits what the other does stay equal, up to the place where
the narrower dialect refuses an interpolation.  So a text that is not refused in this way has
the same result in every wider dialect.
-/

/-- Every quote that interpolates in one dialect interpolates in the other. -/
def Dialect.Within (dialect other : Dialect) : Prop :=
  ∀ quote,
    isQuote quote = true →
      quote ∈ dialect.interpolating →
        quote ∈ other.interpolating

namespace Dialect

theorem interpolatesIn_iff
    {dialect : Dialect}
    {delimiter : Char} :
    dialect.interpolatesIn delimiter = true ↔ delimiter ∈ dialect.interpolating := by
  simp [interpolatesIn]

theorem within_of_subset
    {dialect other : Dialect}
    (subset : dialect.interpolating ⊆ other.interpolating) :
    dialect.Within other := by
  intro quote _ member
  exact subset member

/-- A dialect that interpolates in all delimiters of two dialects. -/
def join (first second : Dialect) : Dialect :=
  ⟨first.interpolating ++ second.interpolating⟩

theorem within_join_left
    (first second : Dialect) :
    first.Within (first.join second) :=
  within_of_subset (List.subset_append_left _ _)

theorem within_join_right
    (first second : Dialect) :
    second.Within (first.join second) :=
  within_of_subset (List.subset_append_right _ _)

end Dialect

/--
A result that refuses an interpolation which one dialect forbids and the other one permits, at a
mark among some characters.
-/
def Refuses (dialect other : Dialect) (rest : List Char) (result : Except Halt α) : Prop :=
  ∃ quote offset,
    isQuote quote = true ∧
      quote ∉ dialect.interpolating ∧
      quote ∈ other.interpolating ∧
      interpolationMark ∈ rest ∧
      result = .error (.fault ⟨.notInInterpolationString quote, none, offset⟩)

section

variable
  {inner otherInner : String → Except Halt (List Token)}
  {dialect other : Dialect}

theorem Refuses.bind
    {rest : List Char}
    {result : Except Halt α}
    {next : α → Except Halt β}
    (refuses : Refuses dialect other rest result) :
    Refuses dialect other rest (result >>= next) := by
  obtain ⟨quote, offset, isQuote, forbidden, permitted, mark, rfl⟩ := refuses
  exact ⟨quote, offset, isQuote, forbidden, permitted, mark, rfl⟩

/-- Reading on in a string is the same in both dialects, unless an interpolation is refused. -/
theorem Literal.read_eq_or_refuses
    {literal : Literal}
    {reader : Reader}
    (within : dialect.Within other)
    (quote : isQuote literal.delimiter = true) :
    literal.read dialect reader = literal.read other reader ∨
      Refuses dialect other reader.rest (literal.read dialect reader).outcome := by
  by_cases same :
      dialect.interpolatesIn literal.delimiter = other.interpolatesIn literal.delimiter
  · left
    simp only [read, readBody, same]
  · -- The wider dialect permits what the narrower one does, so it is the latter that forbids.
    have forbidden : dialect.interpolatesIn literal.delimiter = false := by
      cases allowed : dialect.interpolatesIn literal.delimiter with
      | false => rfl
      | true =>
          have member := within _ quote (Dialect.interpolatesIn_iff.mp allowed)
          rw [allowed, Dialect.interpolatesIn_iff.mpr member] at same
          contradiction
    have permitted : other.interpolatesIn literal.delimiter = true := by
      simpa [forbidden] using same
    have absent : literal.delimiter ∉ dialect.interpolating := by
      rw [← Dialect.interpolatesIn_iff, forbidden]
      exact Bool.false_ne_true
    unfold read
    split
    · exact Or.inl rfl
    · exact Or.inl rfl
    · rename_i c after advanced
      split
      · exact Or.inl rfl
      · unfold readBody
        by_cases backslash : c = '\\'
        · left
          simp only [backslash, ↓reduceIte]
        · by_cases closes : c = literal.delimiter
          · left
            simp only [if_neg backslash, if_pos closes]
          · by_cases mark : c = interpolationMark
            · right
              have left : interpolationMark ∈ reader.rest := by
                rw [Reader.rest_of_advance advanced, mark]
                exact List.mem_cons_self
              refine
                ⟨literal.delimiter, reader.pos, quote, absent,
                  Dialect.interpolatesIn_iff.mp permitted, left, ?_⟩
              rw [if_neg backslash, if_neg closes, if_pos mark, if_neg (by simp [forbidden])]
            · left
              simp only [if_neg backslash, if_neg closes, if_neg mark]

namespace Scan

/-- A round is the same in both dialects, unless an interpolation is refused. -/
theorem step_eq_or_refuses
    {scan : Scan}
    (within : dialect.Within other)
    (agree :
      ∀ raw : String,
        raw.length < scan.stretch →
          interpolationMark ∉ raw.toList →
            inner raw = otherInner raw)
    (valid : scan.mode.Valid) :
    scan.step inner dialect = scan.step otherInner other ∨
      Refuses dialect other scan.reader.rest (scan.step inner dialect) := by
  obtain ⟨reader, mode, tokens⟩ := scan
  unfold step
  cases peeked : Reader.peek reader with
  | none => exact Or.inl rfl
  | some c =>
      cases mode with
      | plain matcher word => exact Or.inl rfl
      | quoted literal =>
          rcases @Literal.read_eq_or_refuses dialect other literal reader within valid.quote with
            same | refuses
          · left
            simp only [← same]
            refine Halt.bind_congr ?_
            intro event outcome
            cases event with
            | continued => rfl
            | closed => rfl
            | segmentClosed segment =>
                have unmarked := Literal.unmarked_of_segmentClosed valid outcome
                have short : segment.raw.length < reader.rest.length + literal.segmentSize :=
                  Nat.lt_of_lt_of_le
                    (Literal.length_raw_lt_of_segmentClosed outcome)
                    (Nat.le_add_left _ _)
                simp only [stepQuoted, splice, agree segment.raw short unmarked]
          · exact Or.inr refuses.bind

/-- A scan gives the same in both dialects, unless an interpolation is refused. -/
theorem run_eq_or_refuses
    {scan : Scan}
    (within : dialect.Within other)
    (agree :
      ∀ raw : String,
        raw.length < scan.stretch →
          interpolationMark ∉ raw.toList →
            inner raw = otherInner raw)
    (valid : scan.mode.Valid) :
    scan.run inner dialect = scan.run otherInner other ∨
      Refuses dialect other scan.reader.rest (scan.run inner dialect) := by
  fun_induction run inner dialect scan with
  | case1 scan atEnd =>
      left
      rw [run_of_atEnd atEnd]
  | case2 scan notAtEnd halt acted =>
      rw [Bool.not_eq_true] at notAtEnd
      rcases step_eq_or_refuses within agree valid with same | refuses
      · left
        rw [run_of_step_error notAtEnd (same.symm.trans acted)]
      · right
        obtain ⟨quote, offset, isQuote, forbidden, permitted, mark, refused⟩ := refuses
        cases acted.symm.trans refused
        exact ⟨quote, offset, isQuote, forbidden, permitted, mark, rfl⟩
  | case3 scan notAtEnd after acted inductionHypothesis =>
      rw [Bool.not_eq_true] at notAtEnd
      have follows := follows_of_step valid acted
      have smaller := stretch_step_le acted
      have later :=
        inductionHypothesis
          (fun raw short => agree raw (Nat.lt_of_lt_of_le short smaller))
          follows.valid
      rcases step_eq_or_refuses within agree valid with same | refuses
      · rw [run_of_step_ok notAtEnd (same.symm.trans acted)]
        refine later.imp_right ?_
        rintro ⟨quote, offset, isQuote, forbidden, permitted, mark, refused⟩
        have earlier := follows.leads.suffix.subset mark
        exact ⟨quote, offset, isQuote, forbidden, permitted, earlier, refused⟩
      · obtain ⟨_, _, _, _, _, _, impossible⟩ := refuses
        rw [acted] at impossible
        cases impossible

end Scan

theorem stretch_ofText
    (text : String) :
    (Scan.ofText text).stretch = text.length :=
  String.length_toList

/-- A text without interpolation marks is tokenized alike in all dialects. -/
theorem tokenize_eq_of_unmarked
    (dialect other : Dialect)
    {text : String}
    (unmarked : interpolationMark ∉ text.toList) :
    tokenize dialect text = tokenize other text := by
  -- The induction is on the length of the text, since interpolations are shorter than it.
  have agree :
      ∀ first second : Dialect,
        ∀ raw : String,
          raw.length < (Scan.ofText text).stretch →
            interpolationMark ∉ raw.toList →
              tokenize first raw = tokenize second raw := by
    intro first second raw shorter rawUnmarked
    rw [stretch_ofText] at shorter
    exact tokenize_eq_of_unmarked first second rawUnmarked
  have joined :
      ∀ first second : Dialect,
        first.Within second → tokenize first text = tokenize second text := by
    intro first second within
    rw [tokenize_eq, tokenize_eq]
    refine
      (Scan.run_eq_or_refuses within (agree first second) (Scan.valid_ofText text)).resolve_right ?_
    rintro ⟨_, _, _, _, _, mark, _⟩
    exact unmarked mark
  exact
    (joined _ _ (dialect.within_join_left other)).trans
      (joined _ _ (dialect.within_join_right other)).symm
termination_by text.length

/-- Tokenizing gives the same in a wider dialect, unless an interpolation is refused. -/
theorem tokenize_eq_or_refuses
    (within : dialect.Within other)
    (text : String) :
    tokenize dialect text = tokenize other text ∨
      Refuses dialect other text.toList (tokenize dialect text) := by
  rw [tokenize_eq dialect, tokenize_eq other]
  exact
    Scan.run_eq_or_refuses within
      (fun raw _ unmarked => tokenize_eq_of_unmarked dialect other unmarked)
      (Scan.valid_ofText text)

end

/--
A text that is not refused an interpolation has the same result in every dialect that permits as
much.  So dialects that permit the same quotes give the same results, a dialect with more
delimiters still gives the tokens that a text had, and a text without marks is not affected.
-/
theorem tokenize_wider
    (dialect other : Dialect)
    (text : String) :
    (dialect.Within other →
        (∀ fault delimiter,
          tokenize dialect text = .error (.fault fault) →
            fault.cause ≠ .notInInterpolationString delimiter) →
          tokenize other text = tokenize dialect text) ∧
      (dialect.Within other →
        other.Within dialect →
          tokenize other text = tokenize dialect text) ∧
      (∀ tokens,
        dialect.interpolating ⊆ other.interpolating →
          tokenize dialect text = .ok tokens →
            tokenize other text = .ok tokens) ∧
      (interpolationMark ∉ text.toList → tokenize other text = tokenize dialect text) := by
  refine ⟨?_, ?_, ?_, ?_⟩
  · intro within otherwise
    rcases tokenize_eq_or_refuses within text with same | ⟨quote, offset, _, _, _, _, refused⟩
    · exact same.symm
    · exact absurd rfl (otherwise _ quote refused)
  · intro within back
    rcases tokenize_eq_or_refuses within text with
      same | ⟨quote, _, isQuote, forbidden, permitted, _, _⟩
    · exact same.symm
    · exact absurd (back quote isQuote permitted) forbidden
  · intro tokens subset reads
    rcases tokenize_eq_or_refuses (Dialect.within_of_subset subset) text with
      same | ⟨_, _, _, _, _, _, refused⟩
    · exact same.symm.trans reads
    · rw [reads] at refused
      cases refused
  · intro unmarked
    exact tokenize_eq_of_unmarked other dialect unmarked

/--
A string that a dialect with more delimiters, in another order and twice, does not read in another
way, and one that is refused an interpolation there as well.
-/
theorem tokenize_wider_repeated :
    tokenize ⟨['\'', 'x', '"', '\'']⟩ "'a' \"b\x60c\x60\"" =
        .ok
          [⟨.string, ⟨0, 3⟩, some "a"⟩,
            ⟨.string, ⟨4, 10⟩, some "b"⟩,
            ⟨.word, ⟨7, 8⟩, some "c"⟩] ∧
      tokenize ⟨['x', '"', '"']⟩ "if '\x60" =
        .error (.fault ⟨.notInInterpolationString '\'', none, 4⟩) := by
  have reads :
      tokenize .usual "'a' \"b\x60c\x60\"" =
        .ok
          [⟨.string, ⟨0, 3⟩, some "a"⟩,
            ⟨.string, ⟨4, 10⟩, some "b"⟩,
            ⟨.word, ⟨7, 8⟩, some "c"⟩] := by
    decide +kernel
  have refused :
      tokenize .usual "if '\x60" =
        .error (.fault ⟨.notInInterpolationString '\'', none, 4⟩) := by
    decide +kernel
  have within : Dialect.Within .usual ⟨['\'', 'x', '"', '\'']⟩ :=
    Dialect.within_of_subset (by decide)
  have same :
      Dialect.Within .usual ⟨['x', '"', '"']⟩ ∧
        Dialect.Within ⟨['x', '"', '"']⟩ .usual := by
    refine ⟨Dialect.within_of_subset (by decide), ?_⟩
    intro quote isQuote member
    rcases List.mem_cons.mp member with rfl | isDouble
    · exact absurd isQuote (by decide)
    · simpa [Dialect.usual] using isDouble
  refine ⟨?_, ?_⟩
  · rw [(tokenize_wider .usual ⟨['\'', 'x', '"', '\'']⟩ _).1 within (by simp [reads]), reads]
  · rw [(tokenize_wider .usual ⟨['x', '"', '"']⟩ _).2.1 same.1 same.2, refused]

end Brace
