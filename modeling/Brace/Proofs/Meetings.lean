import Mathlib.Data.List.Basic
import Brace.Proofs.Fragments

namespace Brace.Literal

/-!
# What reading on in a string meets

A string can be opened by any character, also by one that has a meaning inside strings.  An open
interpolation comes before all else, then a backslash, the delimiter, and a mark that would open an
interpolation.  `Meets` has one rule for each thing that reading on can come upon, and `decoded`
says what the characters of a string stand for.
-/

/-! ## What characters stand for -/

/-- The characters that a backslash takes with it. -/
def escapable : List Char :=
  ['\\', 'n', 't', '"', '\'', interpolationMark]

/--
What characters in a string stand for, where `inside` tells whether they begin in an interpolation.
Interpolations, delimiters and backslashes that take no character with them stand for nothing.
-/
def decoded (delimiter : Char) (inside : Bool) : List Char → List Char
  | [] => []
  | c :: rest =>
      if inside then
        decoded delimiter (c != interpolationMark) rest
      else if c = '\\' then
        match rest with
        | [] => []
        | next :: others =>
            match decodeEscape next with
            | some replacement => replacement :: decoded delimiter false others
            | none => decoded delimiter false (next :: others)
      else if c = delimiter then
        decoded delimiter false rest
      else if c = interpolationMark then
        decoded delimiter true rest
      else
        c :: decoded delimiter false rest

theorem isSome_decodeEscape_iff
    (c : Char) :
    (decodeEscape c).isSome = true ↔ c ∈ escapable := by
  simp only [isSome_decodeEscape, isMark, isQuote, escapable, Bool.or_eq_true, decide_eq_true_eq,
    List.mem_cons, List.not_mem_nil, or_false]
  tauto

section

variable {delimiter c : Char} {rest : List Char}

@[simp] theorem decoded_nil
    (inside : Bool) :
    decoded delimiter inside [] = [] := by
  cases inside <;> rfl

theorem decoded_inside :
    decoded delimiter true (c :: rest) = decoded delimiter (c != interpolationMark) rest := by
  rw [decoded.eq_def]
  rfl

theorem decoded_escape
    {replacement : Char}
    (decodes : decodeEscape c = some replacement) :
    decoded delimiter false ('\\' :: c :: rest) = replacement :: decoded delimiter false rest := by
  simp [decoded, decodes]

theorem decoded_stray
    (undecoded : rest.head?.bind decodeEscape = none) :
    decoded delimiter false ('\\' :: rest) = decoded delimiter false rest := by
  cases rest with
  | nil => simp [decoded]
  | cons next others =>
      have keeps : decodeEscape next = none := undecoded
      rw [decoded.eq_def]
      simp [keeps]

theorem decoded_delimiter
    (other : delimiter ≠ '\\') :
    decoded delimiter false (delimiter :: rest) = decoded delimiter false rest := by
  rw [decoded.eq_def]
  simp [other]

theorem decoded_mark
    (other : delimiter ≠ interpolationMark) :
    decoded delimiter false (interpolationMark :: rest) = decoded delimiter true rest := by
  have noBackslash : interpolationMark ≠ '\\' := by decide
  rw [decoded.eq_def]
  simp [noBackslash, other.symm]

theorem decoded_verbatim
    (noBackslash : c ≠ '\\')
    (noDelimiter : c ≠ delimiter)
    (noMark : c ≠ interpolationMark) :
    decoded delimiter false (c :: rest) = c :: decoded delimiter false rest := by
  rw [decoded.eq_def]
  simp [noBackslash, noDelimiter, noMark]

end

/-! ## What reading on can do -/

/-- What reading on from a place in a text comes upon, one rule for each thing that can be met. -/
inductive Meets (dialect : Dialect) (literal : Literal) (reader : Reader) : Reading → Prop
  /-- A character of an interpolation. -/
  | raw {segment c rest}
      (isOpen : literal.segment = some segment)
      (next : reader.rest = c :: rest)
      (noMark : c ≠ interpolationMark) :
      Meets dialect literal reader
        ⟨.ok .continued,
          { literal with segment := some { segment with raw := segment.raw.push c } },
          ⟨rest, reader.pos + 1, some c⟩⟩
  /-- The mark that ends an interpolation. -/
  | segmentClosed {segment rest}
      (isOpen : literal.segment = some segment)
      (next : reader.rest = interpolationMark :: rest) :
      Meets dialect literal reader
        ⟨.ok (.segmentClosed segment), { literal with segment := none },
          ⟨rest, reader.pos + 1, some interpolationMark⟩⟩
  /-- A backslash with the character that it takes with it. -/
  | escape {c replacement rest}
      (outside : literal.segment = none)
      (next : reader.rest = '\\' :: c :: rest)
      (decodes : decodeEscape c = some replacement) :
      Meets dialect literal reader
        ⟨.ok .continued, { literal with body := literal.body.push replacement },
          ⟨rest, reader.pos + 2, some c⟩⟩
  /-- Any other backslash. -/
  | stray {rest}
      (outside : literal.segment = none)
      (next : reader.rest = '\\' :: rest)
      (undecoded : rest.head?.bind decodeEscape = none) :
      Meets dialect literal reader
        ⟨.ok .continued, literal, ⟨rest, reader.pos + 1, some '\\'⟩⟩
  /-- The delimiter. -/
  | closed {rest}
      (outside : literal.segment = none)
      (next : reader.rest = literal.delimiter :: rest)
      (noBackslash : literal.delimiter ≠ '\\') :
      Meets dialect literal reader
        ⟨.ok .closed, literal, ⟨rest, reader.pos + 1, some literal.delimiter⟩⟩
  /-- The mark that begins an interpolation. -/
  | opened {rest}
      (outside : literal.segment = none)
      (next : reader.rest = interpolationMark :: rest)
      (noDelimiter : literal.delimiter ≠ interpolationMark)
      (allowed : literal.delimiter ∈ dialect.interpolating) :
      Meets dialect literal reader
        ⟨.ok .continued, { literal with segment := some ⟨reader.pos, ""⟩ },
          ⟨rest, reader.pos + 1, some interpolationMark⟩⟩
  /-- A character that stands for itself. -/
  | verbatim {c rest}
      (outside : literal.segment = none)
      (next : reader.rest = c :: rest)
      (noBackslash : c ≠ '\\')
      (noDelimiter : c ≠ literal.delimiter)
      (noMark : c ≠ interpolationMark) :
      Meets dialect literal reader
        ⟨.ok .continued, { literal with body := literal.body.push c },
          ⟨rest, reader.pos + 1, some c⟩⟩
  /-- A mark in a string whose delimiter allows no interpolation. -/
  | forbidden {rest after}
      (outside : literal.segment = none)
      (next : reader.rest = interpolationMark :: rest)
      (noDelimiter : literal.delimiter ≠ interpolationMark)
      (barred : literal.delimiter ∉ dialect.interpolating) :
      Meets dialect literal reader
        ⟨.error (.fault ⟨.notInInterpolationString literal.delimiter, none, reader.pos⟩), literal,
          after⟩
  /-- The end of the text. -/
  | ended
      (nothing : reader.rest = []) :
      Meets dialect literal reader ⟨.error (.fault literal.unterminated), literal, reader⟩
  /-- A character that cannot be counted. -/
  | uncounted {after}
      (tooLarge : Offset.limit ≤ reader.pos + reader.rest.length) :
      Meets dialect literal reader ⟨.error (.breach .sumTooLarge), literal, after⟩

/-- A reader passes the first character that is left, or cannot count it. -/
theorem advance_cons
    {reader : Reader}
    {c : Char}
    {rest : List Char}
    (next : reader.rest = c :: rest) :
    reader.advance = .ok (some c, ⟨rest, reader.pos + 1, some c⟩) ∨
      reader.advance = .error (.breach .sumTooLarge) ∧
        Offset.limit ≤ reader.pos + reader.rest.length := by
  simp only [Reader.advance, next, Offset.add]
  by_cases fits : reader.pos + 1 < Offset.limit
  · left
    simp only [if_pos fits]
    rfl
  · right
    simp only [if_neg fits, List.length_cons]
    exact ⟨rfl, by omega⟩

section

variable {dialect : Dialect} {literal : Literal} {reader : Reader}

theorem meets_readSegment
    {segment : Segment}
    {c : Char}
    {rest : List Char}
    (isOpen : literal.segment = some segment)
    (next : reader.rest = c :: rest) :
    Meets dialect literal reader
      (literal.readSegment segment c ⟨rest, reader.pos + 1, some c⟩) := by
  unfold readSegment
  split
  · rename_i mark
    subst mark
    exact .segmentClosed isOpen next
  · rename_i noMark
    exact .raw isOpen next noMark

theorem meets_readBody
    {c : Char}
    {rest : List Char}
    (outside : literal.segment = none)
    (next : reader.rest = c :: rest) :
    Meets dialect literal reader
      (literal.readBody dialect c reader.pos ⟨rest, reader.pos + 1, some c⟩) := by
  unfold readBody
  by_cases backslash : c = '\\'
  · subst backslash
    rw [if_pos rfl]
    cases rest with
    | nil => exact .stray outside next rfl
    | cons d rest =>
        cases decodes : decodeEscape d with
        | none =>
            simp only [Reader.peek, List.head?_cons, Option.bind_some, decodes]
            exact .stray outside next decodes
        | some replacement =>
            simp only [Reader.peek, List.head?_cons, Option.bind_some, decodes]
            rcases @advance_cons ⟨d :: rest, reader.pos + 1, some '\\'⟩ d rest rfl with
              passes | ⟨fails, tooLarge⟩
            · simp only [passes]
              exact .escape outside next decodes
            · simp only [fails]
              refine .uncounted ?_
              simpa [next, Nat.add_assoc, Nat.add_comm, Nat.add_left_comm] using tooLarge
  · rw [if_neg backslash]
    by_cases closes : c = literal.delimiter
    · subst closes
      rw [if_pos rfl]
      exact .closed outside next backslash
    · rw [if_neg closes]
      by_cases mark : c = interpolationMark
      · subst mark
        rw [if_pos rfl]
        split
        · rename_i allowed
          rw [Dialect.interpolatesIn, List.contains_iff_mem] at allowed
          exact .opened outside next (Ne.symm closes) allowed
        · rename_i barred
          rw [Dialect.interpolatesIn, List.contains_iff_mem] at barred
          exact .forbidden outside next (Ne.symm closes) barred
      · rw [if_neg mark]
        exact .verbatim outside next backslash closes mark

/-- Reading on comes upon one of these things. -/
theorem meets_read
    (dialect : Dialect)
    (literal : Literal)
    (reader : Reader) :
    Meets dialect literal reader (literal.read dialect reader) := by
  unfold read
  cases next : reader.rest with
  | nil =>
      have stays : reader.advance = .ok (none, reader) := by
        simp [Reader.advance, next]
      rw [stays]
      exact .ended next
  | cons c rest =>
      rcases advance_cons next with passes | ⟨fails, tooLarge⟩
      · rw [passes]
        cases state : literal.segment with
        | some segment => exact meets_readSegment state next
        | none => exact meets_readBody state next
      · rw [fails]
        exact .uncounted tooLarge

end

/-! ## Characters consumed -/

section

variable {dialect : Dialect} {literal : Literal} {reader : Reader} {reading : Reading}
  {event : Event}

/-- A backslash outside of interpolations is to come, with a character that it takes with it. -/
def AtEscape (literal : Literal) (reader : Reader) : Prop :=
  literal.segment = none ∧ ∃ c ∈ escapable, ['\\', c] <+: reader.rest

theorem not_atEscape_of_isOpen
    {segment : Segment}
    (isOpen : literal.segment = some segment) :
    ¬ literal.AtEscape reader := by
  rintro ⟨outside, -⟩
  rw [isOpen] at outside
  cases outside

theorem not_atEscape_of_ne
    {c : Char}
    {rest : List Char}
    (next : reader.rest = c :: rest)
    (noBackslash : c ≠ '\\') :
    ¬ literal.AtEscape reader := by
  rintro ⟨-, d, -, begins⟩
  rw [next, List.cons_prefix_cons] at begins
  exact noBackslash begins.1.symm

theorem not_atEscape_of_undecoded
    {rest : List Char}
    (next : reader.rest = '\\' :: rest)
    (undecoded : rest.head?.bind decodeEscape = none) :
    ¬ literal.AtEscape reader := by
  rintro ⟨-, d, takes, begins⟩
  rw [next, List.cons_prefix_cons] at begins
  obtain ⟨others, rfl⟩ := begins.2
  have decodes := (isSome_decodeEscape_iff d).mpr takes
  rw [← Option.ne_none_iff_isSome] at decodes
  exact decodes undecoded

/-- One character is consumed, or a backslash outside of interpolations with another one. -/
def Consumes (literal : Literal) (reader after : Reader) : Prop :=
  ∃ taken,
    reader.rest = taken ++ after.rest ∧
      after.pos = reader.pos + taken.length ∧
      (taken.length = 1 ∨ taken.length = 2) ∧
      (taken.length = 2 ↔ literal.AtEscape reader)

theorem consumes_single
    {c : Char}
    {rest : List Char}
    (next : reader.rest = c :: rest)
    (plain : ¬ literal.AtEscape reader) :
    literal.Consumes reader ⟨rest, reader.pos + 1, some c⟩ :=
  ⟨[c], next, rfl, .inl rfl, by simp [plain]⟩

theorem Meets.consumes
    (meets : Meets dialect literal reader reading)
    (goes : reading.outcome = .ok event) :
    literal.Consumes reader reading.reader := by
  cases meets with
  | raw isOpen next noMark => exact consumes_single next (not_atEscape_of_isOpen isOpen)
  | segmentClosed isOpen next => exact consumes_single next (not_atEscape_of_isOpen isOpen)
  | @escape c replacement rest outside next decodes =>
      have takes : c ∈ escapable := by
        rw [← isSome_decodeEscape_iff, decodes]
        rfl
      have begins : ['\\', c] <+: reader.rest := ⟨rest, next.symm⟩
      exact ⟨['\\', c], next, rfl, .inr rfl, by simpa using ⟨outside, c, takes, begins⟩⟩
  | stray outside next undecoded =>
      exact consumes_single next (not_atEscape_of_undecoded next undecoded)
  | closed outside next noBackslash =>
      exact consumes_single next (not_atEscape_of_ne next noBackslash)
  | opened outside next noDelimiter allowed =>
      exact consumes_single next (not_atEscape_of_ne next (by decide))
  | verbatim outside next noBackslash noDelimiter noMark =>
      exact consumes_single next (not_atEscape_of_ne next noBackslash)
  | forbidden | ended | uncounted => cases goes

/-- Reading on without a failure comes upon the end of the string exactly at its delimiter. -/
theorem Meets.closed_iff
    (meets : Meets dialect literal reader reading)
    (goes : reading.outcome = .ok event) :
    event = .closed ↔
      literal.segment = none ∧
        literal.delimiter ≠ '\\' ∧ reader.rest.head? = some literal.delimiter := by
  cases meets with
  | raw isOpen next noMark =>
      cases goes
      simp [isOpen]
  | segmentClosed isOpen next =>
      cases goes
      simp [isOpen]
  | escape outside next decodes =>
      cases goes
      simp [next, eq_comm]
  | stray outside next undecoded =>
      cases goes
      simp [next, eq_comm]
  | closed outside next noBackslash =>
      cases goes
      simp [outside, next, noBackslash]
  | opened outside next noDelimiter allowed =>
      cases goes
      simp [next, noDelimiter.symm]
  | verbatim outside next noBackslash noDelimiter noMark =>
      cases goes
      simp [next, noDelimiter]
  | forbidden | ended | uncounted => cases goes

/-- Reading on fails at a mark that is not allowed, at the end, or where nothing can be counted. -/
theorem Meets.fails
    {halt : Halt}
    (meets : Meets dialect literal reader reading)
    (failed : reading.outcome = .error halt) :
    reading.literal = literal ∧
      (halt = .fault ⟨.notInInterpolationString literal.delimiter, none, reader.pos⟩ ∧
          literal.segment = none ∧
          reader.rest.head? = some interpolationMark ∧
          literal.delimiter ∉ dialect.interpolating ∧
          literal.delimiter ≠ interpolationMark ∨
        halt = .fault literal.unterminated ∧ reader.rest = [] ∨
        halt = .breach .sumTooLarge ∧ Offset.limit ≤ reader.pos + reader.rest.length) := by
  cases meets with
  | forbidden outside next noDelimiter barred =>
      cases failed
      exact ⟨rfl, .inl ⟨rfl, outside, by rw [next]; rfl, barred, noDelimiter⟩⟩
  | ended nothing =>
      cases failed
      exact ⟨rfl, .inr (.inl ⟨rfl, nothing⟩)⟩
  | uncounted tooLarge =>
      cases failed
      exact ⟨rfl, .inr (.inr ⟨rfl, tooLarge⟩)⟩
  | raw | segmentClosed | escape | stray | closed | opened | verbatim => cases failed

end

end Brace.Literal
