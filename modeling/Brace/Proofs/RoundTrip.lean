import Brace.Proofs.Account.Reach

namespace Brace

/-!
# Round trip of strings

Every text can be written in a string, character by character, in any of the ways that are
legal, and with interpolations anywhere in between.  Tokenizing what was written gives the text
back, and the tokens of the interpolations in their places.
-/

open Account

/-- Whether a character is no backslash, quote or interpolation mark. -/
def isOrdinary (c : Char) : Bool :=
  c != '\\' && !isMark c

/-- The ways to write a character in a string with this delimiter. -/
inductive Encodes (delimiter : Char) : Char → List Char → Prop
  | backslash : Encodes delimiter '\\' ['\\', '\\']
  | mark {c}
      (mark : isMark c = true) :
      Encodes delimiter c ['\\', c]
  /-- The quote that is not the delimiter stands for itself. -/
  | otherQuote {c}
      (quote : isQuote c = true)
      (other : c ≠ delimiter) :
      Encodes delimiter c [c]
  | ordinary {c}
      (ordinary : isOrdinary c = true) :
      Encodes delimiter c [c]
  /-- A backslash that changes nothing. -/
  | needless {c}
      (ordinary : isOrdinary c = true)
      (noLineFeed : c ≠ 'n')
      (noTab : c ≠ 't') :
      Encodes delimiter c ['\\', c]
  | lineFeed : Encodes delimiter '\n' ['\\', 'n']
  | tab : Encodes delimiter '\t' ['\\', 't']

/-- A character with a way to write it in a string. -/
structure Glyph (delimiter : Char) where
  c : Char
  form : List Char
  legal : Encodes delimiter c form

/-- A piece of a string as it is meant: some text, or an interpolation that can be tokenized. -/
inductive Piece (dialect : Dialect) (delimiter : Char)
  | text (glyphs : List (Glyph delimiter))
  | interpolation
      (raw : List Char)
      (tokens : List Token)
      (unmarked : interpolationMark ∉ raw)
      (reads : tokenize dialect (String.ofList raw) = .ok tokens)
      (allowed : dialect.interpolatesIn delimiter = true)

namespace Piece

variable {dialect : Dialect} {delimiter : Char}

/-- The characters that a piece is written with. -/
def written : Piece dialect delimiter → List Char
  | text glyphs => glyphs.flatMap Glyph.form
  | interpolation raw _ _ _ _ => interpolationMark :: raw ++ [interpolationMark]

/-- The characters that a piece means as a part of the body of the string. -/
def meant : Piece dialect delimiter → List Char
  | text glyphs => glyphs.map Glyph.c
  | interpolation _ _ _ _ _ => []

/-- The tokens of a piece that begins at an offset. -/
def tokens (offset : Nat) : Piece dialect delimiter → List Token
  | text _ => []
  | interpolation _ tokens _ _ _ => tokens.map (Token.moved (offset + 1))

end Piece

/-- A string with some pieces, between its delimiters. -/
def quotedText {dialect : Dialect} {delimiter : Char} (pieces : List (Piece dialect delimiter)) :
    List Char :=
  delimiter :: pieces.flatMap Piece.written ++ [delimiter]

/--
Characters that are read as certain parts wherever they stand in a string with this delimiter,
with the text that these parts stand for and the tokens inside them.
-/
structure ReadsAs (dialect : Dialect) (delimiter : Char) (form : List Char) (parts : List Part)
    (meant : List Char) (tokens : Nat → List Token) : Prop where
  written : parts.flatMap Part.written = form
  decoded : parts.flatMap Part.decoded = meant
  layout : ∀ offset, Part.layout offset parts = tokens offset
  reaches :
    ∀ fragments before rest,
      Reaches (tokenize dialect) dialect
        ⟨fragments, .quoted delimiter before none, form ++ rest⟩
        ⟨fragments, .quoted delimiter (before ++ parts) none, rest⟩

section

variable {dialect : Dialect} {delimiter : Char}

theorem ne_of_isOrdinary
    {c : Char}
    (quote : isQuote delimiter = true)
    (ordinary : isOrdinary c = true) :
    c ≠ '\\' ∧ c ≠ delimiter ∧ c ≠ interpolationMark := by
  obtain ⟨noBackslash, noMark⟩ : c ≠ '\\' ∧ isMark c = false := by
    simpa [isOrdinary] using ordinary
  refine ⟨noBackslash, ?_, ?_⟩
  · rintro rfl
    rw [isMark_of_isQuote quote] at noMark
    cases noMark
  · rintro rfl
    exact absurd noMark (by decide)

/-- A character is read as one part when one rule leads over its form. -/
theorem ReadsAs.single
    {form meant : List Char}
    {part : Part}
    (written : part.written = form)
    (decoded : part.decoded = meant)
    (noTokens : ∀ offset, part.tokens offset = [])
    (moves :
      ∀ fragments before rest,
        Moves (tokenize dialect) dialect
          ⟨fragments, .quoted delimiter before none, form ++ rest⟩
          ⟨fragments, .quoted delimiter (before ++ [part]) none, rest⟩) :
    ReadsAs dialect delimiter form [part] meant fun _ => [] where
  written := by
    simpa using written
  decoded := by
    simpa using decoded
  layout offset := by
    rw [Part.layout_singleton, noTokens]
  reaches fragments before rest := .single (moves fragments before rest)

/-- Forms that follow each other are read one after the other. -/
theorem ReadsAs.append
    {form otherForm meant otherMeant : List Char}
    {parts otherParts : List Part}
    {tokens otherTokens : Nat → List Token}
    (first : ReadsAs dialect delimiter form parts meant tokens)
    (second : ReadsAs dialect delimiter otherForm otherParts otherMeant otherTokens) :
    ReadsAs dialect delimiter (form ++ otherForm) (parts ++ otherParts) (meant ++ otherMeant)
      fun offset => tokens offset ++ otherTokens (offset + form.length) where
  written := by
    rw [List.flatMap_append, first.written, second.written]
  decoded := by
    rw [List.flatMap_append, first.decoded, second.decoded]
  layout offset := by
    rw [Part.layout_append, first.layout, second.layout, Part.extent, first.written]
  reaches fragments before rest := by
    have start := first.reaches fragments before (otherForm ++ rest)
    have stop := second.reaches fragments (before ++ parts) rest
    rw [← List.append_assoc] at start
    rw [List.append_assoc before] at stop
    exact start.trans stop

theorem ReadsAs.nil :
    ReadsAs dialect delimiter [] [] [] fun _ => [] where
  written := rfl
  decoded := rfl
  layout _ := rfl
  reaches fragments before rest := by
    rw [List.append_nil]
    exact .refl

/-- Every way to write a character is read as that character. -/
theorem readsAs_of_encodes
    {c : Char}
    {form : List Char}
    (quote : isQuote delimiter = true)
    (legal : Encodes delimiter c form) :
    ∃ parts, ReadsAs dialect delimiter form parts [c] fun _ => [] := by
  have escaped :
      ∀ {x c},
        Literal.decodeEscape x = some c →
          ∃ parts, ReadsAs dialect delimiter ['\\', x] parts [c] fun _ => [] := by
    intro x c decodes
    exact ⟨_, .single rfl rfl (fun _ => rfl) fun _ _ _ => .escape decodes⟩
  have verbatim :
      ∀ {c},
        c ≠ '\\' → c ≠ delimiter → c ≠ interpolationMark →
          ∃ parts, ReadsAs dialect delimiter [c] parts [c] fun _ => [] := by
    intro c noBackslash noDelimiter noMark
    exact
      ⟨_, .single rfl rfl (fun _ => rfl) fun _ _ _ => .verbatim noBackslash noDelimiter noMark⟩
  cases legal with
  | backslash => exact escaped rfl
  | mark mark => exact escaped (Literal.decodeEscape_of_isMark mark)
  | lineFeed => exact escaped rfl
  | tab => exact escaped rfl
  | otherQuote isQuote other =>
      exact
        verbatim (ne_backslash_of_isMark (isMark_of_isQuote isQuote)) other
          (ne_interpolationMark_of_isQuote isQuote)
  | ordinary ordinary =>
      obtain ⟨noBackslash, noDelimiter, noMark⟩ := ne_of_isOrdinary quote ordinary
      exact verbatim noBackslash noDelimiter noMark
  | needless ordinary noLineFeed noTab =>
      obtain ⟨noBackslash, noDelimiter, noMark⟩ := ne_of_isOrdinary quote ordinary
      have undecoded : Literal.decodeEscape c = none := by
        have mark : isMark c = false := by
          simpa [noBackslash, isOrdinary] using ordinary
        rw [← Option.isNone_iff_eq_none, ← Option.not_isSome, Literal.isSome_decodeEscape]
        simp [noBackslash, noLineFeed, noTab, mark]
      -- The backslash is dropped, for it does not take this character with it.
      refine ⟨[.stray, .verbatim c], rfl, rfl, fun _ => rfl, ?_⟩
      intro fragments before rest
      have drops :
          Moves (tokenize dialect) dialect
            ⟨fragments, .quoted delimiter before none, '\\' :: c :: rest⟩
            ⟨fragments, .quoted delimiter (before ++ [.stray]) none, c :: rest⟩ :=
        .stray undecoded
      have keeps :
          Moves (tokenize dialect) dialect
            ⟨fragments, .quoted delimiter (before ++ [.stray]) none, c :: rest⟩
            ⟨fragments, .quoted delimiter (before ++ [.stray] ++ [.verbatim c]) none, rest⟩ :=
        .verbatim noBackslash noDelimiter noMark
      rw [List.append_assoc] at keeps
      exact (Relation.ReflTransGen.single drops).tail keeps

theorem readsAs_text
    (quote : isQuote delimiter = true)
    (glyphs : List (Glyph delimiter)) :
    ∃ parts,
      ReadsAs dialect delimiter (glyphs.flatMap Glyph.form) parts (glyphs.map Glyph.c)
        fun _ => [] := by
  induction glyphs with
  | nil => exact ⟨[], .nil⟩
  | cons glyph glyphs inductionHypothesis =>
      obtain ⟨first, firstReads⟩ := @readsAs_of_encodes dialect delimiter _ _ quote glyph.legal
      obtain ⟨others, othersRead⟩ := inductionHypothesis
      exact ⟨first ++ others, firstReads.append othersRead⟩

/-- The text of an interpolation is gathered up to the mark that closes it. -/
theorem reaches_gathered
    {inner : String → Except Halt (List Token)}
    {fragments : List Fragment}
    {parts : List Part}
    {before raw rest : List Char}
    (unmarked : interpolationMark ∉ raw) :
    Reaches inner dialect
      ⟨fragments, .quoted delimiter parts (some before), raw ++ rest⟩
      ⟨fragments, .quoted delimiter parts (some (before ++ raw)), rest⟩ := by
  induction raw generalizing before with
  | nil =>
      rw [List.append_nil]
      exact .refl
  | cons c raw inductionHypothesis =>
      rw [List.mem_cons, not_or] at unmarked
      have gathers :
          Moves inner dialect
            ⟨fragments, .quoted delimiter parts (some before), c :: (raw ++ rest)⟩
            ⟨fragments, .quoted delimiter parts (some (before ++ [c])), raw ++ rest⟩ :=
        .gathered (Ne.symm unmarked.1)
      have others := @inductionHypothesis (before ++ [c]) unmarked.2
      rw [List.append_assoc] at others
      exact others.head gathers

/-- An interpolation is read as its tokens. -/
theorem readsAs_interpolation
    {raw : List Char}
    {tokens : List Token}
    (unmarked : interpolationMark ∉ raw)
    (reads : tokenize dialect (String.ofList raw) = .ok tokens)
    (allowed : dialect.interpolatesIn delimiter = true) :
    ReadsAs dialect delimiter
      (interpolationMark :: raw ++ [interpolationMark]) [.segment raw tokens] []
      fun offset => tokens.map (Token.moved (offset + 1)) where
  written := by
    simp [Part.written]
  decoded := rfl
  layout offset := Part.layout_singleton _ _
  reaches fragments before rest := by
    have opens :
        Moves (tokenize dialect) dialect
          ⟨fragments, .quoted delimiter before none,
            interpolationMark :: (raw ++ interpolationMark :: rest)⟩
          ⟨fragments, .quoted delimiter before (some []), raw ++ interpolationMark :: rest⟩ :=
      .opened allowed
    have gathers :=
      @reaches_gathered dialect delimiter (tokenize dialect) fragments before [] raw
        (interpolationMark :: rest) unmarked
    have closes :
        Moves (tokenize dialect) dialect
          ⟨fragments, .quoted delimiter before (some raw), interpolationMark :: rest⟩
          ⟨fragments, .quoted delimiter (before ++ [.segment raw tokens]) none, rest⟩ :=
      .tokenized reads
    rw [List.append_assoc]
    exact (gathers.head opens).tail closes

/-- Pieces are read as what they mean, with the tokens of their interpolations. -/
theorem readsAs_pieces
    (quote : isQuote delimiter = true)
    (pieces : List (Piece dialect delimiter)) :
    ∃ parts,
      ReadsAs dialect delimiter (pieces.flatMap Piece.written) parts (pieces.flatMap Piece.meant)
        fun offset => spread Piece.written Piece.tokens offset pieces := by
  induction pieces with
  | nil => exact ⟨[], .nil⟩
  | cons piece pieces inductionHypothesis =>
      obtain ⟨others, othersRead⟩ := inductionHypothesis
      cases piece with
      | text glyphs =>
          obtain ⟨first, firstReads⟩ := @readsAs_text dialect delimiter quote glyphs
          exact ⟨first ++ others, firstReads.append othersRead⟩
      | interpolation raw tokens unmarked reads allowed =>
          exact
            ⟨_ ++ others, (readsAs_interpolation unmarked reads allowed).append othersRead⟩

/-- What is read as some parts in a string is a whole line between two delimiters. -/
theorem ReadsAs.runs
    {form meant : List Char}
    {parts : List Part}
    {tokens : Nat → List Token}
    (quote : isQuote delimiter = true)
    (reads : ReadsAs dialect delimiter form parts meant tokens) :
    Runs (tokenize dialect) dialect
      (ofText (delimiter :: form ++ [delimiter])) (.ok [.string delimiter parts]) := by
  have opens :
      Moves (tokenize dialect) dialect
        (ofText (delimiter :: form ++ [delimiter]))
        ⟨[], .quoted delimiter [] none, form ++ [delimiter]⟩ :=
    .quote quote
  have body := reads.reaches [] [] [delimiter]
  have closes :
      Moves (tokenize dialect) dialect
        ⟨[], .quoted delimiter parts none, [delimiter]⟩
        ⟨[.string delimiter parts], .plain [] [], []⟩ :=
    .closed
  refine Runs.of_reaches ((body.head opens).tail closes) ?_
  exact .ended

end

/--
A string is tokenized as what it means, with the tokens of its interpolations in their places.
-/
theorem tokenize_quotedText
    {dialect : Dialect}
    {delimiter : Char}
    (quote : isQuote delimiter = true)
    (pieces : List (Piece dialect delimiter))
    (fits : (quotedText pieces).length < Offset.limit) :
    tokenize dialect (String.ofList (quotedText pieces)) =
      .ok
        (⟨.string,
            ⟨0, (quotedText pieces).length⟩,
            some (String.ofList (pieces.flatMap Piece.meant))⟩ ::
          spread Piece.written Piece.tokens 1 pieces) := by
  obtain ⟨parts, reads⟩ := readsAs_pieces quote pieces
  have tokens :
      Fragment.layout 0 [.string delimiter parts] =
        ⟨.string,
            ⟨0, (quotedText pieces).length⟩,
            some (String.ofList (pieces.flatMap Piece.meant))⟩ ::
          spread Piece.written Piece.tokens 1 pieces := by
    rw [Fragment.layout_singleton, Fragment.tokens, Fragment.nested, Nat.zero_add, reads.layout,
      Fragment.head, Part.body, reads.decoded, Part.extent, reads.written]
    simp [quotedText]
  rw [tokenize_of_runs fits (reads.runs quote), answer, tokens]

/-- A string with text, an interpolation that holds a string itself, and text again. -/
theorem tokenize_quotedText_mixed :
    tokenize .usual (String.ofList "\"\\\\'\x60a 'b'\x60\\n\\x\"".toList) =
      .ok
        [⟨.string, ⟨0, 16⟩, some "\\'\nx"⟩,
          ⟨.word, ⟨5, 6⟩, some "a"⟩,
          ⟨.string, ⟨7, 10⟩, some "b"⟩] := by
  have inner :
      tokenize .usual (String.ofList ['a', ' ', '\'', 'b', '\'']) =
        .ok [⟨.word, ⟨0, 1⟩, some "a"⟩, ⟨.string, ⟨2, 5⟩, some "b"⟩] := by
    decide +kernel
  exact
    @tokenize_quotedText .usual '"' (by decide)
      [.text [⟨'\\', _, .backslash⟩, ⟨'\'', _, .otherQuote (by decide) (by decide)⟩],
        .interpolation _ _ (by decide) inner (by decide),
        .text
          [⟨'\n', _, .lineFeed⟩,
            ⟨'x', _, .needless (by decide) (by decide) (by decide)⟩]]
      (show 16 < Offset.limit by decide)

end Brace
