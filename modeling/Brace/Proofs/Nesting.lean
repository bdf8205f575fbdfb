import Brace.Proofs.Cover

namespace Brace

/-!
# Order and nesting

The tokens of a line come in the order of their starts.  Two of them are apart, or the earlier
one is a string around the later one.  Nesting is never deeper than one level, for the text of an
interpolation holds no interpolation mark, and only a string whose delimiter allows
interpolation holds other tokens.
-/

open Account

/-- How the tokens of a text lie in the text and in each other. -/
structure Nests (dialect : Dialect) (text : List Char) (tokens : List Token) : Prop where
  inside : ∀ token ∈ tokens, token.span.start < token.span.stop ∧ token.span.stop ≤ text.length
  ascending : tokens.Pairwise fun first second => first.span.start < second.span.start
  laminar : tokens.Pairwise Token.Precedes
  /-- No token lies in more than one other token. -/
  shallow : ∀ token ∈ tokens, (enclosing tokens token).length ≤ 1
  /-- What lies in another token lies in a string between two interpolating quotes. -/
  delimited :
    ∀ token ∈ tokens,
      ∀ outer ∈ enclosing tokens token,
        outer.kind = .string ∧
          ∃ quote body,
            isQuote quote = true ∧
              quote ∈ dialect.interpolating ∧
              outer.span.slice text = quote :: body ++ [quote]

/-- The first token ends before the second begins. -/
def Token.Apart (first second : Token) : Prop :=
  first.span.stop ≤ second.span.start

/-! ## Tokens that are apart -/

/-- Tokens that are apart do not enclose each other. -/
theorem enclosing_eq_nil_of_apart
    {start stop : Nat}
    {tokens : List Token}
    {token : Token}
    (tidy : Tidy start stop tokens)
    (apart : tokens.Pairwise Token.Apart)
    (member : token ∈ tokens) :
    enclosing tokens token = [] := by
  obtain ⟨before, after, _, rfl, erased⟩ := List.exists_erase_eq member
  have bounds := tidy.inside token member
  rw [List.pairwise_append] at apart
  obtain ⟨_, fromToken, fromBefore⟩ := apart
  rw [enclosing, erased, List.filter_append, List.append_eq_nil_iff, List.filter_eq_nil_iff,
    List.filter_eq_nil_iff]
  refine ⟨?_, ?_⟩
  · intro other isBefore
    have ends : other.span.stop ≤ token.span.start := fromBefore other isBefore token (by simp)
    have earlier : other.span.stop < token.span.stop := by
      omega
    simp [Span.encloses_eq_false_of_stop_lt earlier]
  · intro other isAfter
    have ends : token.span.stop ≤ other.span.start :=
      (List.pairwise_cons.mp fromToken).1 other isAfter
    have later : token.span.start < other.span.start := by
      omega
    simp [Span.encloses_eq_false_of_start_lt later]

section Spread

variable {written : α → List Char} {tokens : Nat → α → List Token}

/-- Pieces whose tokens are apart have tokens that are apart together. -/
theorem apart_spread
    {offset : Nat}
    {pieces : List α}
    (tidy :
      ∀ piece ∈ pieces,
        ∀ offset, Tidy offset (offset + (written piece).length) (tokens offset piece))
    (each : ∀ piece ∈ pieces, ∀ offset, (tokens offset piece).Pairwise Token.Apart) :
    (spread written tokens offset pieces).Pairwise Token.Apart := by
  induction pieces generalizing offset with
  | nil => exact .nil
  | cons piece pieces inductionHypothesis =>
      have othersTidy :
          ∀ other ∈ pieces,
            ∀ offset, Tidy offset (offset + (written other).length) (tokens offset other) :=
        fun other member => tidy other (by simp [member])
      have first := tidy piece (by simp) offset
      have others := @tidy_spread _ written tokens (offset + (written piece).length) _ othersTidy
      refine List.pairwise_append.mpr ⟨each piece (by simp) offset, ?_, ?_⟩
      · exact inductionHypothesis othersTidy fun other member => each other (by simp [member])
      · intro earlier isFirst later isLater
        exact (first.inside earlier isFirst).2.2.trans (others.inside later isLater).1

/-- A token of one of some pieces is enclosed by tokens of the same piece only. -/
theorem enclosing_spread
    {offset : Nat}
    {before after : List α}
    {piece : α}
    {token : Token}
    (tidy :
      ∀ other ∈ before ++ piece :: after,
        ∀ offset, Tidy offset (offset + (written other).length) (tokens offset other))
    (member : token ∈ tokens (offset + (before.flatMap written).length) piece) :
    enclosing (spread written tokens offset (before ++ piece :: after)) token =
      enclosing (tokens (offset + (before.flatMap written).length) piece) token := by
  have beforeTidy :=
    @tidy_spread _ written tokens offset before
      fun other isBefore => tidy other (by simp [isBefore])
  have pieceTidy := tidy piece (by simp) (offset + (before.flatMap written).length)
  have laterTidy :=
    @tidy_spread _ written tokens (offset + (before.flatMap written).length) (piece :: after)
      fun other isLater => tidy other (List.mem_append_right before isLater)
  have afterTidy :=
    @tidy_spread _ written tokens
      (offset + (before.flatMap written).length + (written piece).length) after
      fun other isAfter => tidy other (by simp [isAfter])
  rw [spread_append]
  rw [enclosing_append_of_mem_right beforeTidy laterTidy (List.mem_append_left _ member)]
  exact enclosing_append_of_mem_left pieceTidy afterTidy member

end Spread

/-! ## Texts of interpolations -/

/-- Parts without an interpolation mark hold no interpolation, and so no tokens. -/
theorem Part.layout_of_unmarked
    {offset : Nat}
    {parts : List Part}
    (unmarked : interpolationMark ∉ parts.flatMap written) :
    layout offset parts = [] := by
  induction parts generalizing offset with
  | nil => rfl
  | cons part parts inductionHypothesis =>
      rw [List.flatMap_cons, List.mem_append, not_or] at unmarked
      have others := @inductionHypothesis (offset + part.written.length) unmarked.2
      cases part with
      | segment raw tokens =>
          have marked : interpolationMark ∈ (Part.segment raw tokens).written := by
            simp [written]
          exact absurd marked unmarked.1
      | _ => exact others

/-- The tokens of fragments without an interpolation mark are those they give for themselves. -/
theorem Fragment.layout_of_unmarked
    {offset : Nat}
    {fragments : List Fragment}
    (unmarked : interpolationMark ∉ fragments.flatMap written) :
    layout offset fragments = heads offset fragments := by
  induction fragments generalizing offset with
  | nil => rfl
  | cons fragment fragments inductionHypothesis =>
      rw [List.flatMap_cons, List.mem_append, not_or] at unmarked
      have others := @inductionHypothesis (offset + fragment.written.length) unmarked.2
      have bare : fragment.nested offset = [] := by
        cases fragment with
        | string delimiter parts =>
            refine Part.layout_of_unmarked ?_
            intro marked
            exact unmarked.1 (by simp [written, List.mem_flatMap.mp marked])
        | _ => rfl
      have first : fragment.tokens offset = (fragment.head offset).toList := by
        rw [tokens, bare, List.append_nil]
      change
        fragment.tokens offset ++ layout (offset + fragment.written.length) fragments =
          (fragment.head offset).toList ++ heads (offset + fragment.written.length) fragments
      rw [first, others]

section

variable {dialect : Dialect}

/-- The tokens of a text without interpolation marks are apart. -/
theorem apart_of_unmarked
    {text : List Char}
    {tokens : List Token}
    (fits : text.length < Offset.limit)
    (unmarked : interpolationMark ∉ text)
    (reads : tokenize dialect (String.ofList text) = .ok tokens) :
    tokens.Pairwise Token.Apart := by
  obtain ⟨fragments, runs, rfl⟩ := runs_of_tokenize_ok fits reads
  obtain ⟨lawful, spells⟩ := lawful_of_runs (sound_ofText _) runs
  have spelledUnmarked : interpolationMark ∉ fragments.flatMap Fragment.written := by
    rwa [spells]
  rw [Fragment.layout_of_unmarked spelledUnmarked]
  exact lawful.pairwise_heads.imp fun both => both.1

/-! ## Tokens of a string -/

/-- The tokens in a string are apart. -/
theorem Part.apart_layout
    {delimiter : Char}
    {parts : List Part}
    (sound : ∀ part ∈ parts, part.Sound (tokenize dialect) dialect delimiter)
    (fits : extent parts < Offset.limit)
    (offset : Nat) :
    (layout offset parts).Pairwise Token.Apart := by
  have answers := @answers_tokenize dialect Offset.limit (Nat.le_refl _)
  refine
    apart_spread (fun _ member => tidy_of_mem answers sound (Nat.le_of_lt fits) member) ?_
  intro part member offset
  cases part with
  | segment raw tokens =>
      obtain ⟨unmarked, _, reads⟩ := sound _ member
      have inside := length_written_le member
      have rawFits : raw.length < Offset.limit := by
        simp only [written, List.length_append, List.length_cons] at inside
        omega
      refine List.pairwise_map.mpr ((apart_of_unmarked rawFits unmarked reads).imp ?_)
      intro first second apart
      exact Nat.add_le_add_right apart (offset + 1)
  | _ => exact .nil

/-- A string that holds tokens has a delimiter that allows interpolation. -/
theorem Part.interpolates_of_mem_layout
    {inner : String → Except Halt (List Token)}
    {delimiter : Char}
    {parts : List Part}
    {offset : Nat}
    {token : Token}
    (sound : ∀ part ∈ parts, part.Sound inner dialect delimiter)
    (member : token ∈ layout offset parts) :
    dialect.interpolatesIn delimiter = true := by
  obtain ⟨raw, tokens, _, _, inside, _⟩ := exists_segment_of_mem_layout member
  exact (sound _ inside).2.1

/--
A token of a fragment is enclosed by no other one, or by the fragment itself when that is a
string whose delimiter allows interpolation.
-/
theorem Fragment.enclosing_tokens
    {fragment : Fragment}
    {offset : Nat}
    {token : Token}
    (sound : fragment.Sound (tokenize dialect) dialect)
    (fits : fragment.written.length < Offset.limit)
    (member : token ∈ fragment.tokens offset) :
    enclosing (fragment.tokens offset) token = [] ∨
      ∃ delimiter parts outer,
        fragment = .string delimiter parts ∧
          dialect.interpolatesIn delimiter = true ∧
          fragment.head offset = some outer ∧
          enclosing (fragment.tokens offset) token = [outer] := by
  have answers := @answers_tokenize dialect Offset.limit (Nat.le_refl _)
  cases fragment with
  | string delimiter parts =>
      have length : (written (.string delimiter parts)).length = Part.extent parts + 2 := by
        simp [written, Part.extent]
      have bodyFits : Part.extent parts < Offset.limit := by
        omega
      have body :=
        Part.tidy_layout answers sound.2 (Nat.le_of_lt bodyFits) (offset + 1)
      have within : offset + 1 + Part.extent parts ≤ offset + (Part.extent parts + 2) := by
        omega
      have apart := Part.apart_layout sound.2 bodyFits (offset + 1)
      rcases List.mem_cons.mp member with rfl | isNested
      · exact Or.inl (enclosing_cons_self body)
      · right
        refine
          ⟨delimiter, parts, _, rfl, Part.interpolates_of_mem_layout sound.2 isNested, rfl, ?_⟩
        have encloses :
            enclosing (tokens offset (.string delimiter parts)) token =
              _ :: enclosing (Part.layout (offset + 1) parts) token :=
          enclosing_cons_of_mem body within isNested
        rwa [enclosing_eq_nil_of_apart body apart isNested] at encloses
  | blank c => cases member
  | symbol spelling kind =>
      cases List.mem_singleton.mp member
      left
      simp [enclosing, tokens, head, nested]
  | word text =>
      cases List.mem_singleton.mp member
      left
      simp [enclosing, tokens, head, nested]

/-- A token of lawful fragments is enclosed by the tokens of its fragment only. -/
theorem Fragment.Lawful.enclosing_layout
    {inner : String → Except Halt (List Token)}
    {before after : List Fragment}
    {fragment : Fragment}
    {token : Token}
    {size : Nat}
    (lawful : Lawful inner dialect (before ++ fragment :: after))
    (answers : Answers inner size)
    (short : extent (before ++ fragment :: after) ≤ size)
    (member : token ∈ fragment.tokens (0 + extent before)) :
    enclosing (layout 0 (before ++ fragment :: after)) token =
      enclosing (fragment.tokens (0 + extent before)) token :=
  enclosing_spread (fun _ isPiece => lawful.tidy_of_mem answers short isPiece) member

end

/-- The tokens of a line are in order and nest in one level at most. -/
theorem nests_of_tokenize
    {dialect : Dialect}
    {text : String}
    {tokens : List Token}
    (fits : text.length < Offset.limit)
    (reads : tokenize dialect text = .ok tokens) :
    Nests dialect text.toList tokens := by
  have tidy : Tidy 0 text.length tokens := by
    have orderly := @orderly_tokenize dialect text fits
    rwa [reads] at orderly
  have lineFits : text.toList.length < Offset.limit := by
    rwa [String.length_toList]
  have size : text.toList.length = text.length := String.length_toList
  rw [← @String.ofList_toList text] at reads
  obtain ⟨fragments, runs, rfl⟩ := runs_of_tokenize_ok lineFits reads
  obtain ⟨lawful, spells⟩ := lawful_of_runs (sound_ofText _) runs
  have extent : Fragment.extent fragments < Offset.limit := by
    rwa [Fragment.extent, spells]
  have answers := @answers_tokenize dialect Offset.limit (Nat.le_refl _)
  -- Only the string around an interpolation encloses the tokens in it.
  have enclosed :
      ∀ token ∈ Fragment.layout 0 fragments,
        enclosing (Fragment.layout 0 fragments) token = [] ∨
          ∃ outer quote body,
            enclosing (Fragment.layout 0 fragments) token = [outer] ∧
              outer.kind = .string ∧
              isQuote quote = true ∧
              quote ∈ dialect.interpolating ∧
              outer.span.slice text.toList = quote :: body ++ [quote] := by
    intro token member
    obtain ⟨before, fragment, after, rfl, inFragment⟩ := mem_spread.mp member
    have sound := lawful.sound fragment (by simp)
    have fragmentFits : fragment.written.length < Offset.limit := by
      simp only [Fragment.extent, List.flatMap_append, List.flatMap_cons, List.length_append]
        at extent
      omega
    rw [lawful.enclosing_layout answers (Nat.le_of_lt extent) inFragment]
    refine (Fragment.enclosing_tokens sound fragmentFits inFragment).imp_right ?_
    rintro ⟨delimiter, parts, outer, rfl, allowed, isHead, encloses⟩
    refine
      ⟨outer, delimiter, parts.flatMap Part.written, encloses, ?_, sound.1,
        by simpa [Dialect.interpolatesIn] using allowed, ?_⟩
    · cases isHead
      rfl
    · rw [Nat.zero_add] at isHead
      have slice :=
        @Fragment.slice_of_head _ _ (after.flatMap Fragment.written) outer isHead
      rwa [List.append_assoc, ← List.flatMap_cons, ← List.flatMap_append, spells] at slice
  refine ⟨?_, tidy.start_lt, tidy.ordered, ?_, ?_⟩
  · intro token member
    rw [size]
    exact (tidy.inside token member).2
  · intro token member
    rcases enclosed token member with none | ⟨outer, _, _, encloses, _⟩
    · simp [none]
    · simp [encloses]
  · intro token member outer isOuter
    rcases enclosed token member with
      none | ⟨other, quote, body, encloses, kind, isQuote, allowed, slice⟩
    · simp [none] at isOuter
    · rw [encloses, List.mem_singleton] at isOuter
      subst outer
      exact ⟨kind, quote, body, isQuote, allowed, slice⟩

/-- Two strings, the first one with two interpolations of which one holds a string. -/
theorem nests_two_strings :
    Nests .usual "if\"x\x60f('b')\x60y\x60c\x60\"'d'".toList
      [⟨.ifKeyword, ⟨0, 2⟩, none⟩,
        ⟨.string, ⟨2, 17⟩, some "xy"⟩,
        ⟨.word, ⟨5, 6⟩, some "f"⟩,
        ⟨.openParen, ⟨6, 7⟩, none⟩,
        ⟨.string, ⟨7, 10⟩, some "b"⟩,
        ⟨.closeParen, ⟨10, 11⟩, none⟩,
        ⟨.word, ⟨14, 15⟩, some "c"⟩,
        ⟨.string, ⟨17, 20⟩, some "d"⟩] := by
  have fits : "if\"x\x60f('b')\x60y\x60c\x60\"'d'".length < Offset.limit := by
    decide
  refine nests_of_tokenize fits (show tokenize .usual _ = _ from ?_)
  decide +kernel

end Brace
