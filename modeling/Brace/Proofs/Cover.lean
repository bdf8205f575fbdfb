import Brace.Proofs.TopLevel

namespace Brace

/-!
# Lossless cover

The top-level tokens of a line cover it without loss: they follow each other without
overlapping, each of them can be read off the characters at its span, and all other characters
are whitespace.
-/

open Account

/-- The characters of a text that a span takes up. -/
def Span.slice (span : Span) (text : List Char) : List Char :=
  (text.drop span.start).take (span.stop - span.start)

/-- Whether a span takes up the character at a position. -/
def Span.Holds (span : Span) (position : Nat) : Prop :=
  span.start ≤ position ∧ position < span.stop

/--
What the characters at the span of a top-level token are: the content of a word, a body between
two quotes, or the only spelling of any other kind.
-/
def Token.Reads (text : List Char) (token : Token) : Prop :=
  match token.kind with
  | .word =>
      token.content = some (String.ofList (token.span.slice text)) ∧
        ∀ c ∈ token.span.slice text, Unicode.isSpace c = false
  | .string =>
      token.content.isSome = true ∧
        ∃ quote body,
          isQuote quote = true ∧ token.span.slice text = quote :: body ++ [quote]
  | kind =>
      token.content = none ∧
        ∀ spelling, ⟨spelling, .token kind⟩ ∈ Symbol.table ↔ spelling = token.span.slice text

/-- Tokens follow each other in a text, account for it, and leave out nothing but whitespace. -/
structure Covers (text : List Char) (tokens : List Token) : Prop where
  inside : ∀ token ∈ tokens, token.span.start < token.span.stop ∧ token.span.stop ≤ text.length
  disjoint : tokens.Pairwise fun first second => first.span.stop ≤ second.span.start
  reads : ∀ token ∈ tokens, token.Reads text
  blank :
    ∀ position c,
      text[position]? = some c →
        (∀ token ∈ tokens, ¬ token.span.Holds position) →
          Unicode.isSpace c = true
  /-- Two words do not touch. -/
  separate :
    tokens.Pairwise fun first second =>
      first.kind = .word → second.kind = .word → first.span.stop < second.span.start

theorem Span.slice_append
    (before middle after : List Char) :
    slice ⟨before.length, before.length + middle.length⟩ (before ++ middle ++ after) = middle := by
  simp [slice]

/-- A token has only one spelling. -/
theorem Symbol.spelling_unique
    {spelling other : List Char}
    {kind : Kind}
    (member : ⟨spelling, .token kind⟩ ∈ table)
    (otherMember : ⟨other, .token kind⟩ ∈ table) :
    spelling = other := by
  have all :
      ∀ first ∈ table, ∀ second ∈ table,
        first.meaning = second.meaning →
          first.meaning ≠ .escaped → first.spelling = second.spelling := by
    decide
  exact all _ member _ otherMember rfl (by simp)

/-- A spelling of a token is read off the characters at its span. -/
theorem Token.reads_of_mem_table
    {text : List Char}
    {kind : Kind}
    {span : Span}
    (member : ⟨span.slice text, .token kind⟩ ∈ Symbol.table) :
    Token.Reads text ⟨kind, span, none⟩ := by
  have unique :
      ∀ spelling, ⟨spelling, .token kind⟩ ∈ Symbol.table ↔ spelling = span.slice text := by
    intro spelling
    constructor
    · intro other
      exact Symbol.spelling_unique other member
    · rintro rfl
      exact member
  have noContent := (Symbol.plain_of_token member).2
  cases kind with
  | word => cases noContent
  | string => cases noContent
  | _ => exact ⟨rfl, unique⟩

section

variable {inner : String → Except Halt (List Token)} {dialect : Dialect}

namespace Fragment

theorem Sound.length_pos
    {fragment : Fragment}
    (sound : fragment.Sound inner dialect) :
    0 < fragment.written.length := by
  cases fragment with
  | blank c => exact Nat.one_pos
  | symbol spelling kind => exact List.length_pos_iff.mpr (Symbol.spelling_ne_nil sound)
  | word text => exact List.length_pos_iff.mpr sound.1
  | string delimiter parts =>
      simp only [written, List.cons_append, List.length_cons]
      exact Nat.succ_pos _

theorem span_of_head
    {fragment : Fragment}
    {offset : Nat}
    {token : Token}
    (isHead : fragment.head offset = some token) :
    token.span = ⟨offset, offset + fragment.written.length⟩ := by
  cases fragment with
  | blank c => cases isHead
  | string delimiter parts =>
      cases isHead
      simp [written, Part.extent]
  | _ =>
      cases isHead
      rfl

/-- The characters at the span of the token of a fragment are those of the fragment. -/
theorem slice_of_head
    {fragment : Fragment}
    {before after : List Char}
    {token : Token}
    (isHead : fragment.head before.length = some token) :
    token.span.slice (before ++ fragment.written ++ after) = fragment.written := by
  rw [span_of_head isHead]
  exact Span.slice_append before fragment.written after

/-- The token of a fragment is read off its characters. -/
theorem reads_of_head
    {fragment : Fragment}
    {before after : List Char}
    {token : Token}
    (sound : fragment.Sound inner dialect)
    (isHead : fragment.head before.length = some token) :
    token.Reads (before ++ fragment.written ++ after) := by
  have slice := @slice_of_head fragment before after token isHead
  cases fragment with
  | blank c => cases isHead
  | symbol spelling kind =>
      cases isHead
      refine Token.reads_of_mem_table ?_
      rw [slice]
      exact sound
  | word text =>
      cases isHead
      refine ⟨?_, ?_⟩
      · rw [slice]
        rfl
      · rw [slice]
        exact sound.2
  | string delimiter parts =>
      cases isHead
      refine ⟨rfl, delimiter, parts.flatMap Part.written, sound.1, ?_⟩
      rw [slice]
      rfl

theorem mem_heads
    {offset : Nat}
    {fragments : List Fragment}
    {token : Token} :
    token ∈ heads offset fragments ↔
      ∃ before fragment after,
        fragments = before ++ fragment :: after ∧
          fragment.head (offset + extent before) = some token := by
  simp [heads, mem_spread, extent]

/-- Each position of fragments lies in one of them. -/
theorem exists_fragment_at
    {fragments : List Fragment}
    {position : Nat}
    (inside : position < extent fragments) :
    ∃ before fragment after,
      fragments = before ++ fragment :: after ∧
        extent before ≤ position ∧
        position < extent before + fragment.written.length := by
  induction fragments generalizing position with
  | nil => simp at inside
  | cons first fragments inductionHypothesis =>
      by_cases inFirst : position < first.written.length
      · exact ⟨[], first, fragments, rfl, by simp, by simpa using inFirst⟩
      · have later : position - first.written.length < extent fragments := by
          simp only [extent, List.flatMap_cons, List.length_append] at inside ⊢
          omega
        obtain ⟨before, fragment, after, rfl, starts, stops⟩ := inductionHypothesis later
        refine ⟨first :: before, fragment, after, rfl, ?_, ?_⟩
        · simp only [extent, List.flatMap_cons, List.length_append] at starts ⊢
          omega
        · simp only [extent, List.flatMap_cons, List.length_append] at stops ⊢
          omega

/-- Only words give tokens that are words. -/
theorem isWord_of_head
    {fragment : Fragment}
    {offset : Nat}
    {token : Token}
    (sound : fragment.Sound inner dialect)
    (isHead : fragment.head offset = some token)
    (kind : token.kind = .word) :
    fragment.isWord = true := by
  cases fragment with
  | word text => rfl
  | blank c => cases isHead
  | string delimiter parts =>
      cases isHead
      cases kind
  | symbol spelling other =>
      cases isHead
      have noContent := (Symbol.plain_of_token sound).2
      rw [show other = .word from kind] at noContent
      cases noContent

/-- Between two words of lawful fragments there is some other fragment, which is not empty. -/
theorem Lawful.extent_pos_of_isWord
    {first second : Fragment}
    {between after : List Fragment}
    (lawful : Lawful inner dialect (first :: (between ++ second :: after)))
    (firstWord : first.isWord = true)
    (secondWord : second.isWord = true) :
    0 < extent between := by
  cases between with
  | nil =>
      have apart : Apart first second := (List.isChain_cons_cons.mp lawful.apart).1
      simp [Apart, firstWord, secondWord] at apart
  | cons next between =>
      have nonempty := (lawful.sound next (by simp)).length_pos
      simp only [extent, List.flatMap_cons, List.length_append]
      omega

/-- The tokens that lawful fragments give for themselves follow each other, words at a distance. -/
theorem Lawful.pairwise_heads
    {offset : Nat}
    {fragments : List Fragment}
    (lawful : Lawful inner dialect fragments) :
    (heads offset fragments).Pairwise fun first second =>
      first.span.stop ≤ second.span.start ∧
        (first.kind = .word → second.kind = .word → first.span.stop < second.span.start) := by
  induction fragments generalizing offset with
  | nil => exact .nil
  | cons fragment fragments inductionHypothesis =>
      have split :
          heads offset (fragment :: fragments) =
            (fragment.head offset).toList ++ heads (offset + fragment.written.length) fragments :=
        rfl
      rw [split, List.pairwise_append]
      refine ⟨?_, inductionHypothesis lawful.tail, ?_⟩
      · cases fragment.head offset with
        | none => exact .nil
        | some token => exact List.pairwise_singleton _ token
      -- What is left is to compare the token of the first fragment with any later one.
      intro first isFirst second isLater
      rw [Option.mem_toList] at isFirst
      obtain ⟨between, other, after, rfl, isHead⟩ := mem_heads.mp isLater
      rw [span_of_head isFirst, span_of_head isHead]
      refine ⟨Nat.le_add_right _ _, ?_⟩
      intro firstKind secondKind
      have firstWord := isWord_of_head (lawful.sound fragment (by simp)) isFirst firstKind
      have otherWord := isWord_of_head (lawful.sound other (by simp)) isHead secondKind
      exact Nat.lt_add_of_pos_right (lawful.extent_pos_of_isWord firstWord otherWord)

/-- The tokens that lawful fragments give for themselves cover the characters of the fragments. -/
theorem Lawful.covers
    {fragments : List Fragment}
    (lawful : Lawful inner dialect fragments) :
    Covers (fragments.flatMap written) (heads 0 fragments) where
  inside token member := by
    obtain ⟨before, fragment, after, rfl, isHead⟩ := mem_heads.mp member
    have nonempty := (lawful.sound fragment (by simp)).length_pos
    rw [span_of_head isHead]
    simp only [extent, List.flatMap_append, List.flatMap_cons, List.length_append]
    omega
  disjoint := lawful.pairwise_heads.imp fun both => both.1
  separate := lawful.pairwise_heads.imp fun both => both.2
  reads token member := by
    obtain ⟨before, fragment, after, rfl, isHead⟩ := mem_heads.mp member
    rw [Nat.zero_add] at isHead
    have reads :=
      @reads_of_head _ _ fragment _ (after.flatMap written) _
        (lawful.sound fragment (by simp)) isHead
    rwa [List.append_assoc, ← List.flatMap_cons, ← List.flatMap_append] at reads
  blank position c stands free := by
    have inside : position < extent fragments := (List.getElem?_eq_some_iff.mp stands).1
    obtain ⟨before, fragment, after, rfl, starts, stops⟩ := exists_fragment_at inside
    cases isHead : fragment.head (0 + extent before) with
    | some token =>
        have holds : token.span.Holds position := by
          rw [span_of_head isHead, Nat.zero_add]
          exact ⟨starts, stops⟩
        exact absurd holds (free token (mem_heads.mpr ⟨before, fragment, after, rfl, isHead⟩))
    | none =>
        cases fragment with
        | blank space =>
            have here : position = extent before := by
              simp only [written, List.length_singleton] at stops
              omega
            subst position
            have found :
                ((before ++ blank space :: after).flatMap written)[extent before]? =
                  some space := by
              simp [extent, written]
            rw [found] at stands
            cases stands
            exact lawful.sound (.blank c) (by simp)
        | _ => cases isHead

end Fragment

end

/-- The top-level tokens of a line cover it without loss. -/
theorem covers_of_tokenize
    {dialect : Dialect}
    {text : String}
    {tokens : List Token}
    (fits : text.length < Offset.limit)
    (reads : tokenize dialect text = .ok tokens) :
    Covers text.toList (topLevel tokens) := by
  have lineFits : text.toList.length < Offset.limit := by
    rwa [String.length_toList]
  rw [← @String.ofList_toList text] at reads
  obtain ⟨fragments, runs, rfl⟩ := runs_of_tokenize_ok lineFits reads
  obtain ⟨lawful, spells⟩ := lawful_of_runs (sound_ofText _) runs
  have size : Fragment.extent fragments ≤ Offset.limit := by
    rw [Fragment.extent, spells]
    exact Nat.le_of_lt lineFits
  rw [lawful.topLevel_layout (answers_tokenize (Nat.le_refl _)) size]
  have covers := lawful.covers
  rwa [spells] at covers

/-- A cover with a string that holds an interpolation, a keyword, and marks after a backslash. -/
theorem covers_mixed_line :
    Covers "tr ??\x7b\"a\x60b 'c'\x60\\\"d\"\\'if:=".toList
      (topLevel
        [⟨.word, ⟨0, 2⟩, some "tr"⟩,
          ⟨.openBlockFunc, ⟨3, 6⟩, none⟩,
          ⟨.string, ⟨6, 19⟩, some "a\"d"⟩,
          ⟨.word, ⟨9, 10⟩, some "b"⟩,
          ⟨.string, ⟨11, 14⟩, some "c"⟩,
          ⟨.word, ⟨19, 21⟩, some "\\'"⟩,
          ⟨.ifKeyword, ⟨21, 23⟩, none⟩,
          ⟨.createVar, ⟨23, 25⟩, none⟩]) := by
  have fits : "tr ??\x7b\"a\x60b 'c'\x60\\\"d\"\\'if:=".length < Offset.limit := by
    decide
  refine covers_of_tokenize fits (show tokenize .usual _ = _ from ?_)
  decide +kernel

end Brace
