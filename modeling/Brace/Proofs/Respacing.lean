import Brace.Proofs.Account.Alone
import Brace.Proofs.Cover
import Brace.Proofs.Separation
import Brace.Proofs.Validity

namespace Brace

/-!
# Spacing a line anew

Whitespace between the tokens of a line only keeps them apart.  When the top-level tokens of a line
are written down again with other whitespace around them, the tokens of the new line are the same
ones at other places.
-/

open Account

/-- What a token is, wherever it stands. -/
def Token.label (token : Token) : Kind × Option String :=
  (token.kind, token.content)

/--
The characters of some tokens of a line, in their order, with any whitespace before, between and
after them.  Only tokens that touch in the line may touch again.
-/
inductive Respaced (line : List Char) : List Token → List Char → Prop
  | done {gap}
      (blank : ∀ c ∈ gap, Unicode.isSpace c = true) :
      Respaced line [] gap
  | next {gap token tokens text}
      (blank : ∀ c ∈ gap, Unicode.isSpace c = true)
      (others : Respaced line tokens text)
      (apart :
        ∀ follower ∈ tokens.head?,
          token.span.stop ≠ follower.span.start → text.head?.any Unicode.isSpace = true) :
      Respaced line (token :: tokens) (gap ++ token.span.slice line ++ text)

@[simp] theorem Token.label_moved
    (distance : Nat)
    (token : Token) :
    (token.moved distance).label = token.label := rfl

namespace Fragment

/-- What the tokens of a fragment are, wherever it stands. -/
def labels (fragment : Fragment) : List (Kind × Option String) :=
  (fragment.tokens 0).map Token.label

theorem labels_of_tokens
    (offset : Nat)
    (fragment : Fragment) :
    (fragment.tokens offset).map Token.label = fragment.labels := by
  have moved := fragment.tokens_moved 0 offset
  rw [Nat.zero_add] at moved
  simp [moved, labels]

theorem labels_of_layout
    (offset : Nat)
    (fragments : List Fragment) :
    (layout offset fragments).map Token.label = fragments.flatMap labels := by
  induction fragments generalizing offset with
  | nil => rfl
  | cons fragment fragments inductionHypothesis =>
      have split :
          layout offset (fragment :: fragments) =
            fragment.tokens offset ++ layout (offset + fragment.written.length) fragments :=
        rfl
      rw [split, List.map_append, labels_of_tokens, inductionHypothesis, List.flatMap_cons]

/-- The fragments of some whitespace. -/
def blanks (gap : List Char) : List Fragment :=
  gap.map blank

@[simp] theorem labels_blanks
    (gap : List Char) :
    (blanks gap).flatMap labels = [] := by
  simp [blanks, List.flatMap_eq_nil_iff, labels, tokens, head, nested]

@[simp] theorem written_blanks
    (gap : List Char) :
    (blanks gap).flatMap written = gap := by
  simp [blanks, List.flatMap_map, written]

/-- Fragments that give no token for themselves are whitespace. -/
theorem eq_blanks_of_heads
    {offset : Nat}
    {fragments : List Fragment}
    (none : heads offset fragments = []) :
    ∃ gap, fragments = blanks gap := by
  induction fragments generalizing offset with
  | nil => exact ⟨[], rfl⟩
  | cons fragment fragments inductionHypothesis =>
      obtain ⟨noHead, noHeads⟩ := List.append_eq_nil_iff.mp none
      obtain ⟨gap, rfl⟩ := inductionHypothesis noHeads
      cases fragment with
      | blank c => exact ⟨c :: gap, rfl⟩
      | _ => cases noHead

/-- The first token that fragments give for themselves comes after whitespace only. -/
theorem exists_of_heads
    {passed fragments : List Fragment}
    {token : Token}
    {tokens : List Token}
    (shape : heads (extent passed) fragments = token :: tokens) :
    ∃ gap fragment later,
      fragments = blanks gap ++ fragment :: later ∧
        fragment.head (extent (passed ++ blanks gap)) = some token ∧
        heads (extent (passed ++ blanks gap ++ [fragment])) later = tokens := by
  induction fragments generalizing passed with
  | nil => cases shape
  | cons fragment fragments inductionHypothesis =>
      have split :
          (fragment.head (extent passed)).toList ++
              heads (extent (passed ++ [fragment])) fragments =
            token :: tokens := by
        rw [extent_append, extent_singleton]
        exact shape
      cases isHead : fragment.head (extent passed) with
      | some first =>
          rw [isHead] at split
          cases split
          exact ⟨[], fragment, fragments, rfl, by simpa [blanks] using isHead, by simp [blanks]⟩
      | none =>
          rw [isHead] at split
          obtain ⟨gap, other, later, rfl, otherHead, laterHeads⟩ := inductionHypothesis split
          cases fragment with
          | blank c =>
              have longer : passed ++ [blank c] ++ blanks gap = passed ++ blanks (c :: gap) := by
                simp [blanks]
              rw [longer] at otherHead laterHeads
              exact ⟨c :: gap, other, later, rfl, otherHead, laterHeads⟩
          | _ => cases isHead

end Fragment

section

variable {inner : String → Except Halt (List Token)} {dialect : Dialect}

/-! ## Gaps -/

/-- Whitespace before a line comes to no tokens. -/
theorem Account.runs_blanks_append
    {gap second : List Char}
    {fragments : List Fragment}
    (blank : ∀ c ∈ gap, Unicode.isSpace c = true)
    (runs : Runs inner dialect (ofText second) (.ok fragments)) :
    Runs inner dialect (ofText (gap ++ second)) (.ok (Fragment.blanks gap ++ fragments)) := by
  induction gap with
  | nil => exact runs
  | cons c gap inductionHypothesis =>
      obtain ⟨space, spaces⟩ := List.forall_mem_cons.mp blank
      have nothing : Runs inner dialect (ofText []) (.ok []) := .ended
      exact runs_append_space space nothing (inductionHypothesis spaces)

/-- Whitespace between two lines keeps their fragments apart. -/
theorem Account.runs_append_gap
    {first gap second : List Char}
    {before after : List Fragment}
    (blank : ∀ c ∈ gap, Unicode.isSpace c = true)
    (nonempty : gap ≠ [])
    (firstRuns : Runs inner dialect (ofText first) (.ok before))
    (secondRuns : Runs inner dialect (ofText second) (.ok after)) :
    Runs inner dialect
      (ofText (first ++ (gap ++ second)))
      (.ok (before ++ (Fragment.blanks gap ++ after))) := by
  obtain ⟨c, gap, rfl⟩ := List.exists_cons_of_ne_nil nonempty
  obtain ⟨space, spaces⟩ := List.forall_mem_cons.mp blank
  have runs := runs_append_space space firstRuns (runs_blanks_append spaces secondRuns)
  simpa [resultAfter, Fragment.blanks] using runs

/-! ## The new line -/

/-- The first character of a token that a fragment gives for itself is no whitespace. -/
theorem Fragment.Sound.isSpace_head
    {fragment : Fragment}
    {offset : Nat}
    {token : Token}
    (sound : fragment.Sound inner dialect)
    (isHead : fragment.head offset = some token)
    (after : List Char) :
    (fragment.written ++ after).head?.any Unicode.isSpace = false := by
  have nonempty := List.ne_nil_of_length_pos sound.length_pos
  rw [List.head?_append_of_ne_nil _ nonempty, List.head?_eq_some_head nonempty, Option.any_some]
  have first := List.head_mem nonempty
  cases fragment with
  | blank c => cases isHead
  | symbol spelling kind => exact Symbol.isSpace_of_mem_spelling sound first
  | word text => exact sound.2 _ first
  | string delimiter parts => exact isSpace_of_isMark (isMark_of_isQuote sound.1)

namespace Account

/-- After the characters of some fragments a text is read as fragments with the tokens of others. -/
def Rereads (inner : String → Except Halt (List Token)) (dialect : Dialect)
    (written : List Fragment) (text : List Char) (fragments : List Fragment) : Prop :=
  ∃ others,
    Runs inner dialect
      (ofText (written.flatMap Fragment.written ++ text))
      (.ok (written ++ others)) ∧
    others.flatMap Fragment.labels = fragments.flatMap Fragment.labels

/-- Whitespace after fragments that stand alone adds no tokens. -/
theorem rereads_blanks
    {written : List Fragment}
    {gap : List Char}
    (blank : ∀ c ∈ gap, Unicode.isSpace c = true)
    (alone : Alone inner dialect written)
    (skipped : List Char) :
    Rereads inner dialect written gap (Fragment.blanks skipped) := by
  refine ⟨Fragment.blanks gap, ?_, by simp⟩
  by_cases empty : gap = []
  · subst gap
    simpa [Alone, Fragment.blanks] using alone
  · have nothing : Runs inner dialect (ofText []) (.ok []) := .ended
    simpa using runs_append_gap blank empty alone nothing

/-- Whitespace that no fragment comes before can be left out. -/
theorem Alone.without_blanks
    {written fragments : List Fragment}
    {skipped : List Char}
    (alone : Alone inner dialect (written ++ (Fragment.blanks skipped ++ fragments)))
    (bare : skipped = [] ∨ written = []) :
    Alone inner dialect (written ++ fragments) := by
  rcases bare with rfl | rfl
  · exact alone
  · exact alone.of_infix (List.suffix_append _ _).isInfix

/--
A fragment can be written down after whitespace, or without it where it touches what comes before it
in the line as well.
-/
theorem rereads_next
    {written later : List Fragment}
    {fragment : Fragment}
    {skipped gap text : List Char}
    (blank : ∀ c ∈ gap, Unicode.isSpace c = true)
    (alone : Alone inner dialect (written ++ (Fragment.blanks skipped ++ fragment :: later)))
    (bare : gap = [] → skipped = [] ∨ written = [])
    (continues :
      ∀ before,
        Alone inner dialect (before ++ fragment :: later) →
          Rereads inner dialect (before ++ [fragment]) text later) :
    Rereads inner dialect written (gap ++ fragment.written ++ text)
      (Fragment.blanks skipped ++ fragment :: later) := by
  by_cases empty : gap = []
  · obtain ⟨others, runs, labels⟩ := continues written (alone.without_blanks (bare empty))
    subst gap
    exact ⟨fragment :: others, by simpa using runs, by simp [labels]⟩
  · have first : Alone inner dialect written := alone.of_infix (List.infix_append [] written _)
    have second : Alone inner dialect ([] ++ (Fragment.blanks skipped ++ fragment :: later)) :=
      alone.of_infix (List.suffix_append _ _).isInfix
    obtain ⟨others, runs, labels⟩ := continues [] (second.without_blanks (Or.inr rfl))
    refine ⟨Fragment.blanks gap ++ fragment :: others, ?_, by simp [labels]⟩
    rw [List.append_assoc gap]
    exact runs_append_gap blank empty first (by simpa using runs)

end Account

/--
Fragments that stand alone after others can be spaced anew.  The others have been written down again
already, so that they touch what comes next.
-/
theorem Respaced.rereads
    {line text : List Char}
    {tokens : List Token}
    (respaced : Respaced line tokens text)
    {passed written fragments : List Fragment}
    (spells : line = (passed ++ fragments).flatMap Fragment.written)
    (heads : Fragment.heads (Fragment.extent passed) fragments = tokens)
    (alone : Alone inner dialect (written ++ fragments))
    (sound : ∀ fragment ∈ fragments, fragment.Sound inner dialect)
    (touches :
      written ≠ [] →
        ∀ follower ∈ tokens.head?,
          Fragment.extent passed ≠ follower.span.start →
            text.head?.any Unicode.isSpace = true) :
    Rereads inner dialect written text fragments := by
  induction respaced generalizing passed written fragments with
  | done blank =>
      obtain ⟨skipped, rfl⟩ := Fragment.eq_blanks_of_heads heads
      exact rereads_blanks blank (alone.of_infix (List.infix_append [] written _)) skipped
  | @next gap token tokens text blank others apart inductionHypothesis =>
      obtain ⟨skipped, fragment, later, rfl, isHead, laterHeads⟩ := Fragment.exists_of_heads heads
      have span := Fragment.span_of_head isHead
      have slice : token.span.slice line = fragment.written := by
        rw [spells, ← List.append_assoc, List.flatMap_append, List.flatMap_cons,
          ← List.append_assoc]
        exact Fragment.slice_of_head isHead
      rw [slice] at touches ⊢
      refine rereads_next blank alone ?_ ?_
      · rintro rfl
        -- The token begins with no whitespace, so what comes before it has to touch it.
        have noSpace := (sound fragment (by simp)).isSpace_head isHead text
        by_contra both
        rw [not_or] at both
        have distant : Fragment.extent passed ≠ token.span.start := by
          simpa [span, Fragment.extent] using both.1
        exact absurd (touches both.2 token rfl distant) (by simpa using noSpace)
      · intro before beforeAlone
        have stop :
            Fragment.extent (passed ++ Fragment.blanks skipped ++ [fragment]) =
              token.span.stop := by
          rw [span, Fragment.extent_append, Fragment.extent_singleton]
        refine inductionHypothesis (by simp [spells]) laterHeads ?_ ?_ ?_
        · rwa [List.append_assoc]
        · intro other member
          exact sound other (by simp [member])
        · intro _
          rwa [stop]

end

/-- A line that is spaced anew has the same tokens at other places. -/
theorem labels_of_respaced
    {dialect : Dialect}
    {text joined : String}
    {tokens : List Token}
    (fits : joined.length < Offset.limit)
    (reads : tokenize dialect text = .ok tokens)
    (respaced : Respaced text.toList (topLevel tokens) joined.toList) :
    ∃ others,
      tokenize dialect joined = .ok others ∧
        others.map Token.label = tokens.map Token.label := by
  have lineFits : text.toList.length < Offset.limit := by
    rw [String.length_toList]
    exact fits_of_tokenize reads
  rw [← @String.ofList_toList text] at reads
  obtain ⟨fragments, runs, rfl⟩ := runs_of_tokenize_ok lineFits reads
  obtain ⟨lawful, spells⟩ := lawful_of_runs (sound_ofText _) runs
  have spelled : fragments.flatMap Fragment.written = text.toList := spells
  have size : Fragment.extent fragments ≤ Offset.limit := by
    rw [Fragment.extent, spelled]
    exact Nat.le_of_lt lineFits
  rw [lawful.topLevel_layout (answers_tokenize (Nat.le_refl _)) size] at respaced
  have alone : Alone (tokenize dialect) dialect ([] ++ fragments) := by
    rwa [Alone, List.nil_append, spelled]
  obtain ⟨others, othersRun, labels⟩ :=
    @Respaced.rereads _ _ _ _ _ respaced [] [] fragments spelled.symm rfl alone lawful.sound
      (fun impossible => absurd rfl impossible)
  rw [List.flatMap_nil, List.nil_append, List.nil_append] at othersRun
  have answered := tokenize_of_runs (by rwa [String.length_toList]) othersRun
  rw [String.ofList_toList] at answered
  refine ⟨Fragment.layout 0 others, answered, ?_⟩
  rw [Fragment.labels_of_layout, Fragment.labels_of_layout, labels]

/-- A line whose last two tokens touch again, with whitespace between and after its tokens. -/
theorem labels_of_touching_word :
    ∃ others,
      tokenize .usual "?? :=\t\ttr\"\x60if\x60\"\n" = .ok others ∧
        others.map Token.label =
          [(.word, some "??"), (.createVar, none), (.word, some "tr"), (.string, some ""),
            (.ifKeyword, none)] := by
  have reads :
      tokenize .usual "??:=tr\"\x60if\x60\"" =
        .ok
          [⟨.word, ⟨0, 2⟩, some "??"⟩,
            ⟨.createVar, ⟨2, 4⟩, none⟩,
            ⟨.word, ⟨4, 6⟩, some "tr"⟩,
            ⟨.string, ⟨6, 12⟩, some ""⟩,
            ⟨.ifKeyword, ⟨8, 10⟩, none⟩] := by
    decide +kernel
  refine labels_of_respaced (by decide) reads ?_
  have spaces :
      Unicode.isSpace ' ' = true ∧ Unicode.isSpace '\t' = true ∧ Unicode.isSpace '\n' = true := by
    decide
  have string := @Respaced.done "??:=tr\"\x60if\x60\"".toList ['\n'] (by simp [spaces])
  have word := @Respaced.next _ [] ⟨.string, ⟨6, 12⟩, some ""⟩ _ _ (by simp) string (by simp)
  have symbol :=
    @Respaced.next _ ['\t', '\t'] ⟨.word, ⟨4, 6⟩, some "tr"⟩ _ _ (by simp [spaces]) word (by simp)
  have first :=
    @Respaced.next _ [' '] ⟨.createVar, ⟨2, 4⟩, none⟩ _ _ (by simp [spaces]) symbol
      (by simp [spaces])
  have whole :=
    @Respaced.next _ [] ⟨.word, ⟨0, 2⟩, some "??"⟩ _ _ (by simp) first (by simp [spaces])
  exact whole

end Brace
