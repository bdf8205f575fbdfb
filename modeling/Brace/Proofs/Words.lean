import Brace.Proofs.Forming
import Brace.Proofs.Validity

namespace Brace

/-!
# Words of a line

A line is one word if its text follows the grammar of words, and only then; and every word that a
line or an interpolation in it falls into follows the grammar.
-/

open Account

/-! ## Lines of one word -/

section

variable {inner : String → Except Halt (List Token)} {dialect : Dialect}

namespace Account

/-- Something other than the text of a word has been met. -/
def MetOther (account : Account) : Prop :=
  (∃ fragment ∈ account.fragments, fragment.isWord = false) ∨
    ∃ delimiter parts segment, account.mode = .quoted delimiter parts segment

/-- What has been met stays in the account. -/
theorem MetOther.of_moves
    {account after : Account}
    (met : account.MetOther)
    (moves : Moves inner dialect account after) :
    after.MetOther := by
  rcases met with ⟨fragment, member, other⟩ | ⟨delimiter, parts, segment, quoted⟩
  · refine Or.inl ⟨fragment, ?_, other⟩
    cases moves with
    | _ => simp_all
  · cases moves with
    | @closed fragments delimiter parts rest =>
        exact Or.inl ⟨.string delimiter parts, by simp, rfl⟩
    | escape decodes => exact Or.inr ⟨_, _, _, rfl⟩
    | stray undecoded => exact Or.inr ⟨_, _, _, rfl⟩
    | opened interpolates => exact Or.inr ⟨_, _, _, rfl⟩
    | verbatim noBackslash noDelimiter noMark => exact Or.inr ⟨_, _, _, rfl⟩
    | gathered noMark => exact Or.inr ⟨_, _, _, rfl⟩
    | tokenized reads => exact Or.inr ⟨_, _, _, rfl⟩
    | _ => cases quoted

/-- What has been met is there at the end of the line. -/
theorem MetOther.exists_of_runs
    {account : Account}
    {fragments : List Fragment}
    (met : account.MetOther)
    (runs : Runs inner dialect account (.ok fragments)) :
    ∃ fragment ∈ fragments, fragment.isWord = false := by
  generalize shape : Except.ok fragments = result at runs
  induction runs with
  | ended =>
      cases shape
      rcases met with ⟨fragment, member, other⟩ | ⟨delimiter, parts, segment, quoted⟩
      · exact ⟨fragment, List.mem_append_left _ member, other⟩
      · cases quoted
  | failed fails => cases shape
  | moved moves runs inductionHypothesis => exact inductionHypothesis (met.of_moves moves) shape

end Account

namespace Forms

variable {line word spelled rest : List Char}

/-- Reading on either goes on with the word, or it leaves both the word and the grammar. -/
theorem of_moves
    {after : Account}
    (forms : Forms line word spelled rest)
    (moves : Moves inner dialect ⟨[], .plain word spelled, rest⟩ after) :
    (∃ longer begun left,
        after = ⟨[], .plain longer begun, left⟩ ∧ Forms line longer begun left) ∨
      (¬ Wordlike line ∧ after.MetOther) := by
  cases moves with
  | @blank fragments word c rest space =>
      right
      refine ⟨fun wordlike => ?_, Or.inl ⟨.blank c, by simp, rfl⟩⟩
      have solid := (wordlike.solid c (by simp [forms.whole])).1
      rw [space] at solid
      cases solid
  | unknown space refused => exact Or.inl ⟨_, _, _, rfl, forms.unknown space refused⟩
  | grown opens waits => exact Or.inl ⟨_, _, _, rfl, forms.grown opens waits⟩
  | @token fragments word spelled c kind rest member decided =>
      right
      exact
        ⟨forms.not_wordlike_of_token member decided,
          Or.inl ⟨.symbol (spelled ++ [c]) kind, by simp, rfl⟩⟩
  | quote quote =>
      right
      exact
        ⟨forms.not_wordlike_of_isMark (isMark_of_isQuote quote), Or.inr ⟨_, _, _, rfl⟩⟩
  | escaped mark => exact Or.inl ⟨_, _, _, rfl, forms.escaping mark⟩
  | @settled fragments word spelled c kind rest nonempty stops decided =>
      right
      refine ⟨forms.not_wordlike_of_verdict ?_ decided, Or.inl ⟨.symbol spelled kind, by simp, rfl⟩⟩
      intro d isNext
      cases isNext
      exact stops
  | @abandoned fragments word spelled c rest nonempty stops undecided =>
      left
      refine ⟨_, _, _, rfl, forms.abandoned ?_ undecided⟩
      intro d isNext
      cases isNext
      exact stops

/-- The end of the line makes a word of what is there unless that comes to a token. -/
theorem ending_eq_iff
    (forms : Forms line word spelled [])
    (nonempty : line ≠ []) :
    ending word spelled = [.word line] ↔ Wordlike line := by
  cases decided : Symbol.verdict spelled none with
  | some kind =>
      have other : ending word spelled ≠ [.word line] := by
        intro same
        have member : Fragment.symbol spelled kind ∈ ending word spelled := by
          simp [ending, decided]
        rw [same] at member
        simp at member
      exact iff_of_false other (forms.not_wordlike_of_verdict (by simp) decided)
  | none =>
      have whole : word ++ spelled = line := by
        simpa using forms.whole.symm
      have same : ending word spelled = [.word line] := by
        simp only [ending, decided, whole, Fragment.wordOf, if_neg nonempty]
      exact iff_of_true same ((forms.abandoned (by simp) decided).wordlike nonempty)

/-- A line that is read as one word so far is one word if it follows the grammar, and only then. -/
theorem result_eq_iff
    {result : Except Fault (List Fragment)}
    (forms : Forms line word spelled rest)
    (nonempty : line ≠ [])
    (runs : Runs inner dialect ⟨[], .plain word spelled, rest⟩ result) :
    result = .ok [.word line] ↔ Wordlike line := by
  generalize shape : Account.mk [] (.plain word spelled) rest = account at runs
  induction runs generalizing word spelled rest with
  | ended =>
      cases shape
      rw [List.nil_append, Except.ok.injEq]
      exact forms.ending_eq_iff nonempty
  | failed fails =>
      subst shape
      cases fails with
      | outside => simp [forms.not_wordlike_of_isMark (by decide)]
  | moved moves runs inductionHypothesis =>
      subst shape
      rcases forms.of_moves moves with ⟨longer, begun, left, rfl, forms⟩ | ⟨noWord, met⟩
      · exact inductionHypothesis forms rfl
      · refine iff_of_false ?_ noWord
        rintro rfl
        obtain ⟨fragment, member, other⟩ := met.exists_of_runs runs
        rw [List.mem_singleton] at member
        subst member
        cases other

end Forms

/-! ## Words of all lines -/

/-- The words that a line falls into follow the grammar, for each of them stands alone. -/
theorem wordlike_of_runs
    {line word : List Char}
    {fragments : List Fragment}
    (runs : Runs inner dialect (ofText line) (.ok fragments))
    (member : .word word ∈ fragments) :
    Wordlike word := by
  have sound := @sound_ofText inner dialect line
  have nonempty : word ≠ [] := ((lawful_of_runs sound runs).1.sound _ member).1
  obtain ⟨before, after, rfl⟩ := List.append_of_mem member
  have inside : [Fragment.word word] <:+: before ++ .word word :: after :=
    ⟨before, after, by simp⟩
  have alone := (detached_ofText line).alone_of_runs sound runs inside
  simp only [Alone, List.flatMap_singleton, Fragment.written] at alone
  exact ((Forms.start word).result_eq_iff nonempty alone).mp rfl

end

/-- A text that can be tokenized falls into lawful fragments, which spell it and give its tokens. -/
theorem exists_fragments_of_tokenize
    {dialect : Dialect}
    {text : String}
    {tokens : List Token}
    (reads : tokenize dialect text = .ok tokens) :
    ∃ fragments,
      Runs (tokenize dialect) dialect (ofText text.toList) (.ok fragments) ∧
        Fragment.Lawful (tokenize dialect) dialect fragments ∧
        fragments.flatMap Fragment.written = text.toList ∧
        tokens = Fragment.layout 0 fragments := by
  have fits : text.toList.length < Offset.limit := by
    rw [String.length_toList]
    exact fits_of_tokenize reads
  rw [← @String.ofList_toList text] at reads
  obtain ⟨fragments, runs, laidOut⟩ := runs_of_tokenize_ok fits reads
  obtain ⟨lawful, spells⟩ := lawful_of_runs (sound_ofText _) runs
  exact ⟨fragments, runs, lawful, spells, laidOut⟩

/-- Every word that tokenizing gives follows the grammar, in interpolations as well. -/
theorem wordlike_of_tokenize
    {dialect : Dialect}
    {text : String}
    {tokens : List Token}
    {token : Token}
    (reads : tokenize dialect text = .ok tokens)
    (member : token ∈ tokens)
    (isWord : token.kind = .word) :
    ∃ content, token.content = some content ∧ Wordlike content.toList := by
  obtain ⟨fragments, runs, lawful, spelled, rfl⟩ := exists_fragments_of_tokenize reads
  obtain ⟨before, fragment, after, shape, inFragment⟩ := mem_spread.mp member
  have inside : fragment ∈ fragments := by
    simp [shape]
  have fragmentSound := lawful.sound fragment inside
  cases fragment with
  | blank c => cases inFragment
  | symbol spelling kind =>
      obtain rfl := List.mem_singleton.mp inFragment
      have noContent := (Symbol.plain_of_token fragmentSound).2
      cases isWord
      cases noContent
  | word word =>
      obtain rfl := List.mem_singleton.mp inFragment
      refine ⟨String.ofList word, rfl, ?_⟩
      rw [String.toList_ofList]
      exact wordlike_of_runs runs inside
  | string delimiter parts =>
      rcases List.mem_cons.mp inFragment with rfl | nested
      · cases isWord
      · obtain ⟨raw, others, found, distance, isPart, isFound, rfl⟩ :=
          Part.exists_segment_of_mem_layout nested
        have shorter : raw.length < text.length := by
          have inString := Part.length_written_le isPart
          have inLine := Fragment.length_written_le inside
          rw [Fragment.extent, spelled, String.length_toList] at inLine
          simp only [Fragment.written, Part.written, Part.extent, List.length_append,
            List.length_cons] at inString inLine
          omega
        have foundWord : found.kind = .word := isWord
        obtain ⟨content, same, wordlike⟩ :=
          wordlike_of_tokenize (fragmentSound.2 _ isPart).2.2 isFound foundWord
        exact ⟨content, same, wordlike⟩
termination_by text.length

/--
A text that fits the offsets is tokenized to a single word with all of it exactly if it follows the
grammar of words; and every word that tokenizing a text gives follows the grammar.
-/
theorem tokenize_eq_word_iff
    {dialect : Dialect}
    {text : String} :
    (text.length < Offset.limit →
        (tokenize dialect text = .ok [⟨.word, ⟨0, text.length⟩, some text⟩] ↔
          Wordlike text.toList)) ∧
      ∀ tokens,
        tokenize dialect text = .ok tokens →
          ∀ token ∈ tokens,
            token.kind = .word →
              ∃ content, token.content = some content ∧ Wordlike content.toList := by
  refine ⟨fun fits => ⟨fun reads => ?_, fun wordlike => ?_⟩, ?_⟩
  · obtain ⟨content, same, wordlike⟩ :=
      wordlike_of_tokenize reads (List.mem_singleton.mpr rfl) rfl
    cases same
    exact wordlike
  · rw [← String.length_toList] at fits ⊢
    obtain ⟨result, runs, same⟩ := @exists_runs_tokenize dialect text.toList fits
    have whole := ((Forms.start text.toList).result_eq_iff wordlike.nonempty runs).mpr wordlike
    rw [String.ofList_toList, whole] at same
    rw [same]
    simp [answer, Fragment.tokens, Fragment.head, Fragment.nested]
  · intro tokens reads token member isWord
    exact wordlike_of_tokenize reads member isWord

/-- A single word with marks and question marks, and the words of a line with an interpolation. -/
theorem tokenize_eq_word_iff_mixed :
    Wordlike "??\\'x_if&".toList ∧ Wordlike "\\\\\"".toList ∧ Wordlike "tr????".toList := by
  obtain ⟨single, -⟩ := @tokenize_eq_word_iff .usual "??\\'x_if&"
  obtain ⟨-, words⟩ := @tokenize_eq_word_iff .usual "\\\\\" \"\x60if tr????\x60\"?"
  have reads :
      tokenize .usual "\\\\\" \"\x60if tr????\x60\"?" =
        .ok
          [⟨.word, ⟨0, 3⟩, some "\\\\\""⟩, ⟨.string, ⟨4, 17⟩, some ""⟩, ⟨.ifKeyword, ⟨6, 8⟩, none⟩,
            ⟨.word, ⟨9, 15⟩, some "tr????"⟩, ⟨.questionMark, ⟨17, 18⟩, none⟩] := by
    decide +kernel
  refine ⟨(single (by decide)).mp (by decide +kernel), ?_, ?_⟩
  · obtain ⟨content, same, wordlike⟩ := words _ reads ⟨.word, ⟨0, 3⟩, some "\\\\\""⟩ (by simp) rfl
    cases same
    exact wordlike
  · obtain ⟨content, same, wordlike⟩ := words _ reads ⟨.word, ⟨9, 15⟩, some "tr????"⟩ (by simp) rfl
    cases same
    exact wordlike

end Brace
