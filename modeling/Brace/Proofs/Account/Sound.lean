import Mathlib.Data.List.Chain
import Brace.Proofs.Account.Basic

namespace Brace

/-!
# Sound accounts

Every account that a scan can reach is sound: its fragments are spelled as the table and the
dialect demand, no two words stand side by side, and the beginning of a spelling is one that the
matcher waits on.  From a sound account the rules lead on until the line ends, so they always
come to a result.
-/

/--
The result of tokenizing a text of some size: tidy tokens, or a fault at one of its characters.
-/
def Orderly (size : Nat) : Except Halt (List Token) → Prop
  | .ok tokens => Tidy 0 size tokens
  | .error (.fault fault) => fault.offset < size
  | .error (.breach _) => False

/-- A tokenizer for interpolations gives an orderly result for every text below some size. -/
def Answers (inner : String → Except Halt (List Token)) (size : Nat) : Prop :=
  ∀ raw : String, raw.length < size → Orderly raw.length (inner raw)

/-- Parts that can stand in a string with this delimiter. -/
def Part.Sound (inner : String → Except Halt (List Token)) (dialect : Dialect) (delimiter : Char) :
    Part → Prop
  | verbatim c => c ≠ '\\' ∧ c ≠ delimiter ∧ c ≠ interpolationMark
  | escape c decoded => Literal.decodeEscape c = some decoded
  | stray => True
  | segment raw tokens =>
      interpolationMark ∉ raw ∧
        dialect.interpolatesIn delimiter = true ∧
        inner (String.ofList raw) = .ok tokens

/-- Fragments that can stand in a line. -/
def Fragment.Sound (inner : String → Except Halt (List Token)) (dialect : Dialect) :
    Fragment → Prop
  | blank c => Unicode.isSpace c = true
  | symbol spelling kind => ⟨spelling, .token kind⟩ ∈ Symbol.table
  | word text => text ≠ [] ∧ ∀ c ∈ text, Unicode.isSpace c = false
  | string delimiter parts =>
      isQuote delimiter = true ∧ ∀ part ∈ parts, part.Sound inner dialect delimiter

/-- Of two neighbours at least one is no word. -/
def Fragment.Apart (first second : Fragment) : Prop :=
  (first.isWord && second.isWord) = false

/-- Fragments that a line can fall into. -/
structure Fragment.Lawful (inner : String → Except Halt (List Token)) (dialect : Dialect)
    (fragments : List Fragment) : Prop where
  sound : ∀ fragment ∈ fragments, fragment.Sound inner dialect
  apart : fragments.IsChain Apart

/-- A word can follow some fragments. -/
def Fragment.Admits (fragments : List Fragment) : Prop :=
  ∀ last ∈ fragments.getLast?, last.isWord = false

namespace Account

/-- What holds of the mode of every account that a scan can reach. -/
def Mode.Sound (inner : String → Except Halt (List Token)) (dialect : Dialect)
    (fragments : List Fragment) : Mode → Prop
  | plain word spelled =>
      Fragment.Admits fragments ∧
        (∀ c ∈ word, Unicode.isSpace c = false) ∧
        Symbol.pending spelled = true
  | quoted delimiter parts segment =>
      isQuote delimiter = true ∧
        (∀ part ∈ parts, part.Sound inner dialect delimiter) ∧
        ∀ raw ∈ segment, interpolationMark ∉ raw ∧ dialect.interpolatesIn delimiter = true

/-- What holds of every account that a scan can reach. -/
structure Sound (inner : String → Except Halt (List Token)) (dialect : Dialect)
    (account : Account) : Prop where
  fragments : Fragment.Lawful inner dialect account.fragments
  mode : account.mode.Sound inner dialect account.fragments

end Account

section

variable {inner : String → Except Halt (List Token)} {dialect : Dialect}

namespace Fragment

/-- One more fragment keeps fragments lawful unless it would put two words side by side. -/
theorem Lawful.concat
    {fragments : List Fragment}
    {fragment : Fragment}
    (lawful : Lawful inner dialect fragments)
    (sound : fragment.Sound inner dialect)
    (separate : Admits fragments ∨ fragment.isWord = false) :
    Lawful inner dialect (fragments ++ [fragment]) where
  sound other member := by
    rcases List.mem_append.mp member with before | isLast
    · exact lawful.sound other before
    · rw [List.mem_singleton] at isLast
      subst other
      exact sound
  apart := by
    refine List.isChain_append.mpr ⟨lawful.apart, .singleton fragment, ?_⟩
    intro last isLast next isNext
    cases isNext
    rcases separate with admits | noWord
    · simp [Apart, admits last isLast]
    · simp [Apart, noWord]

theorem Lawful.tail
    {fragment : Fragment}
    {fragments : List Fragment}
    (lawful : Lawful inner dialect (fragment :: fragments)) :
    Lawful inner dialect fragments where
  sound other member := lawful.sound other (List.mem_cons_of_mem fragment member)
  apart := lawful.apart.tail

/-- The text of a word keeps fragments lawful where a word can follow. -/
theorem Lawful.concat_wordOf
    {fragments : List Fragment}
    {word : List Char}
    (lawful : Lawful inner dialect fragments)
    (admits : Admits fragments)
    (solid : ∀ c ∈ word, Unicode.isSpace c = false) :
    Lawful inner dialect (fragments ++ wordOf word) := by
  unfold wordOf
  split
  · simpa using lawful
  · rename_i nonempty
    exact lawful.concat ⟨nonempty, solid⟩ (Or.inl admits)

theorem admits_concat
    {fragments : List Fragment}
    {fragment : Fragment}
    (noWord : fragment.isWord = false) :
    Admits (fragments ++ [fragment]) := by
  intro last isLast
  rw [List.getLast?_concat] at isLast
  cases isLast
  exact noWord

/-- The characters of a spelling are no whitespace. -/
theorem isSpace_of_mem_pending
    {spelled : List Char}
    {c : Char}
    (waits : Symbol.pending spelled = true)
    (member : c ∈ spelled) :
    Unicode.isSpace c = false := by
  obtain ⟨symbol, extendable⟩ :=
    List.exists_mem_of_ne_nil _ (Symbol.extending_ne_nil_of_pending waits)
  obtain ⟨inTable, begins⟩ := Symbol.mem_extending.mp extendable
  exact Symbol.isSpace_of_mem_spelling inTable (begins.subset member)

end Fragment

namespace Account

theorem sound_ofText
    (text : List Char) :
    Sound inner dialect (ofText text) where
  fragments := ⟨by simp [ofText], .nil⟩
  mode := ⟨by simp [ofText, Fragment.Admits], by simp, Symbol.pending_nil⟩

/-- Reading on keeps an account sound. -/
theorem Sound.of_moves
    {account after : Account}
    (sound : Sound inner dialect account)
    (moves : Moves inner dialect account after) :
    Sound inner dialect after := by
  obtain ⟨lawful, mode⟩ := sound
  cases moves with
  | blank space =>
      obtain ⟨admits, solid, _⟩ := mode
      exact
        ⟨(lawful.concat_wordOf admits solid).concat space (Or.inr rfl),
          Fragment.admits_concat rfl, by simp, Symbol.pending_nil⟩
  | unknown space refused =>
      obtain ⟨admits, solid, _⟩ := mode
      refine ⟨lawful, admits, ?_, Symbol.pending_nil⟩
      intro other member
      rcases List.mem_append.mp member with before | isLast
      · exact solid other before
      · rw [List.mem_singleton] at isLast
        exact isLast ▸ space
  | grown opens waits =>
      obtain ⟨admits, solid, _⟩ := mode
      exact ⟨lawful, admits, solid, waits⟩
  | token member decided =>
      obtain ⟨admits, solid, _⟩ := mode
      exact
        ⟨(lawful.concat_wordOf admits solid).concat member (Or.inr rfl),
          Fragment.admits_concat rfl, by simp, Symbol.pending_nil⟩
  | quote quote =>
      obtain ⟨admits, solid, _⟩ := mode
      exact ⟨lawful.concat_wordOf admits solid, quote, by simp, by simp⟩
  | escaped mark =>
      obtain ⟨admits, solid, _⟩ := mode
      refine ⟨lawful, admits, ?_, Symbol.pending_nil⟩
      intro other member
      simp only [List.mem_append, List.mem_cons, List.not_mem_nil, or_false] at member
      rcases member with before | rfl | rfl
      · exact solid other before
      · decide
      · exact isSpace_of_isMark mark
  | settled nonempty stops decided =>
      obtain ⟨admits, solid, _⟩ := mode
      exact
        ⟨(lawful.concat_wordOf admits solid).concat
            (Symbol.mem_table_of_verdict decided) (Or.inr rfl),
          Fragment.admits_concat rfl, by simp, Symbol.pending_nil⟩
  | abandoned nonempty stops undecided =>
      obtain ⟨admits, solid, waits⟩ := mode
      refine ⟨lawful, admits, ?_, Symbol.pending_nil⟩
      intro other member
      rcases List.mem_append.mp member with before | inSpelled
      · exact solid other before
      · exact Fragment.isSpace_of_mem_pending waits inSpelled
  | closed =>
      obtain ⟨quote, parts, _⟩ := mode
      exact
        ⟨lawful.concat ⟨quote, parts⟩ (Or.inr rfl),
          Fragment.admits_concat rfl, by simp, Symbol.pending_nil⟩
  | escape decodes =>
      obtain ⟨quote, parts, _⟩ := mode
      refine ⟨lawful, quote, ?_, by simp⟩
      simpa [or_imp, forall_and] using ⟨parts, decodes⟩
  | stray undecoded =>
      obtain ⟨quote, parts, _⟩ := mode
      refine ⟨lawful, quote, ?_, by simp⟩
      simpa [or_imp, forall_and, Part.Sound] using parts
  | verbatim noBackslash noDelimiter noMark =>
      obtain ⟨quote, parts, _⟩ := mode
      refine ⟨lawful, quote, ?_, by simp⟩
      simpa [or_imp, forall_and] using ⟨parts, noBackslash, noDelimiter, noMark⟩
  | opened interpolates =>
      obtain ⟨quote, parts, _⟩ := mode
      exact ⟨lawful, quote, parts, by simp [interpolates]⟩
  | gathered noMark =>
      obtain ⟨quote, parts, segment⟩ := mode
      obtain ⟨noMarks, interpolates⟩ := segment _ rfl
      exact ⟨lawful, quote, parts, by simp [noMarks, interpolates, Ne.symm noMark]⟩
  | tokenized reads =>
      obtain ⟨quote, parts, segment⟩ := mode
      obtain ⟨noMarks, interpolates⟩ := segment _ rfl
      refine ⟨lawful, quote, ?_, by simp⟩
      simpa [or_imp, forall_and] using ⟨parts, noMarks, interpolates, reads⟩

end Account

end

end Brace
