import Brace.Matcher
import Brace.Unicode.Space

namespace Brace

/-!
# Theory of the symbols

The matcher keeps the symbols that the characters read so far can still become.  Here that set is
described by the characters alone, as `Symbol.extending`, and the facts about the table are
collected that the scan of a line rests on: which characters open a string, which spellings a
backslash begins, and that the spelling of a token holds neither of these nor whitespace.
-/

/-- Whether a character opens a string. -/
def isQuote (c : Char) : Bool :=
  c = '\'' || c = '"'

/--
Whether a backslash before a character takes its effect away: a quote or the interpolation mark.
-/
def isMark (c : Char) : Bool :=
  isQuote c || c = interpolationMark

/-- Whether a character can stand in the spelling of a token. -/
def isPlain (c : Char) : Bool :=
  !isMark c && c != '\\' && !Unicode.isSpace c

theorem isMark_of_isQuote
    {c : Char}
    (quote : isQuote c = true) :
    isMark c = true := by
  simp [isMark, quote]

theorem ne_interpolationMark_of_isQuote
    {c : Char}
    (quote : isQuote c = true) :
    c ≠ interpolationMark := by
  rintro rfl
  exact absurd quote (by decide)

theorem ne_backslash_of_isMark
    {c : Char}
    (mark : isMark c = true) :
    c ≠ '\\' := by
  rintro rfl
  exact absurd mark (by decide)

theorem interpolationMark_ne_backslash : interpolationMark ≠ '\\' := by
  decide

namespace Unicode

/-- The code points of whitespace. -/
def spacePoints : List Nat :=
  [0x09, 0x0A, 0x0B, 0x0C, 0x0D, 0x20, 0x85, 0xA0, 0x1680, 0x2000, 0x2001, 0x2002, 0x2003, 0x2004,
    0x2005, 0x2006, 0x2007, 0x2008, 0x2009, 0x200A, 0x2028, 0x2029, 0x202F, 0x205F, 0x3000]

theorem toNat_mem_spacePoints
    {c : Char}
    (space : isSpace c = true) :
    c.toNat ∈ spacePoints := by
  simp only [isSpace, Bool.or_eq_true, Bool.and_eq_true, decide_eq_true_eq] at space
  simp only [spacePoints, List.mem_cons, List.not_mem_nil, or_false]
  omega

/-- No code point of whitespace lies in the ranges of the alphanumeric characters. -/
theorem lies_alphanumerics_of_mem_spacePoints :
    ∀ point ∈ spacePoints, CodePointSet.lies point alphanumerics.ranges = false := by
  decide +kernel

end Unicode

/-- No whitespace character stands in a name. -/
theorem isWordChar_of_isSpace
    {c : Char}
    (space : Unicode.isSpace c = true) :
    isWordChar c = false := by
  have point := Unicode.toNat_mem_spacePoints space
  have letter : Unicode.isAlphanumeric c = false :=
    Unicode.lies_alphanumerics_of_mem_spacePoints c.toNat point
  have underscore : c ≠ '_' := by
    rintro rfl
    exact absurd point (by decide)
  simp [isWordChar, letter, underscore]

theorem isSpace_of_isMark
    {c : Char}
    (mark : isMark c = true) :
    Unicode.isSpace c = false := by
  simp only [isMark, isQuote, Bool.or_eq_true, decide_eq_true_eq] at mark
  rcases mark with (rfl | rfl) | rfl <;> decide

theorem isMark_of_isSpace
    {c : Char}
    (space : Unicode.isSpace c = true) :
    isMark c = false := by
  cases mark : isMark c with
  | false => rfl
  | true =>
      rw [isSpace_of_isMark mark] at space
      cases space

namespace Symbol

/-- The symbols whose spelling begins with some characters, in the order of the table. -/
def extending (spelled : List Char) : List Symbol :=
  table.filter fun symbol => spelled.isPrefixOf symbol.spelling

/--
Whether the matcher keeps waiting on some characters: they begin a spelling, and are not
themselves the only spelling that they begin, unless that is a keyword.
-/
def pending (spelled : List Char) : Bool :=
  match extending spelled with
  | [] => false
  | [only] => only.isKeyword || only.spelling != spelled
  | _ => true

/-- The kind that some characters spell before `next`, if they spell a token there. -/
def verdict (spelled : List Char) (next : Option Char) : Option Kind :=
  match find? spelled with
  | some ⟨spelling, .token kind⟩ =>
      if isKeyword ⟨spelling, .token kind⟩ && next.any isWordChar then none else some kind
  | _ => none

theorem mem_extending
    {spelled : List Char}
    {symbol : Symbol} :
    symbol ∈ extending spelled ↔ symbol ∈ table ∧ spelled <+: symbol.spelling := by
  simp [extending, List.isPrefixOf_iff_prefix]

theorem mem_table_of_sole
    {spelled : List Char}
    {symbol : Symbol}
    (sole : extending spelled = [symbol]) :
    symbol ∈ table := by
  have extended : symbol ∈ extending spelled := by
    rw [sole]
    exact List.mem_singleton.mpr rfl
  exact (mem_extending.mp extended).1

/-- The matcher narrows its candidates to those that extend one more character. -/
theorem narrow_extending
    {spelled : List Char}
    {c : Char} :
    Matcher.narrow (extending spelled) spelled.length c = extending (spelled ++ [c]) := by
  unfold Matcher.narrow extending
  rw [List.filter_filter]
  refine List.filter_congr ?_
  intro symbol _
  rw [Bool.eq_iff_iff]
  simp only [Bool.and_eq_true, beq_iff_eq, List.isPrefixOf_iff_prefix]
  constructor
  · rintro ⟨next, rest, shape⟩
    rw [← shape, List.getElem?_append_right (Nat.le_refl _), Nat.sub_self] at next
    cases rest with
    | nil => cases next
    | cons first rest =>
        cases next
        exact ⟨rest, by simp [← shape]⟩
  · rintro ⟨rest, shape⟩
    exact ⟨by simp [← shape], c :: rest, by simp [← shape]⟩

theorem spelling_ne_nil
    {symbol : Symbol}
    (member : symbol ∈ table) :
    symbol.spelling ≠ [] := by
  have all : ∀ symbol ∈ table, symbol.spelling ≠ [] := by
    decide
  exact all symbol member

/-- The symbols that begin with a character are those that extend it. -/
theorem startingWith_eq
    {c : Char} :
    startingWith c = extending [c] := by
  unfold startingWith extending
  refine List.filter_congr ?_
  intro symbol _
  cases symbol.spelling with
  | nil => rfl
  | cons first rest =>
      rw [Bool.eq_iff_iff]
      simpa [List.isPrefixOf] using eq_comm

/-- A symbol is a keyword when its first character is a word character. -/
theorem isKeyword_of_mem_extending
    {spelled : List Char}
    {c : Char}
    {symbol : Symbol}
    (member : symbol ∈ extending (c :: spelled)) :
    symbol.isKeyword = isWordChar c := by
  obtain ⟨_, rest, shape⟩ := mem_extending.mp member
  simp [isKeyword, ← shape]

/--
After a word character a word character opens nothing; else the symbols that extend it are open.
-/
theorem openings_eq
    {c : Char}
    {prev : Option Char} :
    Matcher.openings c prev =
      if isWordChar c && prev.any isWordChar then [] else extending [c] := by
  unfold Matcher.openings
  rw [startingWith_eq]
  split
  · rename_i barred
    rw [List.filter_eq_nil_iff]
    intro symbol member
    simp_all [isKeyword_of_mem_extending member]
  · rename_i free
    rw [List.filter_eq_self]
    intro symbol member
    rw [isKeyword_of_mem_extending member]
    cases letter : isWordChar c with
    | false => rfl
    | true => simpa [letter] using free

theorem spelling_injective
    {first second : Symbol}
    (firstMember : first ∈ table)
    (secondMember : second ∈ table)
    (same : first.spelling = second.spelling) :
    first = second := by
  have all :
      ∀ first ∈ table, ∀ second ∈ table, first.spelling = second.spelling → first = second := by
    decide
  exact all first firstMember second secondMember same

theorem find?_eq_some_iff
    {spelled : List Char}
    {symbol : Symbol} :
    find? spelled = some symbol ↔ symbol ∈ table ∧ symbol.spelling = spelled := by
  constructor
  · intro found
    exact ⟨List.mem_of_find?_eq_some found, by simpa using List.find?_some found⟩
  · rintro ⟨member, spells⟩
    cases found : find? spelled with
    | none =>
        have absent := List.find?_eq_none.mp found symbol member
        exact absurd spells (by simpa using absent)
    | some other =>
        have otherSpells : other.spelling = spelled := by
          simpa using List.find?_some found
        rw [spelling_injective (List.mem_of_find?_eq_some found) member
          (otherSpells.trans spells.symm)]

/-! ## What the table holds -/

/-- What is checked of the beginnings of all spellings holds of all characters that begin one. -/
theorem forall_of_extending_ne_nil
    {spelled : List Char}
    (property : List Char → Bool)
    (checked :
      ∀ symbol ∈ table, ∀ size < 4, property (symbol.spelling.take size) = true)
    (extendable : extending spelled ≠ []) :
    property spelled = true := by
  obtain ⟨symbol, member⟩ := List.exists_mem_of_ne_nil _ extendable
  obtain ⟨inTable, begins⟩ := mem_extending.mp member
  have short : ∀ symbol ∈ table, symbol.spelling.length < 4 := by
    decide
  have size : spelled.length < 4 :=
    Nat.lt_of_le_of_lt begins.length_le (short symbol inTable)
  rw [List.prefix_iff_eq_take.mp begins]
  exact checked symbol inTable spelled.length size

/-- The spelling of a token is plain, and the token is no string and no word. -/
theorem plain_of_token
    {spelling : List Char}
    {kind : Kind}
    (member : ⟨spelling, .token kind⟩ ∈ table) :
    (∀ c ∈ spelling, isPlain c = true) ∧ kind.hasContent = false := by
  have all :
      ∀ symbol ∈ table,
        (match symbol.meaning with
          | .token kind => symbol.spelling.all isPlain && !kind.hasContent
          | _ => true) = true := by
    decide
  simpa using all _ member

theorem quote_mem_table_iff
    {spelling : List Char}
    {delimiter : Char} :
    ⟨spelling, .quote delimiter⟩ ∈ table ↔ spelling = [delimiter] ∧ isQuote delimiter = true := by
  simp [table, isQuote]
  grind

theorem interpolation_mem_table_iff
    {spelling : List Char} :
    ⟨spelling, .interpolation⟩ ∈ table ↔ spelling = [interpolationMark] := by
  simp [table]

/-- The symbols that take the effect of a character away are a backslash with a mark. -/
theorem escaped_mem_table_iff
    {spelling : List Char} :
    ⟨spelling, .escaped⟩ ∈ table ↔ ∃ c, isMark c = true ∧ spelling = ['\\', c] := by
  simp [table, isMark, isQuote]
  grind

/-- A spelling holds no whitespace. -/
theorem isSpace_of_mem_spelling
    {symbol : Symbol}
    {c : Char}
    (member : symbol ∈ table)
    (inside : c ∈ symbol.spelling) :
    Unicode.isSpace c = false := by
  have all : (table.all fun symbol => symbol.spelling.all fun c => !Unicode.isSpace c) = true := by
    decide
  have solid := List.all_eq_true.mp (List.all_eq_true.mp all symbol member) c inside
  rwa [Bool.not_eq_true'] at solid

/-- Nothing extends characters that end in whitespace. -/
theorem extending_eq_nil_of_isSpace
    {spelled : List Char}
    {c : Char}
    (space : Unicode.isSpace c = true) :
    extending (spelled ++ [c]) = [] := by
  rw [List.eq_nil_iff_forall_not_mem]
  intro symbol member
  obtain ⟨inTable, begins⟩ := mem_extending.mp member
  have inside : c ∈ symbol.spelling := begins.subset (by simp)
  simp [isSpace_of_mem_spelling inTable inside] at space

theorem extending_of_isQuote
    {c : Char}
    (quote : isQuote c = true) :
    extending [c] = [⟨[c], .quote c⟩] := by
  simp only [isQuote, Bool.or_eq_true, decide_eq_true_eq] at quote
  rcases quote with rfl | rfl <;> decide

theorem extending_interpolationMark :
    extending [interpolationMark] = [⟨[interpolationMark], .interpolation⟩] := by
  decide

theorem extending_of_isMark
    {c : Char}
    (mark : isMark c = true) :
    extending ['\\', c] = [⟨['\\', c], .escaped⟩] := by
  simp only [isMark, isQuote, Bool.or_eq_true, decide_eq_true_eq] at mark
  rcases mark with (rfl | rfl) | rfl <;> decide

theorem isKeyword_backslash
    {spelled : List Char}
    {meaning : Meaning} :
    isKeyword ⟨'\\' :: spelled, meaning⟩ = false := by
  have letter : isWordChar '\\' = false := by
    decide
  simp [isKeyword, letter]

theorem isWordChar_of_isMark
    {c : Char}
    (mark : isMark c = true) :
    isWordChar c = false := by
  simp only [isMark, isQuote, Bool.or_eq_true, decide_eq_true_eq] at mark
  rcases mark with (rfl | rfl) | rfl <;> decide

/-- A character that opens nothing and is no whitespace is plain. -/
theorem isPlain_of_refused
    {c : Char}
    {prev : Option Char}
    (space : Unicode.isSpace c = false)
    (refused : Matcher.openings c prev = []) :
    isPlain c = true := by
  rw [openings_eq] at refused
  have letter : isWordChar '\\' = false := by
    decide
  cases mark : isMark c with
  | false =>
      by_cases backslash : c = '\\'
      · subst c
        simp only [letter, Bool.false_and, Bool.false_eq_true, ↓reduceIte] at refused
        exact absurd refused (by decide)
      · simp [isPlain, mark, backslash, space]
  | true =>
      simp only [isWordChar_of_isMark mark, Bool.false_and, Bool.false_eq_true, ↓reduceIte]
        at refused
      simp only [isMark, isQuote, Bool.or_eq_true, decide_eq_true_eq] at mark
      rcases mark with (rfl | rfl) | rfl <;> exact absurd refused (by decide)

/-! ## Characters that are waited on -/

theorem pending_nil : pending [] = true := by
  decide

/-- No characters spell no token. -/
@[simp] theorem verdict_nil
    (next : Option Char) :
    verdict [] next = none := rfl

theorem extending_ne_nil_of_pending
    {spelled : List Char}
    (waits : pending spelled = true) :
    extending spelled ≠ [] := by
  intro nothing
  simp [pending, nothing] at waits

/-- Characters that are waited on are a backslash, or all of them are plain. -/
theorem plain_of_pending
    {spelled : List Char}
    (waits : pending spelled = true) :
    spelled = ['\\'] ∨ ∀ c ∈ spelled, isPlain c = true := by
  have checked :
      ∀ symbol ∈ table, ∀ size < 4,
        (!pending (symbol.spelling.take size) || symbol.spelling.take size == ['\\']
          || (symbol.spelling.take size).all isPlain) = true := by
    decide +kernel
  have holds :=
    forall_of_extending_ne_nil
      (fun spelled => !pending spelled || spelled == ['\\'] || spelled.all isPlain)
      checked
      (extending_ne_nil_of_pending waits)
  simpa [waits] using holds

/-- A spelling that is waited on is the spelling of a token. -/
theorem token_of_pending
    {spelled : List Char}
    {meaning : Meaning}
    (member : ⟨spelled, meaning⟩ ∈ table)
    (waits : pending spelled = true) :
    ∃ kind, meaning = .token kind := by
  have all :
      ∀ symbol ∈ table,
        (match symbol.meaning with
          | .token _ => true
          | _ => !pending symbol.spelling) = true := by
    decide +kernel
  have holds := all _ member
  cases meaning with
  | token kind => exact ⟨kind, rfl⟩
  | quote delimiter => simp [waits] at holds
  | interpolation => simp [waits] at holds
  | escaped => simp [waits] at holds

/-- Characters that can be extended but are not waited on are a spelling, and no other one. -/
theorem eq_singleton_of_not_pending
    {spelled : List Char}
    (extendable : extending spelled ≠ [])
    (decided : pending spelled = false) :
    ∃ meaning,
      extending spelled = [⟨spelled, meaning⟩] ∧ isKeyword ⟨spelled, meaning⟩ = false := by
  unfold pending at decided
  split at decided
  · contradiction
  · rename_i only sole
    simp only [Bool.or_eq_false_iff, bne_eq_false_iff_eq] at decided
    obtain ⟨other, spells⟩ := decided
    subst spells
    exact ⟨only.meaning, sole, other⟩
  · contradiction

/-- A spelling that is not waited on is all that its characters can become. -/
theorem extending_of_completed
    {spelled : List Char}
    {meaning : Meaning}
    (member : ⟨spelled, meaning⟩ ∈ table)
    (decided : pending spelled = false) :
    extending spelled = [⟨spelled, meaning⟩] ∧ isKeyword ⟨spelled, meaning⟩ = false := by
  have extended : ⟨spelled, meaning⟩ ∈ extending spelled :=
    mem_extending.mpr ⟨member, List.prefix_refl spelled⟩
  obtain ⟨other, sole, noKeyword⟩ :=
    eq_singleton_of_not_pending (List.ne_nil_of_mem extended) decided
  rw [sole, List.mem_singleton] at extended
  cases extended
  exact ⟨sole, noKeyword⟩

/-- A verdict is the kind of a token with this spelling. -/
theorem mem_table_of_verdict
    {spelled : List Char}
    {next : Option Char}
    {kind : Kind}
    (decided : verdict spelled next = some kind) :
    ⟨spelled, .token kind⟩ ∈ table := by
  unfold verdict at decided
  split at decided
  · rename_i spelling other found
    obtain ⟨member, spells⟩ := find?_eq_some_iff.mp found
    split at decided
    · contradiction
    · cases decided
      cases spells
      exact member
  · contradiction

theorem verdict_congr
    {spelled : List Char}
    {next other : Option Char}
    (same : next.any isWordChar = other.any isWordChar) :
    verdict spelled next = verdict spelled other := by
  simp only [verdict, same]

/-- The matcher resolves characters that it waited on by their verdict. -/
theorem resolve_of_pending
    {start stop : Nat}
    {spelled : List Char}
    {next : Option Char}
    (waits : pending spelled = true) :
    Matcher.resolve start spelled next stop =
      match verdict spelled next with
      | some kind => .matched ⟨spelled, .token kind⟩ start stop false
      | none => .unknown spelled start false := by
  unfold Matcher.resolve verdict
  cases found : find? spelled with
  | none => rfl
  | some symbol =>
      obtain ⟨member, rfl⟩ := find?_eq_some_iff.mp found
      obtain ⟨kind, means⟩ := token_of_pending member waits
      obtain ⟨spelling, meaning⟩ := symbol
      cases means
      dsimp only
      split <;> rfl

end Symbol

end Brace
