import Brace.Proofs.Account.Alone
import Brace.Proofs.Wordlike

namespace Brace

/-!
# A word that is being read

While a line is read as one word, what there is of the word follows the grammar.  Each character
that goes to the word, to a spelling that is waited on or with a spelling that is given up keeps it
so; all others show that the line does not follow the grammar.
-/

namespace Symbol

/-! ## Spellings and words -/

/-- The spelling of a token has punctuation, or it is a question mark or a keyword. -/
theorem punctuated_of_token
    {spelling : List Char}
    {kind : Kind}
    (member : ⟨spelling, .token kind⟩ ∈ table) :
    (∃ c ∈ spelling, c ∈ punctuation) ∨ spelling = ['?'] ∨ spelling ∈ keywords := by
  have all :
      ∀ symbol ∈ table,
        symbol.meaning ∈ [.quote '"', .quote '\'', .interpolation, .escaped] ∨
          symbol.spelling.any (fun c => punctuation.contains c) = true ∨
            symbol.spelling = ['?'] ∨ symbol.spelling ∈ keywords := by
    decide
  simpa using all _ member

theorem exists_mem_table_of_keyword
    {name : List Char}
    (keyword : name ∈ keywords) :
    ∃ kind, ⟨name, .token kind⟩ ∈ table := by
  simp only [keywords, List.mem_cons, List.not_mem_nil, or_false] at keyword
  rcases keyword with rfl | rfl
  · exact ⟨.ifKeyword, by decide⟩
  · exact ⟨.tryKeyword, by decide⟩

theorem extending_ne_nil_of_keyword
    {spelled name : List Char}
    (keyword : name ∈ keywords)
    (begins : spelled <+: name) :
    extending spelled ≠ [] := by
  obtain ⟨kind, member⟩ := exists_mem_table_of_keyword keyword
  exact List.ne_nil_of_mem (mem_extending.mpr ⟨member, begins⟩)

theorem ne_nil_of_keyword :
    ∀ name ∈ keywords, name ≠ [] := by
  decide

theorem isWordChar_of_mem_keyword
    {name : List Char}
    {c : Char}
    (keyword : name ∈ keywords)
    (member : c ∈ name) :
    isWordChar c = true := by
  have letters : ∀ name ∈ keywords, name.all isWordChar = true := by
    decide +kernel
  exact List.all_eq_true.mp (letters name keyword) c member

/-- A keyword begins no other spelling. -/
theorem extending_keyword_concat
    {name : List Char}
    (keyword : name ∈ keywords)
    (c : Char) :
    extending (name ++ [c]) = [] := by
  have all :
      ∀ symbol ∈ table, ∀ name ∈ keywords,
        name <+: symbol.spelling → symbol.spelling.length ≤ name.length := by
    decide
  rw [List.eq_nil_iff_forall_not_mem]
  intro symbol extended
  obtain ⟨member, begins⟩ := mem_extending.mp extended
  have short := all symbol member name keyword ((List.prefix_append name [c]).trans begins)
  have long := begins.length_le
  rw [List.length_append, List.length_singleton] at long
  omega

/-- Question marks and punctuation open spellings wherever they stand. -/
theorem openings_ne_nil_of_punctuation
    {c : Char}
    (member : c ∈ '?' :: punctuation)
    (prev : Option Char) :
    Matcher.openings c prev ≠ [] := by
  have checked :
      ('?' :: punctuation).all (fun d => !isWordChar d && !(extending [d]).isEmpty) = true := by
    decide +kernel
  have holds := List.all_eq_true.mp checked c member
  simp only [Bool.and_eq_true, Bool.not_eq_true', List.isEmpty_eq_false_iff] at holds
  rw [openings_eq_extending (joined_some_right holds.1 prev)]
  exact holds.2

/-- A spelling does not go from other characters to word characters. -/
theorem uniform_of_extending_ne_nil
    {spelled : List Char}
    (extendable : extending spelled ≠ []) :
    (∀ c ∈ spelled, isWordChar c = true) ∨ ∀ c ∈ spelled, isWordChar c = false := by
  have checked :
      ∀ symbol ∈ table, ∀ size < 4,
        ((symbol.spelling.take size).all isWordChar
          || (symbol.spelling.take size).all fun c => !isWordChar c) = true := by
    decide +kernel
  have holds :=
    forall_of_extending_ne_nil
      (fun spelled => spelled.all isWordChar || spelled.all fun c => !isWordChar c)
      checked extendable
  simpa using holds

/-- Characters that were waited on in vain can stand in a word. -/
theorem harmless_of_verdict_none
    {spelled : List Char}
    {next : Option Char}
    (waits : pending spelled = true)
    (undecided : verdict spelled next = none) :
    (∀ c ∈ spelled, (Unicode.isSpace c = false ∧ c ∉ punctuation) ∧ isMark c = false) ∧
      (spelled = ['?', '?'] ∨ ∀ c ∈ spelled, c ≠ '?') := by
  have checked :
      ∀ symbol ∈ table, ∀ size < 4,
        (!pending (symbol.spelling.take size)
          || (verdict (symbol.spelling.take size) (some '_')).isSome
          || (((symbol.spelling.take size).all fun c =>
                !Unicode.isSpace c && !punctuation.contains c && !isMark c)
              && (symbol.spelling.take size == ['?', '?']
                || (symbol.spelling.take size).all fun c => c != '?'))) = true := by
    decide +kernel
  have holds :=
    forall_of_extending_ne_nil
      (fun spelled =>
        !pending spelled || (verdict spelled (some '_')).isSome
          || ((spelled.all fun c => !Unicode.isSpace c && !punctuation.contains c && !isMark c)
            && (spelled == ['?', '?'] || spelled.all fun c => c != '?')))
      checked (extending_ne_nil_of_pending waits)
  have stillUndecided : verdict spelled (some '_') = none := by
    cases decided : verdict spelled (some '_') with
    | none => rfl
    | some kind =>
        have apart := joined_of_verdict decided
        rw [verdict_of_mem_table (mem_table_of_verdict decided)] at undecided
        simp_all [joined, isWordChar]
  simpa [waits, stillUndecided] using holds

end Symbol

/-! ## What holds while a word is read -/

/-- The next character comes right after a beginning of a text, or it belongs to it as well. -/
theorem eq_or_concat_prefix
    {text before others rest : List Char}
    {c : Char}
    (within : text <+: before)
    (shape : text ++ c :: rest = before ++ others) :
    (text = before ∧ others.head? = some c) ∨ text ++ [c] <+: before := by
  obtain ⟨more, rfl⟩ := within
  rw [List.append_assoc, List.append_cancel_left_eq] at shape
  cases more with
  | nil =>
      rw [List.nil_append] at shape
      exact Or.inl ⟨(List.append_nil text).symm, by rw [← shape, List.head?_cons]⟩
  | cons first more =>
      cases shape
      exact Or.inr ⟨more, by simp⟩

theorem IsRun.head?_append
    {isIn : Char → Bool}
    {before run after : List Char}
    (isRun : IsRun isIn before run after) :
    (run ++ after).head? = run.head? :=
  List.head?_append_of_ne_nil _ isRun.nonempty

theorem IsRun.isIn_head
    {isIn : Char → Bool}
    {before run after : List Char}
    {c : Char}
    (isRun : IsRun isIn before run after)
    (first : run.head? = some c) :
    isIn c = true :=
  isRun.inside c (List.mem_of_head? first)

/--
The word has not gone into a run of word characters that is a keyword: what was read lies before the
run, or the spelling has begun with it.
-/
def Outside (line word spelled : List Char) : Prop :=
  ∀ before run after,
    line = before ++ run ++ after →
      IsRun isWordChar before run after →
        run ∈ keywords → word ++ spelled <+: before ∨ (word = before ∧ spelled <+: run)

/--
What holds of a line while it is read as one word, after `word` and the beginning of a spelling.
The word itself follows the grammar, but for its runs of word characters, which may go on.
-/
structure Forms (line word spelled rest : List Char) : Prop where
  whole : line = word ++ spelled ++ rest
  waits : Symbol.pending spelled = true
  solid : ∀ c ∈ word, Unicode.isSpace c = false ∧ c ∉ punctuation
  escaped : Escaped word
  paired : Paired word
  outside : Outside line word spelled
  parted : spelled = [] → word.getLast? = some '\\' → rest.head?.any isMark = false
  fresh : spelled.head?.any isWordChar = true → word.getLast?.any isWordChar = false

namespace Forms

variable {line word spelled rest : List Char} {c : Char}

/-- Nothing has been read yet. -/
theorem start
    (line : List Char) :
    Forms line [] [] line where
  whole := rfl
  waits := Symbol.pending_nil
  solid := by simp
  escaped := escaped_nil
  paired := paired_nil
  outside before _ _ _ _ _ := Or.inl (List.nil_prefix)
  parted := by simp
  fresh := by simp

/-- Keywords begin where a character opens what it can. -/
theorem not_refused_of_keyword
    {before run after : List Char}
    (isRun : IsRun isWordChar before run after)
    (keyword : run ∈ keywords)
    (first : run.head? = some c) :
    Matcher.openings c before.getLast? ≠ [] := by
  have apart : joined before.getLast? (some c) = false := by
    simp [joined, isRun.starts]
  rw [Symbol.openings_eq_extending apart]
  obtain ⟨others, rfl⟩ := List.head?_eq_some_iff.mp first
  exact Symbol.extending_ne_nil_of_keyword keyword ⟨others, rfl⟩

theorem outside_unknown
    (forms : Forms line word [] (c :: rest))
    (refused : Matcher.openings c word.getLast? = []) :
    Outside line (word ++ [c]) [] := by
  intro before run after shape isRun keyword
  have within : word <+: before := by
    rcases forms.outside before run after shape isRun keyword with within | ⟨rfl, _⟩
    · rwa [List.append_nil] at within
    · exact List.prefix_refl word
  rw [forms.whole, List.append_nil, List.append_assoc before] at shape
  rcases eq_or_concat_prefix within shape with ⟨rfl, first⟩ | longer
  · rw [isRun.head?_append] at first
    exact absurd refused (not_refused_of_keyword isRun keyword first)
  · exact Or.inl (by rwa [List.append_nil])

/-- A character that opens nothing goes to the word. -/
theorem unknown
    (forms : Forms line word [] (c :: rest))
    (space : Unicode.isSpace c = false)
    (refused : Matcher.openings c word.getLast? = []) :
    Forms line (word ++ [c]) [] rest := by
  have plain := Symbol.isPlain_of_refused space refused
  have opensNothing : c ∉ '?' :: punctuation := by
    intro member
    exact Symbol.openings_ne_nil_of_punctuation member _ refused
  rw [List.mem_cons, not_or] at opensNothing
  obtain ⟨other, noPunctuation⟩ := opensNothing
  simp only [isPlain, Bool.and_eq_true, Bool.not_eq_true', bne_iff_ne, ne_eq] at plain
  obtain ⟨⟨noMark, noBackslash⟩, _⟩ := plain
  refine ⟨?_, Symbol.pending_nil, ?_, ?_, forms.paired.concat other, ?_, ?_, by simp⟩
  · rw [forms.whole]
    simp
  · rw [List.forall_mem_append, List.forall_mem_singleton]
    exact ⟨forms.solid, space, noPunctuation⟩
  · exact forms.escaped.concat (by simp [noMark])
  · exact forms.outside_unknown refused
  · simp [noBackslash]

/-- A keyword does not begin in the middle of a spelling. -/
theorem eq_nil_of_keyword
    {run after : List Char}
    (isRun : IsRun isWordChar (word ++ spelled) run after)
    (first : run.head? = some c)
    (extendable : Symbol.extending (spelled ++ [c]) ≠ []) :
    spelled = [] := by
  by_contra filled
  have last : spelled.getLast?.any isWordChar = false := by
    have starts := isRun.starts
    rwa [List.getLast?_append_of_ne_nil _ filled] at starts
  rcases Symbol.uniform_of_extending_ne_nil extendable with letters | others
  · obtain ⟨front, letter, rfl⟩ := List.eq_nil_or_concat spelled |>.resolve_left filled
    simp_all
  · have letter := isRun.isIn_head first
    rw [others c (by simp)] at letter
    cases letter

theorem outside_grown
    (forms : Forms line word spelled (c :: rest))
    (extendable : Symbol.extending (spelled ++ [c]) ≠ []) :
    Outside line word (spelled ++ [c]) := by
  intro before run after shape isRun keyword
  have known := forms.outside before run after shape isRun keyword
  rw [forms.whole, List.append_assoc before] at shape
  rcases known with within | ⟨rfl, more, rfl⟩
  · rcases eq_or_concat_prefix within shape with ⟨rfl, first⟩ | longer
    · rw [isRun.head?_append] at first
      obtain rfl := eq_nil_of_keyword isRun first extendable
      obtain ⟨others, rfl⟩ := List.head?_eq_some_iff.mp first
      exact Or.inr ⟨(List.append_nil word).symm, others, rfl⟩
    · exact Or.inl (by rwa [← List.append_assoc])
  · rw [List.append_assoc, List.append_assoc, List.append_cancel_left_eq,
      List.append_cancel_left_eq] at shape
    cases more with
    | nil =>
        rw [List.append_nil] at keyword
        exact absurd (Symbol.extending_keyword_concat keyword c) extendable
    | cons first more =>
        cases shape
        exact Or.inr ⟨rfl, more, by simp⟩

/-- A character that brings a spelling closer leaves the word as it is. -/
theorem grown
    (forms : Forms line word spelled (c :: rest))
    (opens : spelled = [] → Matcher.openings c word.getLast? ≠ [])
    (waits : Symbol.pending (spelled ++ [c]) = true) :
    Forms line word (spelled ++ [c]) rest := by
  refine ⟨?_, waits, forms.solid, forms.escaped, forms.paired, ?_, by simp, ?_⟩
  · rw [forms.whole]
    simp
  · exact forms.outside_grown (Symbol.extending_ne_nil_of_pending waits)
  · intro letter
    cases spelled with
    | nil =>
        have apart := Symbol.joined_of_openings (opens rfl)
        rw [List.nil_append, List.head?_cons] at letter
        simpa [joined, letter] using apart
    | cons first spelled => exact forms.fresh letter

theorem outside_escaping
    (forms : Forms line word ['\\'] (c :: rest))
    (mark : isMark c = true) :
    Outside line (word ++ ['\\'] ++ [c]) [] := by
  intro before run after shape isRun keyword
  have known := forms.outside before run after shape isRun keyword
  rw [forms.whole, List.append_assoc before] at shape
  rcases known with within | ⟨rfl, others, rfl⟩
  · rcases eq_or_concat_prefix within shape with ⟨rfl, first⟩ | longer
    · rw [isRun.head?_append] at first
      have letter := isRun.isIn_head first
      rw [Symbol.isWordChar_of_isMark mark] at letter
      cases letter
    · exact Or.inl (by rwa [List.append_nil])
  · exact absurd (isRun.inside '\\' (by simp)) (by decide)

/-- A mark goes to the word together with the backslash before it. -/
theorem escaping
    (forms : Forms line word ['\\'] (c :: rest))
    (mark : isMark c = true) :
    Forms line (word ++ ['\\', c]) [] rest := by
  have noPunctuation : c ∉ punctuation := by
    simp only [isMark, isQuote, Bool.or_eq_true, decide_eq_true_eq] at mark
    rcases mark with (rfl | rfl) | rfl <;> decide
  have other : c ≠ '?' := by
    rintro rfl
    exact absurd mark (by decide)
  rw [List.append_cons]
  refine ⟨?_, Symbol.pending_nil, ?_, ?_, ?_, ?_, ?_, by simp⟩
  · rw [forms.whole]
    simp
  · rw [List.forall_mem_append, List.forall_mem_append, List.forall_mem_singleton,
      List.forall_mem_singleton]
    exact ⟨⟨forms.solid, by decide⟩, isSpace_of_isMark mark, noPunctuation⟩
  · exact (forms.escaped.concat fun isMark => absurd isMark (by decide)).concat (by simp)
  · exact (forms.paired.concat (by decide)).concat other
  · exact forms.outside_escaping mark
  · simp [ne_backslash_of_isMark mark]

theorem outside_abandoned
    (forms : Forms line word spelled rest)
    (stops : ∀ c, rest.head? = some c → Symbol.extending (spelled ++ [c]) = [])
    (undecided : Symbol.verdict spelled rest.head? = none) :
    Outside line (word ++ spelled) [] := by
  intro before run after shape isRun keyword
  rcases forms.outside before run after shape isRun keyword with within | ⟨rfl, more, rfl⟩
  · exact Or.inl (by rwa [List.append_nil])
  · rw [forms.whole, List.append_assoc, List.append_assoc, List.append_assoc,
      List.append_cancel_left_eq, List.append_cancel_left_eq] at shape
    cases more with
    | nil =>
        -- The keyword is complete, so that only a word character after it can keep it from being.
        rw [List.append_nil] at isRun keyword
        obtain ⟨kind, member⟩ := Symbol.exists_mem_table_of_keyword keyword
        rw [Symbol.verdict_of_mem_table member, shape] at undecided
        simp [joined, isRun.stops] at undecided
    | cons first more =>
        have goesOn : spelled ++ [first] <+: spelled ++ first :: more := ⟨more, by simp⟩
        exact
          absurd (stops first (by simp [shape]))
            (Symbol.extending_ne_nil_of_keyword keyword goesOn)

/-- A backslash that is given up comes before no mark. -/
theorem parted_abandoned
    (forms : Forms line word spelled rest)
    (stops : ∀ c, rest.head? = some c → Symbol.extending (spelled ++ [c]) = [])
    (last : (word ++ spelled).getLast? = some '\\') :
    rest.head?.any isMark = false := by
  by_cases fresh : spelled = []
  · subst fresh
    exact forms.parted rfl (by simpa using last)
  · rw [List.getLast?_append_of_ne_nil _ fresh] at last
    rcases Symbol.plain_of_pending forms.waits with rfl | plain
    · cases next : rest.head? with
      | none => rfl
      | some c =>
          have nothing : Symbol.extending ['\\', c] = [] := stops c next
          cases mark : isMark c with
          | false => simp [mark]
          | true => simp [Symbol.extending_of_isMark mark] at nothing
    · exact absurd (plain '\\' (List.mem_of_getLast? last)) (by decide)

/-- A spelling that comes to nothing goes to the word. -/
theorem abandoned
    (forms : Forms line word spelled rest)
    (stops : ∀ c, rest.head? = some c → Symbol.extending (spelled ++ [c]) = [])
    (undecided : Symbol.verdict spelled rest.head? = none) :
    Forms line (word ++ spelled) [] rest := by
  obtain ⟨harmless, marks⟩ := Symbol.harmless_of_verdict_none forms.waits undecided
  refine ⟨?_, Symbol.pending_nil, ?_, ?_, ?_, ?_, ?_, by simp⟩
  · rw [forms.whole]
    simp
  · rw [List.forall_mem_append]
    exact ⟨forms.solid, fun c member => (harmless c member).1⟩
  · exact forms.escaped.append fun c member => (harmless c member).2
  · rcases marks with rfl | others
    · exact forms.paired.pair
    · exact forms.paired.append others
  · exact forms.outside_abandoned stops undecided
  · exact fun _ => forms.parted_abandoned stops

/-! ## The end of a word -/

/-- A mark with no backslash right before it breaks the grammar. -/
theorem not_wordlike_of_isMark
    (forms : Forms line word [] (c :: rest))
    (mark : isMark c = true) :
    ¬ Wordlike line := by
  intro wordlike
  have shape := forms.whole
  rw [List.append_nil] at shape
  have unmarked := forms.parted rfl (wordlike.escaped word c rest shape mark)
  rw [List.head?_cons, Option.any_some, mark] at unmarked
  cases unmarked

/-- A spelling that comes to a token breaks the grammar. -/
theorem not_wordlike_of_verdict
    {kind : Kind}
    (forms : Forms line word spelled rest)
    (stops : ∀ c, rest.head? = some c → Symbol.extending (spelled ++ [c]) = [])
    (decided : Symbol.verdict spelled rest.head? = some kind) :
    ¬ Wordlike line := by
  intro wordlike
  have member := Symbol.mem_table_of_verdict decided
  rcases Symbol.punctuated_of_token member with ⟨c, inside, isPunctuation⟩ | rfl | keyword
  · exact (wordlike.solid c (by simp [forms.whole, inside])).2 isPunctuation
  · have ends : rest.head?.any (· == '?') = false := by
      cases next : rest.head? with
      | none => rfl
      | some c =>
          rw [Option.any_some, beq_eq_false_iff_ne]
          rintro rfl
          exact absurd (stops '?' next) (by decide)
    have paired := wordlike.paired
    rw [forms.whole] at paired
    exact forms.paired.not_paired_of_mark ends paired
  · have nonempty := Symbol.ne_nil_of_keyword spelled keyword
    have inside : ∀ c ∈ spelled, isWordChar c = true := fun c member =>
      Symbol.isWordChar_of_mem_keyword keyword member
    have starts : spelled.head?.any isWordChar = true := by
      rw [List.head?_eq_some_head nonempty, Option.any_some]
      exact inside _ (List.head_mem nonempty)
    have ends : spelled.getLast?.any isWordChar = true := by
      rw [List.getLast?_eq_some_getLast nonempty, Option.any_some]
      exact inside _ (List.getLast_mem nonempty)
    have apart := Symbol.joined_of_verdict decided
    rw [joined, ends, Bool.true_and] at apart
    exact wordlike.free word spelled rest forms.whole ⟨nonempty, inside, forms.fresh starts, apart⟩
      keyword

/-- A symbol that is recognised at once breaks the grammar. -/
theorem not_wordlike_of_token
    {kind : Kind}
    (forms : Forms line word spelled (c :: rest))
    (member : ⟨spelled ++ [c], .token kind⟩ ∈ Symbol.table)
    (decided : Symbol.pending (spelled ++ [c]) = false) :
    ¬ Wordlike line := by
  intro wordlike
  have waited : ∀ name ∈ ['?'] :: keywords, Symbol.pending name = true := by
    decide +kernel
  have undecided : spelled ++ [c] ∉ ['?'] :: keywords := by
    intro isOne
    rw [waited _ isOne] at decided
    cases decided
  rw [List.mem_cons, not_or] at undecided
  rcases Symbol.punctuated_of_token member with ⟨d, inside, isPunctuation⟩ | mark | keyword
  · have inLine : d ∈ line := by
      rw [forms.whole, List.append_assoc, List.append_cons]
      exact List.mem_append_right _ (List.mem_append_left _ inside)
    exact (wordlike.solid d inLine).2 isPunctuation
  · exact undecided.1 mark
  · exact undecided.2 keyword

/-- What has been read to the end as one word follows the grammar. -/
theorem wordlike
    (forms : Forms line word [] [])
    (nonempty : line ≠ []) :
    Wordlike line := by
  obtain rfl : line = word := by
    simpa using forms.whole
  refine ⟨nonempty, forms.solid, forms.escaped, forms.paired, ?_⟩
  intro before run after shape isRun keyword
  have within : line <+: before := by
    rcases forms.outside before run after shape isRun keyword with within | ⟨rfl, _⟩
    · rwa [List.append_nil] at within
    · exact List.prefix_refl line
  have short := within.length_le
  have filled := List.length_pos_of_ne_nil isRun.nonempty
  have size := congrArg List.length shape
  simp only [List.length_append] at size
  omega

end Forms

end Brace
