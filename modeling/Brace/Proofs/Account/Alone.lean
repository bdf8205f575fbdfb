import Brace.Proofs.Account.Reach

namespace Brace

/-!
# Stretches that stand alone

Each stretch of the fragments of a line is read in the same way when its characters stand alone.
What the scan is in the middle of can be replayed after only some of the fragments before it, for
at most they bar a keyword, and with other characters after it.  A word is the hard case: it may
hold a spelling that was given up only because of the character after it.  That happens to keywords
alone, and then this character goes to the word as well.
-/

/-- Whether a character and the one after it can stand next to each other in a name. -/
def joined (last next : Option Char) : Bool :=
  last.any isWordChar && next.any isWordChar

/-- The beginning of a spelling in a mode. -/
def Account.Mode.spelled : Mode → List Char
  | plain _ spelled => spelled
  | quoted _ _ _ => []

theorem joined_some_right
    {c : Char}
    (other : isWordChar c = false)
    (last : Option Char) :
    joined last (some c) = false := by
  simp [joined, other]

theorem joined_some_left
    {c : Char}
    (other : isWordChar c = false)
    (next : Option Char) :
    joined (some c) next = false := by
  simp [joined, other]

theorem isWordChar_of_isQuote
    {c : Char}
    (quote : isQuote c = true) :
    isWordChar c = false :=
  Symbol.isWordChar_of_isMark (isMark_of_isQuote quote)

namespace Symbol

/-- A spelling is waited on until its last character. -/
theorem pending_take
    {symbol : Symbol}
    {size : Nat}
    (member : symbol ∈ table)
    (short : size < symbol.spelling.length) :
    pending (symbol.spelling.take size) = true := by
  have all :
      ∀ symbol ∈ table,
        ∀ size < symbol.spelling.length, pending (symbol.spelling.take size) = true := by
    decide +kernel
  exact all symbol member size short

/-- The keywords are the spellings that end in a word character. -/
theorem isWordChar_getLast_spelling
    {symbol : Symbol}
    (member : symbol ∈ table) :
    symbol.spelling.getLast?.any isWordChar = symbol.isKeyword := by
  have all :
      ∀ symbol ∈ table, symbol.spelling.getLast?.any isWordChar = symbol.isKeyword := by
    decide +kernel
  exact all symbol member

/-- The spelling of a token is that token unless a name goes on after it. -/
theorem verdict_of_mem_table
    {spelling : List Char}
    {kind : Kind}
    (member : ⟨spelling, .token kind⟩ ∈ table)
    (next : Option Char) :
    verdict spelling next = if joined spelling.getLast? next then none else some kind := by
  have found : find? spelling = some ⟨spelling, .token kind⟩ :=
    find?_eq_some_iff.mpr ⟨member, rfl⟩
  have ends : spelling.getLast?.any isWordChar = isKeyword ⟨spelling, .token kind⟩ :=
    isWordChar_getLast_spelling member
  simp only [verdict, found, joined, ends]

/-- At the end of a line the spelling of a token is that token. -/
theorem verdict_none_of_mem_table
    {spelling : List Char}
    {kind : Kind}
    (member : ⟨spelling, .token kind⟩ ∈ table) :
    verdict spelling none = some kind := by
  simp [verdict_of_mem_table member, joined]

/-- A token is recognised only where no name goes on after it. -/
theorem joined_of_verdict
    {spelled : List Char}
    {next : Option Char}
    {kind : Kind}
    (decided : verdict spelled next = some kind) :
    joined spelled.getLast? next = false := by
  rw [verdict_of_mem_table (mem_table_of_verdict decided)] at decided
  cases goesOn : joined spelled.getLast? next with
  | false => rfl
  | true => simp [goesOn] at decided

/-- What is no token where no name goes on is no token at the end of a line either. -/
theorem verdict_none_of_verdict
    {spelled : List Char}
    {next : Option Char}
    (undecided : verdict spelled next = none)
    (apart : joined spelled.getLast? next = false) :
    verdict spelled none = none := by
  cases decided : verdict spelled none with
  | none => rfl
  | some kind =>
      rw [verdict_of_mem_table (mem_table_of_verdict decided)] at undecided
      simp [apart] at undecided

/-- A character opens the same symbols after any character that no name goes on from. -/
theorem openings_eq_extending
    {c : Char}
    {prev : Option Char}
    (apart : joined prev (some c) = false) :
    Matcher.openings c prev = extending [c] := by
  have free : (isWordChar c && prev.any isWordChar) = false := by
    rwa [Bool.and_comm]
  rw [openings_eq, free]
  rfl

/-- A symbol that a character opens does not go on with a name. -/
theorem joined_of_openings
    {c : Char}
    {prev : Option Char}
    (opens : Matcher.openings c prev ≠ []) :
    joined prev (some c) = false := by
  rw [openings_eq] at opens
  cases goesOn : joined prev (some c) with
  | false => rfl
  | true =>
      have barred : (isWordChar c && prev.any isWordChar) = true := by
        rwa [Bool.and_comm]
      simp [barred] at opens

end Symbol

section

variable {inner : String → Except Halt (List Token)} {dialect : Dialect}

namespace Account

/-- The characters of some fragments, standing alone, are read as these fragments. -/
def Alone (inner : String → Except Halt (List Token)) (dialect : Dialect)
    (fragments : List Fragment) : Prop :=
  Runs inner dialect (ofText (fragments.flatMap Fragment.written)) (.ok fragments)

/-- The line of an account leads to the account. -/
def Reached (inner : String → Except Halt (List Token)) (dialect : Dialect)
    (account : Account) : Prop :=
  Reaches inner dialect (ofText account.line) account

theorem alone_nil : Alone inner dialect [] :=
  .ended

theorem Reached.of_moves
    {account after : Account}
    (reached : Reached inner dialect account)
    (moves : Moves inner dialect account after) :
    Reached inner dialect after := by
  rw [Reached, line_of_moves moves]
  exact reached.tail moves

/-- The fragments that the line of an account falls into stand alone. -/
theorem Reached.alone
    {account : Account}
    {fragments : List Fragment}
    (reached : Reached inner dialect account)
    (runs : Runs inner dialect account (.ok fragments)) :
    Alone inner dialect fragments := by
  rw [Alone, runs.written]
  exact runs.of_reaches reached

/-! ## Spellings -/

/-- The next character of a spelling brings it closer. -/
theorem Moves.grown_of_mem_table
    {symbol : Symbol}
    {spelled rest : List Char}
    {c : Char}
    (member : symbol ∈ Symbol.table)
    (begins : spelled ++ [c] <+: symbol.spelling)
    (waits : Symbol.pending (spelled ++ [c]) = true) :
    Moves inner dialect
      ⟨[], .plain [] spelled, c :: rest⟩
      ⟨[], .plain [] (spelled ++ [c]), rest⟩ := by
  refine .grown ?_ waits
  rintro rfl
  have extended : symbol ∈ Symbol.extending [c] := Symbol.mem_extending.mpr ⟨member, begins⟩
  rw [Symbol.openings_eq_extending rfl]
  exact List.ne_nil_of_mem extended

/-- The beginning of a spelling is reached at the start of a line, whatever comes after it. -/
theorem reached_spelled
    {spelled : List Char}
    (waits : Symbol.pending spelled = true)
    (rest : List Char) :
    Reached inner dialect ⟨[], .plain [] spelled, rest⟩ := by
  obtain ⟨symbol, extended⟩ :=
    List.exists_mem_of_ne_nil _ (Symbol.extending_ne_nil_of_pending waits)
  obtain ⟨member, begins⟩ := Symbol.mem_extending.mp extended
  clear extended
  -- The induction takes characters off the end: the matcher has waited on all that is left then.
  induction spelled using List.reverseRecOn generalizing rest with
  | nil => exact .refl
  | append_singleton spelled c inductionHypothesis =>
      have shorter : spelled <+: symbol.spelling := (List.prefix_append _ _).trans begins
      have short : spelled.length < symbol.spelling.length := by
        have length := begins.length_le
        rw [List.length_append, List.length_singleton] at length
        omega
      have waited := Symbol.pending_take member short
      rw [← List.prefix_iff_eq_take.mp shorter] at waited
      have reached := inductionHypothesis waited (c :: rest) shorter
      exact reached.of_moves (.grown_of_mem_table member begins waits)

/-! ## Replaying -/

/--
What holds of the mode of an account after some fragments.  The word stands alone, also with some
of the fragments before it, unless it was ended by a character that is still to go to it.  Where
the word is yet to begin, no name goes on from the fragments.
-/
def Mode.Detached (inner : String → Except Halt (List Token)) (dialect : Dialect)
    (fragments : List Fragment) (rest : List Char) : Mode → Prop
  | plain word spelled =>
      ((spelled = [] → joined word.getLast? rest.head? = false) →
        ∀ before, before <:+ fragments →
          Alone inner dialect (before ++ Fragment.wordOf word)) ∧
      (word = [] → spelled = [] → joined (lastOf fragments []) rest.head? = false)
  | quoted delimiter _ _ => isQuote delimiter = true

/--
What holds of every account that a scan can reach: each stretch of its fragments stands alone, and
what it is in the middle of can be replayed after only some of its fragments.  A spelling can be
replayed before any characters, all else before those that begin with the same one.
-/
structure Detached (inner : String → Except Halt (List Token)) (dialect : Dialect)
    (account : Account) : Prop where
  alone : ∀ stretch, stretch <:+: account.fragments → Alone inner dialect stretch
  replays :
    ∀ before, before <:+ account.fragments → ∀ other,
      (account.mode.spelled = [] → other.head? = account.rest.head?) →
        Reached inner dialect ⟨before, account.mode, other⟩
  mode : account.mode.Detached inner dialect account.fragments account.rest

theorem detached_ofText
    (text : List Char) :
    Detached inner dialect (ofText text) where
  alone stretch inside := by
    rw [List.infix_nil.mp inside]
    exact alone_nil
  replays before ends other _ := by
    rw [List.suffix_nil.mp ends]
    exact .refl
  mode := by
    refine ⟨?_, fun _ _ => rfl⟩
    intro _ before ends
    rw [List.suffix_nil.mp ends]
    exact alone_nil

section Detached

variable {fragments : List Fragment} {word spelled rest : List Char} {c : Char}

/-- A character opens the same symbols after all fragments and after only some of them. -/
theorem Mode.Detached.openings
    {before : List Fragment}
    (mode : (Mode.plain word []).Detached inner dialect fragments (c :: rest))
    (ends : before <:+ fragments) :
    Matcher.openings c (lastOf before word) = Matcher.openings c (lastOf fragments word) := by
  obtain ⟨omitted, rfl⟩ := ends
  cases last : lastOf before word with
  | some letter =>
      rw [lastOf] at last
      rw [lastOf, List.flatMap_append, List.append_assoc, List.getLast?_append, last]
      rfl
  | none =>
      have nothing := List.getLast?_eq_none_iff.mp last
      obtain ⟨_, rfl⟩ := List.append_eq_nil_iff.mp nothing
      rw [Symbol.openings_eq_extending (mode.2 rfl rfl), Symbol.openings_eq_extending rfl]

/-- Stretches that end with one more fragment have to be looked at, and no others. -/
theorem alone_concat
    {fragment : Fragment}
    (alone : ∀ stretch, stretch <:+: fragments → Alone inner dialect stretch)
    (aloneAfter : ∀ before, before <:+ fragments → Alone inner dialect (before ++ [fragment]))
    {stretch : List Fragment}
    (inside : stretch <:+: fragments ++ [fragment]) :
    Alone inner dialect stretch := by
  rcases List.infix_concat_iff.mp inside with ends | within
  · rcases List.suffix_concat_iff.mp ends with rfl | ⟨others, rfl, othersEnd⟩
    · exact alone_nil
    · exact aloneAfter others othersEnd
  · exact alone stretch within

/-- Where a word has come to its end, the fragments with the word stand alone. -/
theorem alone_concat_wordOf
    (alone : ∀ stretch, stretch <:+: fragments → Alone inner dialect stretch)
    (words :
      ∀ before, before <:+ fragments → Alone inner dialect (before ++ Fragment.wordOf word))
    {stretch : List Fragment}
    (inside : stretch <:+: fragments ++ Fragment.wordOf word) :
    Alone inner dialect stretch := by
  unfold Fragment.wordOf at inside words
  split at inside
  · exact alone stretch (by simpa using inside)
  · rename_i nonempty
    rw [if_neg nonempty] at words
    exact alone_concat alone words inside

/-- The beginning of a spelling can be replayed with or without the word before it. -/
theorem Detached.reached_concat_wordOf
    {before : List Fragment}
    (detached : Detached inner dialect ⟨fragments, .plain word spelled, rest⟩)
    (waits : Symbol.pending spelled = true)
    (ends : before <:+ fragments ++ Fragment.wordOf word) :
    ∃ others text,
      before = others ++ Fragment.wordOf text ∧
        ∀ other,
          (spelled = [] → other.head? = rest.head?) →
            Reached inner dialect ⟨others, .plain text spelled, other⟩ := by
  by_cases empty : word = []
  · subst word
    rw [Fragment.wordOf_nil, List.append_nil] at ends
    exact ⟨before, [], (List.append_nil before).symm, detached.replays before ends⟩
  · rw [Fragment.wordOf, if_neg empty] at ends
    rcases List.suffix_concat_iff.mp ends with rfl | ⟨others, rfl, othersEnd⟩
    · exact ⟨[], [], rfl, fun other _ => reached_spelled waits other⟩
    · refine ⟨others, word, ?_, detached.replays others othersEnd⟩
      rw [Fragment.wordOf, if_neg empty]

/-- At the end of a line each stretch of its fragments stands alone. -/
theorem Detached.alone_ending
    (detached : Detached inner dialect ⟨fragments, .plain word spelled, []⟩)
    (waits : Symbol.pending spelled = true)
    {stretch : List Fragment}
    (inside : stretch <:+: fragments ++ ending word spelled) :
    Alone inner dialect stretch := by
  cases decided : Symbol.verdict spelled none with
  | some kind =>
      rw [ending, decided, ← List.append_assoc] at inside
      have words := detached.mode.1 fun _ => Bool.and_false _
      refine alone_concat (fun _ => alone_concat_wordOf detached.alone words) ?_ inside
      intro before ends
      obtain ⟨others, text, rfl, reached⟩ := detached.reached_concat_wordOf waits ends
      have atEnd := @Runs.ended inner dialect others text spelled
      rw [ending, decided, ← List.append_assoc] at atEnd
      exact (reached [] fun _ => rfl).alone atEnd
  | none =>
      rw [ending, decided] at inside
      refine alone_concat_wordOf detached.alone ?_ inside
      intro before ends
      have atEnd := @Runs.ended inner dialect before word spelled
      rw [ending, decided] at atEnd
      exact (detached.replays before ends [] fun _ => rfl).alone atEnd

/-- After one more fragment, nothing before it has a part in what is read next. -/
theorem detached_concat
    {fragment : Fragment}
    (alone : ∀ stretch, stretch <:+: fragments → Alone inner dialect stretch)
    (aloneAfter : ∀ before, before <:+ fragments → Alone inner dialect (before ++ [fragment]))
    (replays :
      ∀ before, before <:+ fragments → ∀ other,
        other.head? = rest.head? →
          Reached inner dialect ⟨before ++ [fragment], .plain [] [], other⟩)
    (nonempty : fragment.written ≠ [])
    (apart : joined fragment.written.getLast? rest.head? = false) :
    Detached inner dialect ⟨fragments ++ [fragment], .plain [] [], rest⟩ := by
  have stretches := fun stretch => @alone_concat _ _ _ _ alone aloneAfter stretch
  refine ⟨stretches, ?_, ?_, ?_⟩
  · intro before ends other same
    rcases List.suffix_concat_iff.mp ends with rfl | ⟨others, rfl, othersEnd⟩
    · exact .refl
    · exact replays others othersEnd other (same rfl)
  · intro _ before ends
    simpa using stretches before ends.isInfix
  · intro _ _
    have last : fragment.written.getLast?.isSome = true := by
      simpa using nonempty
    simpa [lastOf, List.getLast?_append, Option.or_of_isSome last] using apart

/-- After a word and a fragment, nothing before them has a part in what is read next. -/
theorem Detached.of_flushed
    {fragment : Fragment}
    {taken : List Char}
    (detached : Detached inner dialect ⟨fragments, .plain word spelled, taken ++ rest⟩)
    (waits : Symbol.pending spelled = true)
    (takes : spelled = [] → taken ≠ [])
    (ended : spelled = [] → joined word.getLast? (taken ++ rest).head? = false)
    (moves :
      ∀ before text other,
        other.head? = rest.head? →
          Moves inner dialect
            ⟨before, .plain text spelled, taken ++ other⟩
            ⟨before ++ Fragment.wordOf text ++ [fragment], .plain [] [], other⟩)
    (atEnd :
      ∀ before text,
        Runs inner dialect
          ⟨before, .plain text spelled, taken⟩
          (.ok (before ++ Fragment.wordOf text ++ [fragment])))
    (nonempty : fragment.written ≠ [])
    (apart : joined fragment.written.getLast? rest.head? = false) :
    Detached inner dialect
      ⟨fragments ++ Fragment.wordOf word ++ [fragment], .plain [] [], rest⟩ := by
  have same :
      ∀ other, spelled = [] → (taken ++ other).head? = (taken ++ rest).head? := by
    intro other idle
    rw [List.head?_append_of_ne_nil _ (takes idle), List.head?_append_of_ne_nil _ (takes idle)]
  have words := detached.mode.1 ended
  refine detached_concat (fun _ => alone_concat_wordOf detached.alone words) ?_ ?_ nonempty apart
  · intro before ends
    obtain ⟨others, text, rfl, reached⟩ := detached.reached_concat_wordOf waits ends
    have taking := same []
    rw [List.append_nil] at taking
    exact (reached taken taking).alone (atEnd others text)
  · intro before ends other sameHead
    obtain ⟨others, text, rfl, reached⟩ := detached.reached_concat_wordOf waits ends
    exact (reached (taken ++ other) (same other)).of_moves (moves others text other sameHead)

/-- What leads on after only some of the fragments can be replayed after these. -/
theorem Detached.reached_of_moves
    {before : List Fragment}
    {mode after : Mode}
    {taken other : List Char}
    (detached : Detached inner dialect ⟨fragments, mode, taken ++ rest⟩)
    (nonempty : taken ≠ [])
    (ends : before <:+ fragments)
    (moves : Moves inner dialect ⟨before, mode, taken ++ other⟩ ⟨before, after, other⟩) :
    Reached inner dialect ⟨before, after, other⟩ := by
  have same : (taken ++ other).head? = (taken ++ rest).head? := by
    rw [List.head?_append_of_ne_nil _ nonempty, List.head?_append_of_ne_nil _ nonempty]
  exact (detached.replays before ends (taken ++ other) fun _ => same).of_moves moves

/-- In a string nothing has a part but the string. -/
theorem Detached.of_quoted_moves
    {delimiter : Char}
    {parts partsAfter : List Part}
    {segment segmentAfter : Option (List Char)}
    {taken : List Char}
    (detached :
      Detached inner dialect ⟨fragments, .quoted delimiter parts segment, taken ++ rest⟩)
    (nonempty : taken ≠ [])
    (moves :
      ∀ before other,
        other.head? = rest.head? →
          Moves inner dialect
            ⟨before, .quoted delimiter parts segment, taken ++ other⟩
            ⟨before, .quoted delimiter partsAfter segmentAfter, other⟩) :
    Detached inner dialect ⟨fragments, .quoted delimiter partsAfter segmentAfter, rest⟩ where
  alone := detached.alone
  replays before ends other same :=
    detached.reached_of_moves nonempty ends (moves before other (same rfl))
  mode := detached.mode

/-- A word that has taken all that was read stands alone. -/
theorem Detached.of_word_moves
    {taken after : List Char}
    (detached : Detached inner dialect ⟨fragments, .plain word spelled, taken ++ rest⟩)
    (nonempty : taken ≠ [])
    (moves :
      ∀ before, before <:+ fragments → ∀ other,
        Moves inner dialect
          ⟨before, .plain word spelled, taken ++ other⟩
          ⟨before, .plain after [], other⟩) :
    Detached inner dialect ⟨fragments, .plain after [], rest⟩ := by
  have reached :
      ∀ before, before <:+ fragments → ∀ other,
        Reached inner dialect ⟨before, .plain after [], other⟩ :=
    fun before ends other => detached.reached_of_moves nonempty ends (moves before ends other)
  refine ⟨detached.alone, fun before ends other _ => reached before ends other, ?_, ?_⟩
  · intro _ before ends
    have atEnd := @Runs.ended inner dialect before after []
    rw [ending_nil] at atEnd
    exact (reached before ends []).alone atEnd
  · rintro rfl
    have written := passed_of_moves (moves fragments (List.suffix_refl fragments) []) rfl
    simp [passed, Mode.written, nonempty] at written

/-- A character that brings a spelling closer is no part of the word before it. -/
theorem Detached.of_grown
    (detached : Detached inner dialect ⟨fragments, .plain word spelled, c :: rest⟩)
    (opens : spelled = [] → Matcher.openings c (lastOf fragments word) ≠ [])
    (waits : Symbol.pending (spelled ++ [c]) = true) :
    Detached inner dialect ⟨fragments, .plain word (spelled ++ [c]), rest⟩ := by
  have opensAfter :
      ∀ before, before <:+ fragments →
        spelled = [] → Matcher.openings c (lastOf before word) ≠ [] := by
    rintro before ends rfl
    rw [detached.mode.openings ends]
    exact opens rfl
  refine ⟨detached.alone, ?_, ?_, ?_⟩
  · intro before ends other _
    exact
      @reached_of_moves _ _ _ _ _ _ _ [c] other detached (by simp) ends
        (.grown (opensAfter before ends) waits)
  · intro _
    exact
      detached.mode.1 fun idle =>
        Symbol.joined_of_openings (opensAfter [] (List.nil_suffix) idle)
  · intro _ impossible
    simp at impossible

/-- A spelling that is given up stands alone with its word, unless a name goes on after it. -/
theorem Detached.of_abandoned
    (detached : Detached inner dialect ⟨fragments, .plain word spelled, c :: rest⟩)
    (nonempty : spelled ≠ [])
    (stops : Symbol.extending (spelled ++ [c]) = [])
    (undecided : Symbol.verdict spelled (some c) = none) :
    Detached inner dialect ⟨fragments, .plain (word ++ spelled) [], c :: rest⟩ := by
  refine ⟨detached.alone, ?_, ?_, ?_⟩
  · intro before ends other same
    obtain ⟨others, rfl⟩ := List.head?_eq_some_iff.mp (same rfl)
    have reached := detached.replays before ends (c :: others) fun idle => absurd idle nonempty
    exact reached.of_moves (.abandoned nonempty stops undecided)
  · intro apart before ends
    have last : spelled.getLast?.isSome = true := by
      simpa using nonempty
    have noName : joined spelled.getLast? (some c) = false := by
      simpa [List.getLast?_append, Option.or_of_isSome last] using apart rfl
    have atEnd := @Runs.ended inner dialect before word spelled
    rw [ending, Symbol.verdict_none_of_verdict undecided noName] at atEnd
    exact (detached.replays before ends [] fun idle => absurd idle nonempty).alone atEnd
  · intro empty
    simp [nonempty] at empty

/-- A character that completes the spelling of a token is no word character. -/
theorem isWordChar_of_completed
    {kind : Kind}
    (member : ⟨spelled ++ [c], .token kind⟩ ∈ Symbol.table)
    (decided : Symbol.pending (spelled ++ [c]) = false) :
    isWordChar c = false := by
  have noKeyword := (Symbol.extending_of_completed member decided).2
  rw [← Symbol.isWordChar_getLast_spelling member] at noKeyword
  simpa using noKeyword

/-- A string that has been closed has no part in what is read next. -/
theorem Detached.of_closed
    {delimiter : Char}
    {parts : List Part}
    (detached :
      Detached inner dialect ⟨fragments, .quoted delimiter parts none, delimiter :: rest⟩) :
    Detached inner dialect ⟨fragments ++ [.string delimiter parts], .plain [] [], rest⟩ := by
  have reached :
      ∀ before, before <:+ fragments → ∀ other,
        Reached inner dialect ⟨before ++ [.string delimiter parts], .plain [] [], other⟩ := by
    intro before ends other
    exact (detached.replays before ends (delimiter :: other) fun _ => rfl).of_moves .closed
  refine detached_concat detached.alone ?_ ?_ (List.cons_ne_nil _ _) ?_
  · intro before ends
    have atEnd := @Runs.ended inner dialect (before ++ [.string delimiter parts]) [] []
    rw [ending_nil, Fragment.wordOf_nil, List.append_nil] at atEnd
    exact (reached before ends []).alone atEnd
  · intro before ends other _
    exact reached before ends other
  · rw [Fragment.written, List.getLast?_concat]
    exact joined_some_left (isWordChar_of_isQuote detached.mode) _

/-- A spelling that is complete before a character has no part in what is read next. -/
theorem Detached.of_settled
    {kind : Kind}
    (detached : Detached inner dialect ⟨fragments, .plain word spelled, c :: rest⟩)
    (waits : Symbol.pending spelled = true)
    (nonempty : spelled ≠ [])
    (stops : Symbol.extending (spelled ++ [c]) = [])
    (decided : Symbol.verdict spelled (some c) = some kind) :
    Detached inner dialect
      ⟨fragments ++ Fragment.wordOf word ++ [.symbol spelled kind], .plain [] [], c :: rest⟩ := by
  have busy : ∀ claim : Prop, spelled = [] → claim := fun claim idle => absurd idle nonempty
  refine
    @of_flushed _ _ _ _ _ _ _ [] detached waits (busy _) (busy _) ?_ ?_ nonempty
      (Symbol.joined_of_verdict decided)
  · intro before text other same
    obtain ⟨others, rfl⟩ := List.head?_eq_some_iff.mp same
    exact .settled nonempty stops decided
  · intro before text
    have atEnd := @Runs.ended inner dialect before text spelled
    rwa [ending, Symbol.verdict_none_of_mem_table (Symbol.mem_table_of_verdict decided),
      ← List.append_assoc] at atEnd

/-- A fragment that ends with a character which goes to no name has no part in what is read next. -/
theorem Detached.of_taken
    {fragment : Fragment}
    (detached : Detached inner dialect ⟨fragments, .plain word spelled, c :: rest⟩)
    (waits : Symbol.pending spelled = true)
    (noLetter : isWordChar c = false)
    (written : fragment.written = spelled ++ [c])
    (moves :
      ∀ before text other,
        Moves inner dialect
          ⟨before, .plain text spelled, c :: other⟩
          ⟨before ++ Fragment.wordOf text ++ [fragment], .plain [] [], other⟩) :
    Detached inner dialect
      ⟨fragments ++ Fragment.wordOf word ++ [fragment], .plain [] [], rest⟩ := by
  refine
    @of_flushed _ _ _ _ _ _ _ [c] detached waits (fun _ => List.cons_ne_nil c [])
      (fun _ => joined_some_right noLetter _) ?_ ?_ (by simp [written]) ?_
  · intro before text other _
    exact moves before text other
  · intro before text
    have atEnd :=
      @Runs.ended inner dialect (before ++ Fragment.wordOf text ++ [fragment]) [] []
    rw [ending_nil, Fragment.wordOf_nil, List.append_nil] at atEnd
    exact .moved (moves before text []) atEnd
  · rw [written, List.getLast?_concat]
    exact joined_some_left noLetter _

/-- Reading on leaves what is read detached from what was read before. -/
theorem Detached.of_moves
    {account after : Account}
    (sound : Sound inner dialect account)
    (detached : Detached inner dialect account)
    (moves : Moves inner dialect account after) :
    Detached inner dialect after := by
  cases moves with
  | blank space =>
      have waits := sound.mode.2.2
      exact
        detached.of_taken waits (isWordChar_of_isSpace space) rfl fun _ _ _ => .blank space
  | @unknown fragments word c rest space refused =>
      refine @of_word_moves _ _ _ _ _ _ [c] _ detached (by simp) ?_
      intro before ends other
      refine .unknown space ?_
      rwa [detached.mode.openings ends]
  | grown opens waits => exact detached.of_grown opens waits
  | token member decided =>
      have waits := sound.mode.2.2
      exact
        detached.of_taken waits (isWordChar_of_completed member decided) rfl fun _ _ _ =>
          .token member decided
  | @quote fragments word c rest quote =>
      have waits := sound.mode.2.2
      have words := detached.mode.1 fun _ => joined_some_right (isWordChar_of_isQuote quote) _
      refine ⟨fun _ => alone_concat_wordOf detached.alone words, ?_, quote⟩
      intro before ends other _
      obtain ⟨others, text, rfl, reached⟩ := detached.reached_concat_wordOf waits ends
      exact (reached (c :: other) fun _ => rfl).of_moves (.quote quote)
  | @escaped fragments word c rest mark =>
      exact @of_word_moves _ _ _ _ _ _ [c] _ detached (by simp) fun _ _ _ => .escaped mark
  | settled nonempty stops decided =>
      exact detached.of_settled sound.mode.2.2 nonempty stops decided
  | abandoned nonempty stops undecided => exact detached.of_abandoned nonempty stops undecided
  | @escape fragments delimiter parts c decoded rest decodes =>
      exact
        @of_quoted_moves _ _ _ _ _ _ _ _ _ ['\\', c] detached (by simp) fun _ _ _ =>
          .escape decodes
  | @stray fragments delimiter parts rest undecoded =>
      refine @of_quoted_moves _ _ _ _ _ _ _ _ _ ['\\'] detached (by simp) ?_
      intro before other same
      rw [← same] at undecoded
      exact .stray undecoded
  | closed => exact detached.of_closed
  | @opened fragments delimiter parts rest interpolates =>
      exact
        @of_quoted_moves _ _ _ _ _ _ _ _ _ [interpolationMark] detached (by simp) fun _ _ _ =>
          .opened interpolates
  | @verbatim fragments delimiter parts c rest noBackslash noDelimiter noMark =>
      exact
        @of_quoted_moves _ _ _ _ _ _ _ _ _ [c] detached (by simp) fun _ _ _ =>
          .verbatim noBackslash noDelimiter noMark
  | @gathered fragments delimiter parts raw c rest noMark =>
      exact
        @of_quoted_moves _ _ _ _ _ _ _ _ _ [c] detached (by simp) fun _ _ _ => .gathered noMark
  | @tokenized fragments delimiter parts raw tokens rest reads =>
      exact
        @of_quoted_moves _ _ _ _ _ _ _ _ _ [interpolationMark] detached (by simp) fun _ _ _ =>
          .tokenized reads

end Detached

/-- Each stretch of the fragments that a line falls into stands alone. -/
theorem Detached.alone_of_runs
    {account : Account}
    {fragments stretch : List Fragment}
    (sound : Sound inner dialect account)
    (detached : Detached inner dialect account)
    (runs : Runs inner dialect account (.ok fragments))
    (inside : stretch <:+: fragments) :
    Alone inner dialect stretch := by
  generalize shape : Except.ok fragments = result at runs
  induction runs with
  | ended =>
      cases shape
      exact detached.alone_ending sound.mode.2.2 inside
  | failed fails => cases shape
  | moved moves runs inductionHypothesis =>
      exact inductionHypothesis (sound.of_moves moves) (detached.of_moves sound moves) shape

/-- A stretch of fragments that stand alone stands alone itself. -/
theorem Alone.of_infix
    {fragments stretch : List Fragment}
    (alone : Alone inner dialect fragments)
    (inside : stretch <:+: fragments) :
    Alone inner dialect stretch :=
  (detached_ofText _).alone_of_runs (sound_ofText _) alone inside

end Account

end

end Brace
