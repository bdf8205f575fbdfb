import Brace.Proofs.Account.Scan

namespace Brace.Matcher

/-!
# The longest spelling first

The matcher reads a text piece by piece: each piece is the longest beginning of what is left that
begins a spelling, or one character if there is none.  So a symbol that is recognised before the
next character is seen is the one that would have been recognised after it.
-/

/-! ## Pieces of a text -/

/-- What the matcher found in a piece of the text. -/
inductive Finding
  /-- A symbol. -/
  | symbol (symbol : Symbol) (start stop : Nat)
  /-- Text from `start` on that spells no symbol. -/
  | text (text : List Char) (start : Nat)
  deriving Repr, DecidableEq

/-- The finding that a step brought, whether or not its character was consumed. -/
def Step.finding? : Step → Option Finding
  | pending => none
  | matched symbol start stop _ => some (.symbol symbol start stop)
  | unknown text start _ => some (.text text start)

/-- All findings of a run in order. -/
def Run.findings (run : Run) : List Finding :=
  (run.steps.map Prod.snd ++ run.finish.toList).filterMap Step.finding?

/-- Some characters begin a spelling that can stand after the character `prev`. -/
def Begins (prev : Option Char) (piece : List Char) : Prop :=
  ∃ symbol ∈ Symbol.table,
    piece <+: symbol.spelling ∧ (symbol.isKeyword = true → prev.any isWordChar = false)

/-- The piece with which the reading of a text goes on. -/
inductive Munch (prev : Option Char) (text : List Char) : List Char → Prop
  /-- The longest beginning of the text that begins a spelling. -/
  | longest {piece}
      (nonempty : piece ≠ [])
      (ofText : piece <+: text)
      (begins : Begins prev piece)
      (maximal : ∀ longer, longer <+: text → Begins prev longer → longer.length ≤ piece.length) :
      Munch prev text piece
  /-- The first character, if no beginning of the text begins a spelling. -/
  | single {c}
      (ofText : [c] <+: text)
      (nothing : ∀ piece, piece ≠ [] → piece <+: text → ¬ Begins prev piece) :
      Munch prev text [c]

/-- What a piece from `start` on is when `next` comes after it. -/
def finding (piece : List Char) (next : Option Char) (start : Nat) : Finding :=
  match Symbol.find? piece with
  | some symbol =>
      if symbol.isKeyword && next.any isWordChar then .text piece start
      else .symbol symbol start (start + piece.length)
  | none => .text piece start

/-- The findings in a text from a position on, piece by piece. -/
inductive Segments : Option Char → Nat → List Char → List Finding → Prop
  | nil {prev pos} :
      Segments prev pos [] []
  | cons {prev pos piece rest findings}
      (munch : Munch prev (piece ++ rest) piece)
      (others : Segments piece.getLast? (pos + piece.length) rest findings) :
      Segments prev pos (piece ++ rest) (finding piece rest.head? pos :: findings)

theorem Munch.isPrefix
    {prev : Option Char}
    {text piece : List Char}
    (munch : Munch prev text piece) :
    piece <+: text := by
  cases munch with
  | longest _ ofText _ _ => exact ofText
  | single ofText _ => exact ofText

theorem Munch.ne_nil
    {prev : Option Char}
    {text piece : List Char}
    (munch : Munch prev text piece) :
    piece ≠ [] := by
  cases munch with
  | longest nonempty _ _ _ => exact nonempty
  | single _ _ => exact List.cons_ne_nil _ _

/-- There is one piece with which the reading goes on. -/
theorem Munch.unique
    {prev : Option Char}
    {text piece other : List Char}
    (munch : Munch prev text piece)
    (otherMunch : Munch prev text other) :
    piece = other := by
  have sizes : piece.length = other.length := by
    cases munch with
    | longest nonempty ofText begins maximal =>
        cases otherMunch with
        | longest _ otherOfText otherBegins otherMaximal =>
            exact
              Nat.le_antisymm (otherMaximal piece ofText begins)
                (maximal other otherOfText otherBegins)
        | single _ nothing => exact absurd begins (nothing piece nonempty ofText)
    | single _ nothing =>
        cases otherMunch with
        | longest nonempty ofText begins _ => exact absurd begins (nothing other nonempty ofText)
        | single _ _ => rfl
  exact (List.prefix_of_prefix_length_le munch.isPrefix otherMunch.isPrefix sizes.le).eq_of_length
    sizes

/-- A text has one list of findings. -/
theorem Segments.unique
    {prev : Option Char}
    {pos : Nat}
    {text : List Char}
    {findings others : List Finding}
    (segments : Segments prev pos text findings)
    (otherSegments : Segments prev pos text others) :
    others = findings := by
  induction segments generalizing others with
  | nil =>
      generalize shape : ([] : List Char) = text at otherSegments
      cases otherSegments with
      | nil => rfl
      | cons munch _ => exact absurd (List.append_eq_nil_iff.mp shape.symm).1 munch.ne_nil
  | @cons prev pos piece rest findings munch _ inductionHypothesis =>
      generalize shape : piece ++ rest = text at otherSegments
      cases otherSegments with
      | nil => exact absurd (List.append_eq_nil_iff.mp shape).1 munch.ne_nil
      | @cons _ _ other otherRest otherFindings otherMunch otherSegments =>
          rw [shape] at munch
          obtain rfl := munch.unique otherMunch
          obtain rfl := List.append_cancel_left shape
          rw [inductionHypothesis otherSegments]

/-! ## What begins a spelling -/

theorem Begins.extendable
    {prev : Option Char}
    {piece : List Char}
    (begins : Begins prev piece) :
    Symbol.extending piece ≠ [] := by
  obtain ⟨symbol, member, spells, _⟩ := begins
  exact List.ne_nil_of_mem (Symbol.mem_extending.mpr ⟨member, spells⟩)

/-- A first character decides whether keywords are open; the symbols left decide the rest. -/
theorem begins_cons
    {prev : Option Char}
    {c : Char}
    {piece : List Char} :
    Begins prev (c :: piece) ↔
      Symbol.extending (c :: piece) ≠ [] ∧ (isWordChar c = true → prev.any isWordChar = false) := by
  constructor
  · intro begins
    refine ⟨begins.extendable, ?_⟩
    obtain ⟨symbol, member, spells, free⟩ := begins
    rwa [Symbol.isKeyword_of_mem_extending (Symbol.mem_extending.mpr ⟨member, spells⟩)] at free
  · rintro ⟨extendable, free⟩
    obtain ⟨symbol, extended⟩ := List.exists_mem_of_ne_nil _ extendable
    obtain ⟨member, begins⟩ := Symbol.mem_extending.mp extended
    rw [← Symbol.isKeyword_of_mem_extending extended] at free
    exact ⟨symbol, member, begins, free⟩

/-- A character is open exactly if it begins a spelling. -/
theorem openings_ne_nil_iff
    {prev : Option Char}
    {c : Char} :
    openings c prev ≠ [] ↔ Begins prev [c] := by
  rw [begins_cons, Symbol.openings_eq]
  cases isWordChar c <;> cases prev.any isWordChar <;> simp

/-- What begins a spelling begins it with each of its beginnings. -/
theorem Begins.of_prefix
    {prev : Option Char}
    {piece longer : List Char}
    (begins : Begins prev longer)
    (shorter : piece <+: longer) :
    Begins prev piece := by
  obtain ⟨symbol, member, spells, free⟩ := begins
  exact ⟨symbol, member, shorter.trans spells, free⟩

/-- Characters that begin a spelling go on to begin one as long as there are symbols left. -/
theorem Begins.concat
    {prev : Option Char}
    {piece : List Char}
    {c : Char}
    (nonempty : piece ≠ [])
    (begins : Begins prev piece)
    (extendable : Symbol.extending (piece ++ [c]) ≠ []) :
    Begins prev (piece ++ [c]) := by
  cases piece with
  | nil => contradiction
  | cons first piece => exact begins_cons.mpr ⟨extendable, (begins_cons.mp begins).2⟩

/-! ## Where a piece ends -/

/-- A piece that no character of the text can make longer is the longest. -/
theorem Munch.of_stuck
    {prev : Option Char}
    {piece rest : List Char}
    (nonempty : piece ≠ [])
    (begins : Begins prev piece)
    (stuck : ∀ c, rest.head? = some c → ¬ Begins prev (piece ++ [c])) :
    Munch prev (piece ++ rest) piece := by
  refine .longest nonempty (List.prefix_append piece rest) begins ?_
  intro longer ofText beginsLonger
  by_contra exceeds
  obtain ⟨more, rfl⟩ : piece <+: longer :=
    List.prefix_of_prefix_length_le (List.prefix_append piece rest) ofText (by omega)
  rw [List.prefix_append_right_inj] at ofText
  cases more with
  | nil => simp at exceeds
  | cons c more =>
      refine stuck c ?_ (beginsLonger.of_prefix ⟨more, by simp⟩)
      obtain ⟨others, rfl⟩ := ofText
      rfl

/-- A character that is not open is a piece. -/
theorem Munch.of_refused
    {prev : Option Char}
    {c : Char}
    {rest : List Char}
    (refused : openings c prev = []) :
    Munch prev (c :: rest) [c] := by
  refine .single ⟨rest, rfl⟩ ?_
  intro piece nonempty ofText begins
  cases piece with
  | nil => contradiction
  | cons first piece =>
      obtain ⟨rfl, _⟩ := List.cons_prefix_cons.mp ofText
      exact openings_ne_nil_iff.mpr (begins.of_prefix ⟨piece, rfl⟩) refused

/-- A spelling that nothing else begins with ends its piece. -/
theorem Munch.of_completed
    {prev : Option Char}
    {piece rest : List Char}
    {meaning : Meaning}
    (begins : Begins prev piece)
    (sole : Symbol.extending piece = [⟨piece, meaning⟩]) :
    Munch prev (piece ++ rest) piece := by
  refine .of_stuck (Symbol.spelling_ne_nil (Symbol.mem_table_of_sole sole)) begins ?_
  rintro c - ⟨symbol, inTable, spells, _⟩
  have same : symbol ∈ Symbol.extending piece :=
    Symbol.mem_extending.mpr ⟨inTable, (List.prefix_append piece [c]).trans spells⟩
  rw [sole, List.mem_singleton] at same
  rw [same] at spells
  have short : (piece ++ [c]).length ≤ piece.length := spells.length_le
  rw [List.length_append, List.length_singleton] at short
  omega

/-! ## What a piece is -/

/-- A character that is not open spells no symbol. -/
theorem finding_of_refused
    {prev next : Option Char}
    {c : Char}
    {start : Nat}
    (refused : openings c prev = []) :
    finding [c] next start = .text [c] start := by
  have noKeyword : ∀ symbol ∈ Symbol.table, symbol.spelling.length = 1 →
      symbol.isKeyword = false := by
    decide +kernel
  unfold finding
  cases found : Symbol.find? [c] with
  | none => rfl
  | some symbol =>
      obtain ⟨member, spells⟩ := Symbol.find?_eq_some_iff.mp found
      have other := noKeyword symbol member (by simp [spells])
      have begins : Begins prev [c] :=
        ⟨symbol, member, spells ▸ List.prefix_refl _, by simp [other]⟩
      exact absurd refused (openings_ne_nil_iff.mpr begins)

theorem finding_of_completed
    {next : Option Char}
    {piece : List Char}
    {meaning : Meaning}
    {start : Nat}
    (sole : Symbol.extending piece = [⟨piece, meaning⟩])
    (other : Symbol.isKeyword ⟨piece, meaning⟩ = false) :
    finding piece next start = .symbol ⟨piece, meaning⟩ start (start + piece.length) := by
  have found : Symbol.find? piece = some ⟨piece, meaning⟩ :=
    Symbol.find?_eq_some_iff.mpr ⟨Symbol.mem_table_of_sole sole, rfl⟩
  simp [finding, found, other]

/-- A match that ends is resolved as its characters are found. -/
theorem finding?_resolve
    (start : Nat)
    (spelled : List Char)
    (next : Option Char) :
    (resolve start spelled next (start + spelled.length)).finding? =
      some (finding spelled next start) := by
  unfold resolve finding
  cases Symbol.find? spelled with
  | none => rfl
  | some symbol =>
      dsimp only
      split <;> rfl

/-! ## Driving the matcher -/

/-- A matcher that is driven over a text and finished brings some findings. -/
def Finds
    (matcher : Matcher)
    (prev : Option Char)
    (pos : Nat)
    (text : List Char)
    (findings : List Finding) : Prop :=
  ∃ steps last stop,
    matcher.drive prev pos text = .ok (steps, last, stop) ∧
      (Run.mk steps (last.finish stop)).findings = findings

section

variable {matcher after : Matcher} {prev : Option Char} {pos : Nat} {c : Char} {rest : List Char}
  {step : Step} {findings : List Finding}

/-- A character that is consumed brings its finding before the others. -/
theorem Finds.of_consumed
    (fed : matcher.feed c prev pos = .ok (after, step))
    (consumed : step.consumed = true)
    (fits : pos + 1 < Offset.limit)
    (others : after.Finds (some c) (pos + 1) rest findings) :
    matcher.Finds prev pos (c :: rest) (step.finding?.toList ++ findings) := by
  obtain ⟨steps, last, stop, drives, rfl⟩ := others
  have next : Offset.add pos 1 = .ok (pos + 1) :=
    Offset.add_eq_ok.mpr ⟨fits, rfl⟩
  refine ⟨(after, step) :: steps, last, stop, ?_, ?_⟩
  · simp [drive, feedThrough, fed, consumed, next, drives, bind, Except.bind, pure, Except.pure]
  · cases found : step.finding? <;> simp [Run.findings, found]

/-- A character that only ended a match is fed again. -/
theorem Finds.of_unconsumed
    (fed : matcher.feed c prev pos = .ok (idle, step))
    (unconsumed : step.consumed = false)
    (others : idle.Finds prev pos (c :: rest) findings) :
    matcher.Finds prev pos (c :: rest) (step.finding?.toList ++ findings) := by
  obtain ⟨steps, last, stop, drives, rfl⟩ := others
  obtain ⟨⟨first, later⟩, through, goesOn⟩ := Halt.bind_eq_ok.mp drives
  have again : matcher.feedThrough c prev pos = .ok ((idle, step) :: first, later) := by
    obtain ⟨⟨final, again⟩, fedAgain, through⟩ := Halt.bind_eq_ok.mp through
    have consumed : again.consumed = true := by
      by_contra notConsumed
      rw [Bool.not_eq_true] at notConsumed
      exact absurd (feed_not_consumed fedAgain notConsumed).1 (by decide)
    simp only [consumed, ↓reduceIte] at through
    cases through
    simp [feedThrough, fed, unconsumed, fedAgain, bind, Except.bind, pure, Except.pure]
  obtain ⟨next, counted, goesOn⟩ := Halt.bind_eq_ok.mp goesOn
  obtain ⟨⟨others, final, ending⟩, drives, same⟩ := Halt.bind_eq_ok.mp goesOn
  cases same
  refine ⟨(idle, step) :: first ++ others, last, stop, ?_, ?_⟩
  · simp [drive, again, counted, drives, bind, Except.bind, pure, Except.pure]
  · cases found : step.finding? <;> simp [Run.findings, found]

end

/-! ## Reading piece by piece -/

/--
A matcher that has spelled some characters from `start` on, where `before` is the character before
them, reads on in pieces, of which the first begins with these characters.
-/
def ReadsOn (before : Option Char) (start : Nat) (spelled text : List Char) : Prop :=
  ∃ findings,
    (ofSpelled start spelled).Finds (spelled.getLast?.or before) (start + spelled.length) text
        findings ∧
      Segments before start (spelled ++ text) findings

section

variable {before : Option Char} {start : Nat} {spelled rest : List Char} {c : Char}

/-- A character that goes on with a spelling extends the match. -/
theorem feed_of_begins
    (begins : Begins before (spelled ++ [c])) :
    (ofSpelled start spelled).feed c (spelled.getLast?.or before) (start + spelled.length) =
      extend start (spelled ++ [c]) (Symbol.extending (spelled ++ [c]))
        (start + spelled.length) := by
  refine feed_ofSpelled ?_ begins.extendable
  rintro rfl
  exact openings_ne_nil_iff.mpr begins

theorem readsOn_nil
    (begins : spelled ≠ [] → Begins before spelled) :
    ReadsOn before start spelled [] := by
  cases spelled with
  | nil => exact ⟨[], ⟨[], idle, start, rfl, rfl⟩, .nil⟩
  | cons first spelled =>
      have nonempty := List.cons_ne_nil first spelled
      have munch : Munch before (first :: spelled ++ []) (first :: spelled) :=
        .of_stuck nonempty (begins nonempty) nofun
      refine ⟨[finding (first :: spelled) none start], ?_, .cons munch .nil⟩
      refine ⟨[], ofSpelled start (first :: spelled), _, rfl, ?_⟩
      simp only [Run.findings, ofSpelled, finish, List.map_nil, List.nil_append,
        Option.toList_some, List.filterMap_cons, finding?_resolve, List.filterMap_nil]

theorem readsOn_refused
    (refused : openings c before = [])
    (fits : start + 1 < Offset.limit)
    (others : ReadsOn (some c) (start + 1) [] rest) :
    ReadsOn before start [] (c :: rest) := by
  obtain ⟨findings, finds, segments⟩ := others
  refine ⟨_, .of_consumed (feed_refused refused) rfl fits finds, ?_⟩
  have piece : Segments before start ([c] ++ rest) _ := .cons (.of_refused refused) segments
  rw [finding_of_refused refused] at piece
  exact piece

/-- A character that leaves a spelling open belongs to the piece, which may go on. -/
theorem readsOn_pending
    (begins : Begins before (spelled ++ [c]))
    (waits : Symbol.pending (spelled ++ [c]) = true)
    (fits : start + spelled.length + 1 < Offset.limit)
    (others : ReadsOn before start (spelled ++ [c]) rest) :
    ReadsOn before start spelled (c :: rest) := by
  obtain ⟨findings, finds, segments⟩ := others
  rw [List.getLast?_concat, Option.some_or, List.length_append, List.length_singleton,
    ← Nat.add_assoc] at finds
  rw [List.append_assoc, List.singleton_append] at segments
  refine ⟨findings, ?_, segments⟩
  have fed := @feed_of_begins before start spelled c begins
  rw [extend_of_pending waits, ← ofSpelled_concat] at fed
  exact .of_consumed fed rfl fits finds

/-- A character that completes the only spelling left ends the piece. -/
theorem readsOn_completed
    (begins : Begins before (spelled ++ [c]))
    (decided : Symbol.pending (spelled ++ [c]) = false)
    (fits : start + spelled.length + 1 < Offset.limit)
    (others : ReadsOn (some c) (start + spelled.length + 1) [] rest) :
    ReadsOn before start spelled (c :: rest) := by
  obtain ⟨findings, finds, segments⟩ := others
  obtain ⟨meaning, sole, other⟩ := Symbol.eq_singleton_of_not_pending begins.extendable decided
  have fed := @feed_of_begins before start spelled c begins
  rw [sole, extend_of_completed other fits] at fed
  have piece :
      Segments before start (spelled ++ [c] ++ rest)
        (finding (spelled ++ [c]) rest.head? start :: findings) := by
    refine .cons (.of_completed begins sole) ?_
    rw [List.getLast?_concat, List.length_append, List.length_singleton, ← Nat.add_assoc]
    exact segments
  rw [finding_of_completed sole other, List.append_assoc, List.singleton_append,
    List.length_append, List.length_singleton, ← Nat.add_assoc] at piece
  exact ⟨_, .of_consumed fed rfl fits finds, piece⟩

/-- A character that no spelling goes on with begins the next piece. -/
theorem readsOn_stopped
    (nonempty : spelled ≠ [])
    (begins : Begins before spelled)
    (stops : Symbol.extending (spelled ++ [c]) = [])
    (others : ReadsOn spelled.getLast? (start + spelled.length) [] (c :: rest)) :
    ReadsOn before start spelled (c :: rest) := by
  obtain ⟨findings, finds, segments⟩ := others
  have stuck : ∀ d, (c :: rest).head? = some d → ¬ Begins before (spelled ++ [d]) := by
    rintro d isNext longer
    cases isNext
    exact longer.extendable stops
  have piece := Segments.cons (.of_stuck nonempty begins stuck) segments
  have again :
      idle.Finds (spelled.getLast?.or before) (start + spelled.length) (c :: rest) findings := by
    cases shape : spelled.getLast? with
    | none => exact absurd (List.getLast?_eq_none_iff.mp shape) nonempty
    | some last =>
        rw [shape] at finds
        exact finds
  have fed :=
    @feed_stopped start (start + spelled.length) spelled c (spelled.getLast?.or before) nonempty
      stops
  have brings := Finds.of_unconsumed fed (consumed_resolve _ _ _ _) again
  rw [finding?_resolve] at brings
  exact ⟨_, brings, piece⟩

/-- The induction is on the text: each character joins a piece, ends one or begins the next. -/
theorem readsOn
    {text : List Char}
    (begins : spelled ≠ [] → Begins before spelled)
    (fits : start + spelled.length + text.length < Offset.limit) :
    ReadsOn before start spelled text := by
  induction text generalizing before start spelled with
  | nil => exact readsOn_nil begins
  | cons c rest inductionHypothesis =>
      rw [List.length_cons] at fits
      -- The character joins what is spelled, or it is the first of a piece.
      have joins :
          ∀ {before start spelled},
            Begins before (spelled ++ [c]) →
              start + spelled.length + (rest.length + 1) < Offset.limit →
                ReadsOn before start spelled (c :: rest) := by
        intro before start spelled begins fits
        cases waits : Symbol.pending (spelled ++ [c]) with
        | true =>
            refine readsOn_pending begins waits (by omega) ?_
            refine inductionHypothesis (fun _ => begins) ?_
            simp only [List.length_append, List.length_singleton]
            omega
        | false =>
            refine readsOn_completed begins waits (by omega) (inductionHypothesis nofun ?_)
            simp only [List.length_nil]
            omega
      have starts :
          ∀ {before start},
            start + (rest.length + 1) < Offset.limit → ReadsOn before start [] (c :: rest) := by
        intro before start fits
        by_cases refused : openings c before = []
        · refine readsOn_refused refused (by omega) (inductionHypothesis nofun ?_)
          simp only [List.length_nil]
          omega
        · exact joins (openings_ne_nil_iff.mp refused) (by simpa using fits)
      by_cases fresh : spelled = []
      · subst fresh
        exact starts (by simpa using fits)
      · by_cases stops : Symbol.extending (spelled ++ [c]) = []
        · exact readsOn_stopped fresh (begins fresh) stops (starts (by omega))
        · exact joins ((begins fresh).concat fresh stops) fits

end

/--
An idle matcher reads a text whose positions are offsets, and what it finds are the pieces of the
text: each the longest that begins a spelling, or one character where there is none.
-/
theorem run_munches
    {text : String}
    {prev : Option Char}
    {pos : Nat}
    (fits : pos + text.length < Offset.limit) :
    ∃ result,
      run text prev pos = .ok result ∧
        ∀ findings, Segments prev pos text.toList findings ↔ findings = result.findings := by
  obtain ⟨findings, ⟨steps, last, stop, drives, rfl⟩, segments⟩ :=
    @readsOn prev pos [] text.toList nofun (by simpa [String.length_toList] using fits)
  refine ⟨⟨steps, last.finish stop⟩, ?_, fun findings => ⟨segments.unique, ?_⟩⟩
  · change idle.drive prev pos text.toList = _ at drives
    simp [run, drives, bind, Except.bind, pure, Except.pure]
  · rintro rfl
    exact segments

/-- Question marks that belong to two pieces, and keywords before and after other characters. -/
theorem run_munches_mixed :
    Segments (some 'a') 7 "????\x7btryx\\'if".toList
      [.text ['?', '?'] 7, .symbol ⟨['?', '?', '{'], .token .openBlockFunc⟩ 9 12,
        .text ['t', 'r', 'y'] 12, .text ['x'] 15, .symbol ⟨['\\', '\''], .escaped⟩ 16 18,
        .symbol ⟨['i', 'f'], .token .ifKeyword⟩ 18 20] := by
  obtain ⟨result, reads, only⟩ :=
    @run_munches "????\x7btryx\\'if" (some 'a') 7 (by decide)
  refine (only _).mpr ?_
  have found :
      (run "????\x7btryx\\'if" (some 'a') 7).map Run.findings =
        .ok
          [.text ['?', '?'] 7, .symbol ⟨['?', '?', '{'], .token .openBlockFunc⟩ 9 12,
            .text ['t', 'r', 'y'] 12, .text ['x'] 15, .symbol ⟨['\\', '\''], .escaped⟩ 16 18,
            .symbol ⟨['i', 'f'], .token .ifKeyword⟩ 18 20] := by
    rfl
  rw [reads] at found
  exact (Except.ok.inj found).symm

end Brace.Matcher
