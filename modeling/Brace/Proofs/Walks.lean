import Mathlib.Data.List.DropRight
import Brace.Proofs.Account.Scan

namespace Brace.Matcher

/-!
# Calls in any order

A matcher can be fed and finished in any order, with characters, positions and characters before
them that need not come from one text.  What it holds is still determined by the characters that it
was fed since it was last idle: it waits on exactly these, from the position of the first of them
on, and its candidates are the symbols of the table that they begin.
-/

/-! ## Histories -/

/-- A call with the matcher after it and the step that it brought. -/
abbrev Record :=
  Call × Matcher × Option Step

namespace Call

/-- The character that a call feeds, with its position. -/
def fed? : Call → Option (Char × Nat)
  | feed c _ pos => some (c, pos)
  | finish _ => none

/-- The position after that of a character that is fed is an offset. -/
def Fits : Call → Prop
  | feed _ _ pos => pos + 1 < Offset.limit
  | finish _ => True

end Call

/-- The matcher after some calls, the first of which was made to an idle one. -/
def latest (history : List Record) : Matcher :=
  (history.getLast?.map fun record => record.2.1).getD .idle

/--
The characters that were fed since the matcher was last idle, with their positions: those of the
calls after the last one that left it idle.
-/
def walk (history : List Record) : List (Char × Nat) :=
  (history.rtakeWhile fun record => !record.2.1.isIdle).filterMap fun record => record.1.fed?

/-- The characters of a walk. -/
def spelling (walk : List (Char × Nat)) : List Char :=
  walk.map Prod.fst

/-- The position of the first character of a walk. -/
def origin (walk : List (Char × Nat)) : Nat :=
  (walk.head?.map Prod.snd).getD 0

@[simp] theorem latest_concat
    (history : List Record)
    (record : Record) :
    latest (history ++ [record]) = record.2.1 := by
  simp [latest]

/-- A call that leaves the matcher idle ends its walk, and any other call goes on with it. -/
theorem walk_concat
    (history : List Record)
    (record : Record) :
    walk (history ++ [record]) =
      if record.2.1.isIdle then [] else walk history ++ record.1.fed?.toList := by
  unfold walk
  rw [List.rtakeWhile_concat]
  cases record.2.1.isIdle with
  | true => rfl
  | false => cases fed : record.1.fed? <;> simp [fed]

/-! ## What a call can do -/

/--
What a call to a matcher that is on a walk brings: the matcher after it and a step.
-/
inductive Brings (walk : List (Char × Nat)) : Call → Matcher → Option Step → Prop
  /-- A character that opens nothing. -/
  | refused {c prev pos}
      (idle : walk = []) :
      Brings walk (.feed c prev pos) .idle (some (.unknown [c] pos true))
  /-- A character that the matcher goes on to wait with. -/
  | grown {c prev pos}
      (waits : Symbol.pending (spelling (walk ++ [(c, pos)])) = true) :
      Brings walk (.feed c prev pos)
        (ofSpelled (origin (walk ++ [(c, pos)])) (spelling (walk ++ [(c, pos)])))
        (some .pending)
  /-- A character that completes the only spelling left. -/
  | completed {c prev pos symbol}
      (member : symbol ∈ Symbol.table)
      (spells : symbol.spelling = spelling (walk ++ [(c, pos)])) :
      Brings walk (.feed c prev pos) .idle
        (some (.matched symbol (origin (walk ++ [(c, pos)])) (pos + 1) true))
  /-- A character with which no spelling goes on. -/
  | stopped {c prev pos}
      (matching : walk ≠ []) :
      Brings walk (.feed c prev pos) .idle
        (some (resolve (origin walk) (spelling walk) (some c) pos))
  /-- The end of a match. -/
  | ended {pos}
      (matching : walk ≠ []) :
      Brings walk (.finish pos) .idle
        (some (resolve (origin walk) (spelling walk) none pos))
  /-- The end where nothing is being matched. -/
  | nothing {pos}
      (idle : walk = []) :
      Brings walk (.finish pos) .idle none

/-- A matcher on a walk waits on its characters. -/
structure On (walk : List (Char × Nat)) (matcher : Matcher) : Prop where
  waits : Symbol.pending (spelling walk) = true
  eq : matcher = ofSpelled (origin walk) (spelling walk)

theorem on_idle : On [] .idle where
  waits := Symbol.pending_nil
  eq := rfl

/-- A matcher that has spelled something goes on with a character at whatever position. -/
theorem feed_of_extendable
    {start pos : Nat}
    {spelled : List Char}
    {c : Char}
    {prev : Option Char}
    (matching : spelled ≠ [])
    (extendable : Symbol.extending (spelled ++ [c]) ≠ []) :
    (ofSpelled start spelled).feed c prev pos =
      extend start (spelled ++ [c]) (Symbol.extending (spelled ++ [c])) pos := by
  cases spelled with
  | nil => contradiction
  | cons first spelled => exact feed_extended extendable

theorem spelling_ne_nil
    {walk : List (Char × Nat)}
    (matching : walk ≠ []) :
    spelling walk ≠ [] := by
  simpa [spelling] using matching

theorem spelling_concat
    (walk : List (Char × Nat))
    (c : Char)
    (pos : Nat) :
    spelling (walk ++ [(c, pos)]) = spelling walk ++ [c] := by
  simp [spelling]

theorem origin_concat
    {walk : List (Char × Nat)}
    (matching : walk ≠ [])
    (c : Char)
    (pos : Nat) :
    origin (walk ++ [(c, pos)]) = origin walk := by
  simp [origin, List.head?_append_of_ne_nil _ matching]

/-- A match that goes on either waits or is complete. -/
theorem brings_of_extend
    {walk : List (Char × Nat)}
    {c : Char}
    {prev : Option Char}
    {pos : Nat}
    (fits : pos + 1 < Offset.limit)
    (extendable : Symbol.extending (spelling (walk ++ [(c, pos)])) ≠ []) :
    ∃ after step,
      extend (origin (walk ++ [(c, pos)])) (spelling (walk ++ [(c, pos)]))
            (Symbol.extending (spelling (walk ++ [(c, pos)]))) pos =
          .ok (after, step) ∧
        Brings walk (.feed c prev pos) after (some step) := by
  cases waits : Symbol.pending (spelling (walk ++ [(c, pos)])) with
  | true =>
      have shape :
          ofSpelled (origin (walk ++ [(c, pos)])) (spelling (walk ++ [(c, pos)])) =
            matching (origin (walk ++ [(c, pos)])) (spelling (walk ++ [(c, pos)]))
              (Symbol.extending (spelling (walk ++ [(c, pos)]))) := by
        rw [spelling_concat, ofSpelled_concat]
      refine ⟨_, _, extend_of_pending waits, ?_⟩
      rw [← shape]
      exact .grown waits
  | false =>
      obtain ⟨meaning, sole, other⟩ := Symbol.eq_singleton_of_not_pending extendable waits
      rw [sole]
      exact
        ⟨_, _, extend_of_completed other fits, .completed (Symbol.mem_table_of_sole sole) rfl⟩

/-- A call to a matcher on a walk brings one of these things, unless an offset is too large. -/
theorem On.brings
    {walk : List (Char × Nat)}
    {matcher : Matcher}
    {call : Call}
    (on : On walk matcher)
    (fits : call.Fits) :
    ∃ after step, matcher.perform call = .ok (after, step) ∧ Brings walk call after step := by
  obtain ⟨waits, rfl⟩ := on
  cases call with
  | finish pos =>
      cases walk with
      | nil => exact ⟨_, _, rfl, .nothing rfl⟩
      | cons first rest => exact ⟨_, _, rfl, .ended (List.cons_ne_nil first rest)⟩
  | feed c prev pos =>
      suffices brings :
          ∃ after step,
            (ofSpelled (origin walk) (spelling walk)).feed c prev pos = .ok (after, step) ∧
              Brings walk (.feed c prev pos) after (some step) by
        obtain ⟨after, step, fed, brings⟩ := brings
        refine ⟨after, some step, ?_, brings⟩
        simp only [perform, fed]
        rfl
      by_cases idle : walk = []
      · subst idle
        by_cases opens : openings c prev = []
        · exact ⟨_, _, feed_refused opens, .refused rfl⟩
        · have extendable : Symbol.extending [c] ≠ [] := by
            intro stops
            rw [Symbol.openings_eq, stops] at opens
            exact opens (by split <;> rfl)
          have fed : (ofSpelled (origin []) (spelling [])).feed c prev pos = _ :=
            feed_opened opens
          rw [fed]
          exact @brings_of_extend [] c prev pos fits extendable
      · have matching := spelling_ne_nil idle
        by_cases stops : Symbol.extending (spelling walk ++ [c]) = []
        · exact ⟨_, _, feed_stopped matching stops, .stopped idle⟩
        · rw [feed_of_extendable matching stops, ← spelling_concat walk c pos,
            ← origin_concat idle c pos]
          rw [← spelling_concat walk c pos] at stops
          exact brings_of_extend fits stops

/-- After a call the matcher is on the walk that this call goes on with, if it is on one. -/
theorem Brings.on
    {walk : List (Char × Nat)}
    {call : Call}
    {after : Matcher}
    {step : Option Step}
    (brings : Brings walk call after step) :
    On (if after.isIdle then [] else walk ++ call.fed?.toList) after := by
  cases brings with
  | @grown c prev pos waits =>
      have matching :
          (ofSpelled (origin (walk ++ [(c, pos)])) (spelling (walk ++ [(c, pos)]))).isIdle =
            false := by
        rw [spelling_concat, ofSpelled_concat]
        rfl
      rw [matching]
      exact ⟨waits, rfl⟩
  | _ => exact on_idle

/-! ## Laws of a history -/

/-- What a matcher holds that waits on the characters of a walk. -/
structure Waits
    (walk : List (Char × Nat))
    (start : Nat)
    (spelled : List Char)
    (candidates : List Symbol) : Prop where
  nonempty : spelled ≠ []
  eq : spelled = spelling walk
  starts : walk.head?.map Prod.snd = some start
  remain : candidates ≠ []
  /-- The candidates are all symbols that the characters begin, in the order of the table. -/
  all : candidates = Symbol.table.filter fun symbol => spelled.isPrefixOf symbol.spelling
  /-- A symbol that is fully spelled and the only candidate is waited on as a keyword only. -/
  undecided : ∀ only, candidates = [only] → only.spelling = spelled → only.isKeyword = true

/-- What holds of a call, the matcher after it and the step that it brought, after some others. -/
structure Lawful
    (before : List Record)
    (call : Call)
    (after : Matcher)
    (step : Option Step) : Prop where
  waits :
    ∀ start spelled candidates,
      after = .matching start spelled candidates →
        Waits (walk (before ++ [(call, after, step)])) start spelled candidates
  pending_iff : step = some .pending ↔ after.isIdle = false
  unconsumed :
    ∀ taken, step = some taken → taken.consumed = false → (latest before).isIdle = false
  /-- A symbol is recognised by the characters fed since the matcher was last idle. -/
  recognises :
    ∀ symbol start stop consumed,
      step = some (.matched symbol start stop consumed) →
        symbol ∈ Symbol.table ∧
          symbol.spelling =
            spelling (walk before ++ if consumed then call.fed?.toList else [])

theorem On.isIdle_eq_false
    {walk : List (Char × Nat)}
    {matcher : Matcher}
    (on : On walk matcher)
    (matching : walk ≠ []) :
    matcher.isIdle = false := by
  obtain ⟨_, rfl⟩ := on
  cases walk with
  | nil => contradiction
  | cons first rest => rfl

/-- A matcher on a walk that is matching waits on the characters of the walk. -/
theorem On.holds
    {walk : List (Char × Nat)}
    {start : Nat}
    {spelled : List Char}
    {candidates : List Symbol}
    (on : On walk (.matching start spelled candidates)) :
    Waits walk start spelled candidates := by
  obtain ⟨waits, shape⟩ := on
  cases walk with
  | nil => cases shape
  | cons first rest =>
      cases shape
      refine ⟨List.cons_ne_nil _ _, rfl, rfl, Symbol.extending_ne_nil_of_pending waits, rfl, ?_⟩
      intro only sole spells
      have complete : (only.spelling != spelling (first :: rest)) = false := by
        rw [bne_eq_false_iff_eq]
        exact spells
      have listed : Symbol.extending (spelling (first :: rest)) = [only] := sole
      rw [Symbol.pending, listed] at waits
      simpa only [complete, Bool.or_false] using waits

/-- A match that ends recognises the symbol with its spelling, and does not consume anything. -/
theorem spelling_of_resolve
    {start stop first last : Nat}
    {spelled : List Char}
    {next : Option Char}
    {symbol : Symbol}
    {consumed : Bool}
    (recognised : resolve start spelled next stop = .matched symbol first last consumed) :
    symbol ∈ Symbol.table ∧ symbol.spelling = spelled ∧ consumed = false := by
  unfold resolve at recognised
  split at recognised
  · rename_i found isSymbol
    obtain ⟨member, spells⟩ := Symbol.find?_eq_some_iff.mp isSymbol
    split at recognised
    · cases recognised
    · cases recognised
      exact ⟨member, spells, rfl⟩
  · cases recognised

theorem resolve_ne_pending
    (start : Nat)
    (spelled : List Char)
    (next : Option Char)
    (stop : Nat) :
    resolve start spelled next stop ≠ .pending := by
  intro pending
  have unconsumed := consumed_resolve start spelled next stop
  rw [pending] at unconsumed
  cases unconsumed

/-- What a call brings after some others is lawful. -/
theorem Brings.lawful
    {before : List Record}
    {call : Call}
    {after : Matcher}
    {step : Option Step}
    (on : On (walk before) (latest before))
    (brings : Brings (walk before) call after step) :
    Lawful before call after step where
  waits start spelled candidates shape := by
    have later := brings.on
    rw [← walk_concat before (call, after, step), shape] at later
    rw [shape]
    exact later.holds
  pending_iff := by
    cases brings with
    | refused idle => simp [isIdle]
    | @grown c prev pos waits =>
        rw [spelling_concat, ofSpelled_concat]
        simp [isIdle]
    | completed member spells => simp [isIdle]
    | stopped matching => simp [isIdle, resolve_ne_pending]
    | ended matching => simp [isIdle, resolve_ne_pending]
    | nothing idle => simp [isIdle]
  unconsumed taken isStep notConsumed := by
    cases brings with
    | refused idle | grown waits | completed member spells =>
        cases isStep
        cases notConsumed
    | stopped matching | ended matching => exact on.isIdle_eq_false matching
    | nothing idle => cases isStep
  recognises symbol start stop consumed isStep := by
    cases brings with
    | refused idle | grown waits | nothing idle => cases isStep
    | completed member spells =>
        cases isStep
        exact ⟨member, spells⟩
    | stopped matching | ended matching =>
        obtain ⟨member, spells, rfl⟩ := spelling_of_resolve (Option.some.inj isStep)
        exact ⟨member, by simpa using spells⟩

/-! ## Any calls -/

/-- Calls after some others are lawful if they fit the offsets. -/
theorem exists_replay
    {before : List Record}
    {calls : List Call}
    (on : On (walk before) (latest before))
    (fits : ∀ call ∈ calls, call.Fits) :
    ∃ results,
      (latest before).replay calls = .ok results ∧
        results.length = calls.length ∧
          ∀ earlier call after step later,
            calls.zip results = earlier ++ (call, after, step) :: later →
              Lawful (before ++ earlier) call after step := by
  induction calls generalizing before with
  | nil => exact ⟨[], rfl, rfl, by simp⟩
  | cons call calls inductionHypothesis =>
      rw [List.forall_mem_cons] at fits
      obtain ⟨after, step, performed, brings⟩ := on.brings fits.1
      have goesOn :
          On (walk (before ++ [(call, after, step)]))
            (latest (before ++ [(call, after, step)])) := by
        rw [walk_concat, latest_concat]
        exact brings.on
      obtain ⟨results, replayed, size, lawful⟩ := inductionHypothesis goesOn fits.2
      rw [latest_concat] at replayed
      refine ⟨(after, step) :: results, ?_, by simp [size], ?_⟩
      · simp only [replay, performed, replayed, bind, Except.bind]
        rfl
      · intro earlier other otherAfter otherStep others parted
        cases earlier with
        | nil =>
            cases parted
            rw [List.append_nil]
            exact brings.lawful on
        | cons first earlier =>
            rw [List.zip_cons_cons, List.cons_append, List.cons.injEq] at parted
            obtain ⟨rfl, parted⟩ := parted
            rw [List.append_cons]
            exact lawful _ _ _ _ _ parted

/--
Whatever calls are made to a matcher that begins idle, each of them is lawful after those before it.
-/
theorem replay_lawful
    {calls : List Call}
    (fits : ∀ call ∈ calls, call.Fits) :
    ∃ results,
      idle.replay calls = .ok results ∧
        results.length = calls.length ∧
          ∀ before call after step later,
            calls.zip results = before ++ (call, after, step) :: later →
              Lawful before call after step :=
  @exists_replay [] calls on_idle fits

/-- A match that goes on at an earlier position, after a character that was never fed. -/
theorem replay_lawful_misplaced :
    ∃ results,
      idle.replay [.finish 3, .feed '?' none 5, .feed '?' (some 'x') 2, .finish 9] =
          .ok results ∧
        results.map Prod.snd =
          [none, some .pending, some .pending, some (.unknown ['?', '?'] 5 false)] ∧
        Lawful
          [(.finish 3, .idle, none),
            (.feed '?' none 5,
              .matching 5 ['?']
                [⟨['?', '{'], .token .openBlockLazy⟩, ⟨['?', '?', '{'], .token .openBlockFunc⟩,
                  ⟨['?'], .token .questionMark⟩],
              some .pending)]
          (.feed '?' (some 'x') 2)
          (.matching 5 ['?', '?'] [⟨['?', '?', '{'], .token .openBlockFunc⟩])
          (some .pending) := by
  have fits :
      ∀ call ∈ [Call.finish 3, .feed '?' none 5, .feed '?' (some 'x') 2, .finish 9],
        call.Fits := by
    simp [Call.Fits, Offset.limit]
  obtain ⟨results, replayed, _, lawful⟩ := replay_lawful fits
  have computed :
      idle.replay [.finish 3, .feed '?' none 5, .feed '?' (some 'x') 2, .finish 9] = .ok
        [(.idle, none),
          (.matching 5 ['?']
            [⟨['?', '{'], .token .openBlockLazy⟩, ⟨['?', '?', '{'], .token .openBlockFunc⟩,
              ⟨['?'], .token .questionMark⟩],
            some .pending),
          (.matching 5 ['?', '?'] [⟨['?', '?', '{'], .token .openBlockFunc⟩], some .pending),
          (.idle, some (.unknown ['?', '?'] 5 false))] := by
    rfl
  refine ⟨results, replayed, ?_, ?_⟩
  · rw [computed] at replayed
    cases replayed
    rfl
  · rw [computed] at replayed
    cases replayed
    exact lawful [_, _] _ _ _ [_] rfl

end Brace.Matcher
