import Brace.Proofs.Turns

namespace Brace

/-!
# Scans with their parts side by side

The mode of a scan leaves no room for a match or a word that goes on inside a string.  Here the
matcher, the word and the string are kept apart, and every round changes those that it has to and
leaves the others as they are, so that nothing but the rounds themselves keeps a string and a match
from going on together.  The two kinds of scan are in step: each round of a flat scan is a round of
the scan that it stands for.
-/

/-- How far the scan of a line has come, with a place for each of its parts. -/
structure Flat where
  reader : Reader
  matcher : Matcher
  word : Option Word
  string : Option Literal
  tokens : List Token
  deriving Repr, DecidableEq

namespace Flat

/-- The scan of a line before its first character. -/
def ofText (text : String) : Flat :=
  ⟨Reader.ofText text, .idle, none, none, []⟩

/-- End the word, if there is one. -/
def flush (flat : Flat) : Except Halt Flat := do
  let tokens ← Word.flush flat.word flat.tokens
  return { flat with word := none, tokens }

/-- Pass the character to come if it was consumed. -/
def pass (flat : Flat) (consumed : Bool) : Except Halt Flat := do
  let reader ← Scan.passIf consumed flat.reader
  return { flat with reader }

/-- Add text found at `start` to the word. -/
def gather (flat : Flat) (text : List Char) (start : Nat) : Except Halt Flat := do
  let word ← Word.extend flat.word text start
  return { flat with word := some word }

/-- Act on a recognised symbol. -/
def recognise (flat : Flat) (symbol : Symbol) (start stop : Nat) : Except Halt Flat :=
  match symbol.meaning with
  | .token kind => do
      let flat ← flat.flush
      let token ← Token.plain kind start stop
      return { flat with tokens := flat.tokens ++ [token] }
  | .quote delimiter => do
      let flat ← flat.flush
      return { flat with string := some (.opened delimiter start flat.tokens.length) }
  | .interpolation => throw (.fault ⟨.notInString, none, start⟩)
  | .escaped => flat.gather symbol.spelling start

/-- Act on a step of the matcher. -/
def apply (flat : Flat) : Matcher.Step → Except Halt Flat
  | .pending => flat.pass true
  | .matched symbol start stop consumed => do
      let flat ← flat.pass consumed
      flat.recognise symbol start stop
  | .unknown text start consumed => do
      let flat ← flat.pass consumed
      flat.gather text start

/-- Take the next character `c` outside of strings. -/
def stepPlain (flat : Flat) (c : Char) : Except Halt Flat :=
  if flat.matcher.isIdle && Unicode.isSpace c then do
    let flat ← flat.flush
    flat.pass true
  else do
    let (matcher, step) ← flat.matcher.feed c flat.reader.prev flat.reader.pos
    { flat with matcher : Flat }.apply step

/-- Read on in the string that is open; its token goes to the place that was kept for it. -/
def stepQuoted (inner : String → Except Halt (List Token)) (dialect : Dialect) (flat : Flat)
    (literal : Literal) : Except Halt Flat := do
  let reading := literal.read dialect flat.reader
  let event ← reading.outcome
  let after := { flat with reader := reading.reader, string := some reading.literal }
  match event with
  | .continued => return after
  | .closed => do
      let stop ← Offset.add flat.reader.pos 1
      let token ← reading.literal.toToken stop
      let tokens := flat.tokens.insertIdx reading.literal.insertAt token
      return { after with string := none, tokens }
  | .segmentClosed segment => do
      let tokens ← Scan.splice inner segment flat.tokens
      return { after with tokens }

/-- Go on by one round; at the end of the line nothing changes. -/
def step (inner : String → Except Halt (List Token)) (dialect : Dialect) (flat : Flat) :
    Except Halt Flat :=
  match flat.reader.peek with
  | none => return flat
  | some c =>
      match flat.string with
      | some literal => flat.stepQuoted inner dialect literal
      | none => flat.stepPlain c

/-- Resolve a symbol that the end of the line cuts short. -/
def settle (flat : Flat) : Except Halt Flat :=
  match flat.matcher.finish flat.reader.pos with
  | some step => { flat with matcher := .idle : Flat }.apply step
  | none => return flat

/-- The tokens of a line that has been read to its end. -/
def finish (flat : Flat) : Except Halt (List Token) := do
  let settled ← flat.settle
  match settled.string with
  | some literal => throw (.fault literal.unterminated)
  | none => do
      let flushed ← settled.flush
      if Scan.startsAscend flushed.tokens then
        return flushed.tokens
      else
        throw (.breach .startsOutOfOrder)

/-- Twice the characters left, and one more while a symbol is being matched. -/
def budget (flat : Flat) : Nat :=
  2 * flat.reader.rest.length + Scan.matchWeight flat.matcher

end Flat

/-- The parts of a scan side by side. -/
def Scan.flat (scan : Scan) : Flat :=
  match scan.mode with
  | .plain matcher word => ⟨scan.reader, matcher, word, none, scan.tokens⟩
  | .quoted literal => ⟨scan.reader, .idle, none, some literal, scan.tokens⟩

/-- A matcher that has recognised a symbol is idle. -/
theorem Matcher.eq_idle_of_matched
    {matcher after : Matcher}
    {c : Char}
    {prev : Option Char}
    {pos start stop : Nat}
    {symbol : Symbol}
    {consumed : Bool}
    (fed : matcher.feed c prev pos = .ok (after, .matched symbol start stop consumed)) :
    after = .idle := by
  have idle_of_extend :
      ∀ {first spelled candidates},
        extend first spelled candidates pos = .ok (after, .matched symbol start stop consumed) →
          after = .idle := by
    intro first spelled candidates extended
    unfold extend at extended
    split at extended
    · split at extended
      · obtain ⟨_, _, same⟩ := Halt.bind_eq_ok.mp extended
        cases same
        rfl
      · cases extended
    · cases extended
  unfold feed at fed
  split at fed
  · split at fed
    · cases fed
    · exact idle_of_extend fed
  · split at fed
    · obtain ⟨rfl, -⟩ := Prod.mk.inj (Except.ok.inj fed)
      rfl
    · exact idle_of_extend fed

namespace Scan

/-! ## One round -/

section

variable {reader : Reader} {matcher : Matcher} {word : Option Word} {tokens : List Token}

theorem flush_flat
    {string : Option Literal} :
    Flat.flush ⟨reader, matcher, word, string, tokens⟩ =
      (Word.flush word tokens).map fun flushed => ⟨reader, matcher, none, string, flushed⟩ := by
  cases flushed : Word.flush word tokens <;> simp only [Flat.flush, flushed] <;> rfl

/-- Where the matcher is idle, a quote leaves nothing open but its string. -/
theorem recognise_flat
    {symbol : Symbol}
    {start stop : Nat} :
    Flat.recognise ⟨reader, .idle, word, none, tokens⟩ symbol start stop =
      (recognise reader .idle word tokens symbol start stop).map flat := by
  obtain ⟨spelling, meaning⟩ := symbol
  cases meaning <;>
    simp only [Flat.recognise, Flat.gather, recognise, flush_flat, Halt.map_bind, Halt.bind_map] <;>
    rfl

theorem pass_flat
    {consumed : Bool}
    {string : Option Literal} :
    Flat.pass ⟨reader, matcher, word, string, tokens⟩ consumed =
      (passIf consumed reader).map fun passed => ⟨passed, matcher, word, string, tokens⟩ := by
  cases passed : passIf consumed reader <;> simp only [Flat.pass, passed] <;> rfl

/-- Acting on a step does the same to both kinds of scan if no match goes on after a symbol. -/
theorem apply_flat
    {step : Matcher.Step}
    (settled :
      ∀ symbol start stop consumed,
        step = .matched symbol start stop consumed → matcher = .idle) :
    Flat.apply ⟨reader, matcher, word, none, tokens⟩ step =
      (apply reader matcher word tokens step).map flat := by
  cases step with
  | pending =>
      simp only [Flat.apply, apply, pass_flat, Halt.map_bind]
      rfl
  | matched symbol start stop consumed =>
      obtain rfl := settled symbol start stop consumed rfl
      simp only [Flat.apply, apply, pass_flat, recognise_flat, Halt.map_bind, Halt.bind_map]
  | unknown text start consumed =>
      simp only [Flat.apply, Flat.gather, apply, pass_flat, Halt.map_bind, Halt.bind_map]
      rfl

/-- The matcher of a flat scan is idle once it has recognised a symbol, be it a quote or not. -/
theorem stepPlain_flat
    {c : Char} :
    Flat.stepPlain ⟨reader, matcher, word, none, tokens⟩ c =
      (stepPlain reader matcher word tokens c).map flat := by
  unfold Flat.stepPlain stepPlain
  split
  · simp only [flush_flat, pass_flat, Halt.map_bind, Halt.bind_map]
    rfl
  · rw [Halt.map_bind]
    refine Halt.bind_congr ?_
    rintro ⟨after, step⟩ fed
    refine apply_flat ?_
    rintro symbol start stop consumed rfl
    exact Matcher.eq_idle_of_matched fed

end

section

variable {inner : String → Except Halt (List Token)} {dialect : Dialect}

theorem stepQuoted_flat
    {reader : Reader}
    {literal : Literal}
    {tokens : List Token} :
    Flat.stepQuoted inner dialect ⟨reader, .idle, none, some literal, tokens⟩ literal = (do
      let reading := literal.read dialect reader
      let event ← reading.outcome
      (stepQuoted inner reading.reader reading.literal tokens reader.pos event).map flat) := by
  unfold Flat.stepQuoted
  refine Halt.bind_congr ?_
  intro event outcome
  cases event <;> simp only [stepQuoted, Halt.map_bind] <;> rfl

/-- A round of a flat scan is a round of the scan that it stands for. -/
theorem step_flat
    (scan : Scan) :
    scan.flat.step inner dialect = (scan.step inner dialect).map flat := by
  obtain ⟨reader, mode, tokens⟩ := scan
  cases mode with
  | plain matcher word =>
      simp only [flat, Flat.step, step]
      cases reader.peek with
      | none => rfl
      | some c => exact stepPlain_flat
  | quoted literal =>
      simp only [flat, Flat.step, step]
      cases reader.peek with
      | none => rfl
      | some c => simp only [stepQuoted_flat, Halt.map_bind]

theorem step_flat_of_ok
    {scan after : Scan}
    (acted : scan.step inner dialect = .ok after) :
    scan.flat.step inner dialect = .ok after.flat := by
  rw [step_flat, acted]
  rfl

theorem step_flat_of_error
    {scan : Scan}
    {halt : Halt}
    (acted : scan.step inner dialect = .error halt) :
    scan.flat.step inner dialect = .error halt := by
  rw [step_flat, acted]
  rfl

/-- The end of a line does the same to both kinds of scan. -/
theorem finish_flat
    (scan : Scan) :
    scan.flat.finish = scan.finish := by
  have settle_flat : scan.flat.settle = scan.settle.map flat := by
    obtain ⟨reader, mode, tokens⟩ := scan
    cases mode with
    | plain matcher word =>
        simp only [flat, Flat.settle, settle]
        cases matcher.finish reader.pos with
        | none => rfl
        | some step => exact apply_flat fun _ _ _ _ _ => rfl
    | quoted literal => rfl
  rw [Flat.finish, finish, settle_flat, Halt.bind_map]
  refine Halt.bind_congr ?_
  rintro ⟨reader, mode, tokens⟩ -
  cases mode with
  | plain matcher word =>
      simp only [flat, flush_flat, Halt.bind_map]
  | quoted literal => rfl

theorem budget_flat
    (scan : Scan) :
    scan.flat.budget = scan.budget := by
  obtain ⟨reader, mode, tokens⟩ := scan
  cases mode with
  | plain matcher word => rfl
  | quoted literal => rfl

theorem atEnd_flat
    (scan : Scan) :
    scan.flat.reader.atEnd = scan.reader.atEnd := by
  obtain ⟨reader, mode, tokens⟩ := scan
  cases mode with
  | plain matcher word => rfl
  | quoted literal => rfl

end

end Scan

/-! ## All rounds -/

namespace Flat

section

variable {inner : String → Except Halt (List Token)} {dialect : Dialect}

/-- Reading on in a string passes characters, and leaves the matcher as it is. -/
theorem budget_stepQuoted_lt
    {flat after : Flat}
    {literal : Literal}
    (acted : flat.stepQuoted inner dialect literal = .ok after) :
    after.budget < flat.budget := by
  unfold stepQuoted at acted
  obtain ⟨event, outcome, acted⟩ := Halt.bind_eq_ok.mp acted
  have shorter := Literal.length_rest_read outcome
  have same :
      after.reader = (literal.read dialect flat.reader).reader ∧ after.matcher = flat.matcher := by
    cases event with
    | continued =>
        cases acted
        exact ⟨rfl, rfl⟩
    | closed =>
        obtain ⟨_, _, acted⟩ := Halt.bind_eq_ok.mp acted
        obtain ⟨_, _, acted⟩ := Halt.bind_eq_ok.mp acted
        cases acted
        exact ⟨rfl, rfl⟩
    | segmentClosed segment =>
        obtain ⟨_, _, acted⟩ := Halt.bind_eq_ok.mp acted
        cases acted
        exact ⟨rfl, rfl⟩
  rw [budget, budget, same.1, same.2]
  omega

/-- Every round uses up some of the budget. -/
theorem budget_step_lt
    {flat after : Flat}
    (left : flat.reader.atEnd = false)
    (acted : flat.step inner dialect = .ok after) :
    after.budget < flat.budget := by
  obtain ⟨reader, matcher, word, string, tokens⟩ := flat
  cases string with
  | none =>
      -- Outside of strings nothing is lost when the parts are put back into a mode.
      have isFlat :
          ⟨reader, matcher, word, none, tokens⟩ =
            Scan.flat ⟨reader, .plain matcher word, tokens⟩ :=
        rfl
      rw [isFlat, Scan.step_flat] at acted
      cases stepped : Scan.step inner dialect ⟨reader, .plain matcher word, tokens⟩ with
      | error halt =>
          rw [stepped] at acted
          cases acted
      | ok reached =>
          rw [stepped] at acted
          cases acted
          rw [isFlat, Scan.budget_flat, Scan.budget_flat]
          exact Scan.budget_step_lt left stepped
  | some literal =>
      unfold step at acted
      split at acted
      · rename_i nothing
        have atEnd : reader.atEnd = true := List.isEmpty_iff.mpr (List.head?_eq_none_iff.mp nothing)
        rw [atEnd] at left
        cases left
      · exact budget_stepQuoted_lt acted

end

/-- Go on to the end of the line and give its tokens. -/
def run (inner : String → Except Halt (List Token)) (dialect : Dialect) (flat : Flat) :
    Except Halt (List Token) :=
  if _left : flat.reader.atEnd then
    flat.finish
  else
    match _acted : flat.step inner dialect with
    | .error halt => .error halt
    | .ok after => run inner dialect after
termination_by flat.budget
decreasing_by exact budget_step_lt (by simpa using _left) _acted

/-- The flat scan at the beginning of every round and at the end, as far as it gets. -/
def heads (inner : String → Except Halt (List Token)) (dialect : Dialect) (flat : Flat) :
    List Flat :=
  if _left : flat.reader.atEnd then
    [flat]
  else
    match _acted : flat.step inner dialect with
    | .error _ => [flat]
    | .ok after => flat :: heads inner dialect after
termination_by flat.budget
decreasing_by exact budget_step_lt (by simpa using _left) _acted

end Flat

namespace Scan

variable {inner : String → Except Halt (List Token)} {dialect : Dialect}

/-- A flat scan gives the tokens of the scan that it stands for. -/
theorem run_flat
    (scan : Scan) :
    scan.flat.run inner dialect = scan.run inner dialect := by
  fun_induction run inner dialect scan with
  | case1 scan atEnd =>
      rw [← atEnd_flat] at atEnd
      rw [Flat.run, dif_pos atEnd, finish_flat]
  | case2 scan notAtEnd halt acted =>
      rw [← atEnd_flat] at notAtEnd
      have halts := step_flat_of_error acted
      rw [Flat.run, dif_neg notAtEnd]
      split <;> simp_all
  | case3 scan notAtEnd after acted inductionHypothesis =>
      rw [← atEnd_flat] at notAtEnd
      have leads := step_flat_of_ok acted
      rw [Flat.run, dif_neg notAtEnd]
      split <;> simp_all

/-- The rounds of a flat scan are those of the scan that it stands for. -/
theorem heads_flat
    (scan : Scan) :
    scan.flat.heads inner dialect = (scan.rounds inner dialect).map flat := by
  fun_induction rounds inner dialect scan with
  | case1 scan atEnd =>
      rw [← atEnd_flat] at atEnd
      rw [Flat.heads, dif_pos atEnd, List.map_singleton]
  | case2 scan notAtEnd halt acted =>
      rw [← atEnd_flat] at notAtEnd
      have halts := step_flat_of_error acted
      rw [Flat.heads, dif_neg notAtEnd]
      split <;> simp_all
  | case3 scan notAtEnd after acted inductionHypothesis =>
      rw [← atEnd_flat] at notAtEnd
      have leads := step_flat_of_ok acted
      rw [Flat.heads, dif_neg notAtEnd]
      split <;> simp_all

end Scan

/-- Tokenizing is a scan with its parts side by side. -/
theorem tokenize_eq_run
    (dialect : Dialect)
    (text : String) :
    tokenize dialect text = (Flat.ofText text).run (tokenize dialect) dialect := by
  rw [tokenize_eq, ← Scan.run_flat]
  rfl

end Brace
