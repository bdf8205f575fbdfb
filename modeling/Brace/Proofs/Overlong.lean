import Brace.Proofs.Account.Tokenize
import Brace.Proofs.Turns

namespace Brace

/-!
# Lines that do not fit the offsets

A line that is too long for its offsets is scanned like its first characters, as many as can be
counted, until no more of them are left.  The scan cannot end in a fault there, as it has nothing to
count the next character with.  So a fault of such a line is one of its first characters.
-/

open Account

/-- A computation that breaks a rule of the program. -/
def Breaks (result : Except Halt α) : Prop :=
  ∃ breach, result = .error (.breach breach)

theorem Breaks.bind
    {first : Except Halt α}
    {next : α → Except Halt β}
    (breaks : Breaks first) :
    Breaks (first >>= next) := by
  obtain ⟨breach, rfl⟩ := breaks
  exact ⟨breach, rfl⟩

/-- There is a character to come, but its offset is the last one. -/
structure Reader.Spent (reader : Reader) : Prop where
  left : reader.rest ≠ []
  last : Offset.limit ≤ reader.pos + 1

theorem Reader.Spent.breaks_add
    {reader : Reader}
    (spent : reader.Spent) :
    Breaks (Offset.add reader.pos 1) :=
  ⟨.sumTooLarge, if_neg (Nat.not_lt.mpr spent.last)⟩

theorem Reader.Spent.breaks_advance
    {reader : Reader}
    (spent : reader.Spent) :
    Breaks reader.advance := by
  unfold Reader.advance
  split
  · rename_i nothing
    exact absurd nothing spent.left
  · exact spent.breaks_add.bind

/-! ## One round of a longer line -/

/-- A reader in a line that goes on with more characters. -/
def Reader.extended (more : List Char) (reader : Reader) : Reader :=
  { reader with rest := reader.rest ++ more }

/-- What reading on led to, in a line that goes on with more characters. -/
def Literal.Reading.extended (more : List Char) (reading : Reading) : Reading :=
  { reading with reader := reading.reader.extended more }

/-- A scan of a line that goes on with more characters. -/
def Scan.extended (more : List Char) (scan : Scan) : Scan :=
  { scan with reader := scan.reader.extended more }

section

variable {reader : Reader} {more : List Char}

theorem Reader.advance_extended
    (left : reader.rest ≠ []) :
    (reader.extended more).advance =
      reader.advance.map fun (next, after) => (next, after.extended more) := by
  obtain ⟨rest, pos, prev⟩ := reader
  cases rest with
  | nil => contradiction
  | cons c rest =>
      simp only [advance, extended, List.cons_append, Halt.map_bind]
      rfl

namespace Scan

theorem passIf_extended
    (left : reader.rest ≠ [])
    (consumed : Bool) :
    passIf consumed (reader.extended more) =
      (passIf consumed reader).map (Reader.extended more) := by
  cases consumed with
  | false => rfl
  | true =>
      simp only [passIf, Reader.advance_extended left, Halt.bind_map, Halt.map_bind, ↓reduceIte]
      rfl

theorem recognise_extended
    {matcher : Matcher}
    {word : Option Word}
    {tokens : List Token}
    {symbol : Symbol}
    {start stop : Nat} :
    recognise (reader.extended more) matcher word tokens symbol start stop =
      (recognise reader matcher word tokens symbol start stop).map (extended more) := by
  obtain ⟨spelling, meaning⟩ := symbol
  cases meaning <;> simp only [recognise, Halt.map_bind] <;> rfl

theorem apply_extended
    (left : reader.rest ≠ [])
    {matcher : Matcher}
    {word : Option Word}
    {tokens : List Token}
    {step : Matcher.Step} :
    apply (reader.extended more) matcher word tokens step =
      (apply reader matcher word tokens step).map (extended more) := by
  cases step <;>
    simp only [apply, passIf_extended left, recognise_extended, Halt.map_bind, Halt.bind_map] <;>
    rfl

theorem stepPlain_extended
    (left : reader.rest ≠ [])
    {matcher : Matcher}
    {word : Option Word}
    {tokens : List Token}
    {c : Char} :
    stepPlain (reader.extended more) matcher word tokens c =
      (stepPlain reader matcher word tokens c).map (extended more) := by
  unfold stepPlain
  split
  · simp only [passIf_extended left, Halt.map_bind, Halt.bind_map]
    rfl
  · simp only [apply_extended left, Halt.map_bind]
    rfl

section

variable {literal : Literal} {dialect : Dialect} {c : Char}

theorem readSegment_extended
    {segment : Segment} :
    literal.readSegment segment c (reader.extended more) =
      (literal.readSegment segment c reader).extended more := by
  unfold Literal.readSegment
  split <;> rfl

/-- Only a character that a backslash takes with it is passed here, and it has to be counted. -/
theorem readBody_extended
    {pos : Nat}
    (edge : reader.pos + reader.rest.length + 1 = Offset.limit) :
    Breaks (literal.readBody dialect c pos (reader.extended more)).outcome ∨
      literal.readBody dialect c pos (reader.extended more) =
        (literal.readBody dialect c pos reader).extended more := by
  by_cases backslash : c = '\\'
  · by_cases left : reader.rest = []
    · have nothing : reader.peek = none := by
        rw [Reader.peek, left, List.head?_nil]
      cases decodes : (reader.extended more).peek.bind Literal.decodeEscape with
      | none =>
          right
          simp only [Literal.readBody, if_pos backslash, decodes, nothing, Option.bind_none]
          rfl
      | some decoded =>
          left
          obtain ⟨d, peeked, -⟩ := Option.bind_eq_some_iff.mp decodes
          have spent : (reader.extended more).Spent := by
            refine ⟨fun empty => ?_, ?_⟩
            · rw [Reader.peek, empty] at peeked
              cases peeked
            · rw [left, List.length_nil, Nat.add_zero] at edge
              exact Nat.le_of_eq edge.symm
          obtain ⟨breach, advanced⟩ := spent.breaks_advance
          exact ⟨breach, by simp only [Literal.readBody, if_pos backslash, decodes, advanced]⟩
    · right
      have peeked : (reader.extended more).peek = reader.peek :=
        List.head?_append_of_ne_nil _ left
      simp only [Literal.readBody, if_pos backslash, peeked, Reader.advance_extended left]
      cases reader.peek.bind Literal.decodeEscape with
      | none => rfl
      | some decoded => cases reader.advance <;> rfl
  · right
    simp only [Literal.readBody, if_neg backslash]
    repeat' split
    all_goals rfl

/-- Reading on in a string of a longer line breaks a rule, or it is that of the shorter line. -/
theorem read_extended
    (left : reader.rest ≠ [])
    (edge : reader.pos + reader.rest.length + 1 = Offset.limit) :
    Breaks (literal.read dialect (reader.extended more)).outcome ∨
      literal.read dialect (reader.extended more) =
        (literal.read dialect reader).extended more := by
  unfold Literal.read
  rw [Reader.advance_extended left]
  cases advanced : reader.advance with
  | error halt => exact Or.inr rfl
  | ok passed =>
      obtain ⟨next, after⟩ := passed
      cases next with
      | none => exact Or.inr rfl
      | some c =>
          cases literal.segment with
          | some segment => exact Or.inr readSegment_extended
          | none =>
              rw [← (Reader.leads_of_advance advanced).total] at edge
              exact readBody_extended edge

end

theorem stepQuoted_extended
    {inner : String → Except Halt (List Token)}
    {literal : Literal}
    {tokens : List Token}
    {pos : Nat}
    {event : Literal.Event} :
    stepQuoted inner (reader.extended more) literal tokens pos event =
      (stepQuoted inner reader literal tokens pos event).map (extended more) := by
  cases event <;> simp only [stepQuoted, Halt.map_bind] <;> rfl

/-- A round of a longer line breaks a rule, or it is that of the shorter line. -/
theorem step_extended
    {inner : String → Except Halt (List Token)}
    {dialect : Dialect}
    {scan : Scan}
    (left : scan.reader.rest ≠ [])
    (edge : scan.reader.pos + scan.reader.rest.length + 1 = Offset.limit) :
    Breaks ((scan.extended more).step inner dialect) ∨
      (scan.extended more).step inner dialect = (scan.step inner dialect).map (extended more) := by
  obtain ⟨reader, mode, tokens⟩ := scan
  have peeked : (reader.extended more).peek = reader.peek :=
    List.head?_append_of_ne_nil _ left
  simp only [step, extended, peeked]
  cases reader.peek with
  | none => exact Or.inr rfl
  | some c =>
      cases mode with
      | plain matcher word => exact Or.inr (stepPlain_extended left)
      | quoted literal =>
          rcases @read_extended reader more literal dialect left edge with breaks | same
          · exact Or.inl breaks.bind
          · right
            simp only [same, Literal.Reading.extended, stepQuoted_extended, Halt.map_bind]
            rfl

end Scan

end

/-! ## Where no more characters can be counted -/

theorem Word.flush_or_breaks
    (word : Option Word)
    (tokens : List Token) :
    (∃ flushed, flush word tokens = .ok flushed) ∨ Breaks (flush word tokens) := by
  cases word with
  | none => exact Or.inl ⟨tokens, rfl⟩
  | some word =>
      by_cases fits : word.start + word.text.length < Offset.limit
      · left
        refine
          ⟨tokens ++ [⟨.word, ⟨word.start, word.start + word.text.length⟩, some word.text⟩], ?_⟩
        simp [flush, stop, Offset.add, fits, Token.word, Span.between, bind, Except.bind, pure,
          Except.pure]
      · right
        refine ⟨.sumTooLarge, ?_⟩
        simp [flush, stop, Offset.add, fits, bind, Except.bind]

namespace Scan

variable
  {reader : Reader}
  {matcher : Matcher}
  {word : Option Word}
  {tokens : List Token}
  {c : Char}

theorem breaks_passIf
    (spent : reader.Spent) :
    Breaks (passIf true reader) :=
  spent.breaks_advance.bind

/-- A character cannot be consumed. -/
theorem breaks_apply
    {step : Matcher.Step}
    (spent : reader.Spent)
    (consumed : step.consumed = true) :
    Breaks (apply reader matcher word tokens step) := by
  cases step with
  | pending => exact (breaks_passIf spent).bind
  | matched symbol start stop flag =>
      cases consumed
      exact (breaks_passIf spent).bind
  | unknown text start flag =>
      cases consumed
      exact (breaks_passIf spent).bind

/-- A match cannot be extended. -/
theorem breaks_of_extend
    {start : Nat}
    {spelled : List Char}
    {candidates : List Symbol}
    (spent : reader.Spent)
    (busy : (matcher.isIdle && Unicode.isSpace c) = false)
    (fed :
      matcher.feed c reader.prev reader.pos =
        Matcher.extend start spelled candidates reader.pos) :
    Breaks (stepPlain reader matcher word tokens c) := by
  have waits :
      ∀ after : Matcher,
        matcher.feed c reader.prev reader.pos = .ok (after, .pending) →
          Breaks (stepPlain reader matcher word tokens c) := by
    intro after pending
    rw [stepPlain_of_feed busy pending]
    exact breaks_apply spent rfl
  unfold Matcher.extend at fed
  split at fed
  · split at fed
    · simp only [stepPlain, busy, fed]
      exact (spent.breaks_add.bind).bind
    · exact waits _ fed
  · exact waits _ fed

/-- An idle matcher cannot take a character. -/
theorem breaks_idle
    (spent : reader.Spent) :
    Breaks (stepPlain reader .idle word tokens c) := by
  cases space : Unicode.isSpace c with
  | true =>
      simp only [stepPlain, Matcher.isIdle, space]
      rcases Word.flush_or_breaks word tokens with ⟨flushed, same⟩ | breaks
      · simp only [same]
        exact (breaks_passIf spent).bind
      · exact breaks.bind
  | false =>
      have busy : (Matcher.idle.isIdle && Unicode.isSpace c) = false := by
        rw [space, Bool.and_false]
      by_cases refused : Matcher.openings c reader.prev = []
      · rw [stepPlain_of_feed busy (Matcher.feed_refused refused)]
        exact breaks_apply spent rfl
      · exact breaks_of_extend spent busy (Matcher.feed_opened refused)

end Scan

section

variable {inner : String → Except Halt (List Token)} {dialect : Dialect}

theorem Scan.run_ne_fault_of_breaks
    {scan : Scan}
    (left : scan.reader.rest ≠ [])
    (breaks : Breaks (scan.step inner dialect))
    (fault : Fault) :
    scan.run inner dialect ≠ .error (.fault fault) := by
  obtain ⟨breach, acted⟩ := breaks
  rw [run_of_step_error (List.isEmpty_eq_false_iff.mpr left) acted]
  simp

/-- An idle scan that can count no more characters ends in no fault. -/
theorem Scan.run_ne_fault_of_idle
    {reader : Reader}
    {word : Option Word}
    {tokens : List Token}
    (spent : reader.Spent)
    (fault : Fault) :
    run inner dialect ⟨reader, .plain .idle word, tokens⟩ ≠ .error (.fault fault) := by
  refine run_ne_fault_of_breaks spent.left ?_ fault
  obtain ⟨c, rest, shape⟩ := List.exists_cons_of_ne_nil spent.left
  simp only [step, Reader.peek, shape, List.head?_cons]
  exact breaks_idle spent

namespace Account

/-- A scan that can count no more characters ends in no fault. -/
theorem run_ne_fault_of_spent
    {account : Account}
    (sound : Sound inner dialect account)
    (counted : account.passed.length < Offset.limit)
    (spent : account.scan.reader.Spent)
    (fault : Fault) :
    account.scan.run inner dialect ≠ .error (.fault fault) := by
  obtain ⟨fragments, mode, rest⟩ := account
  cases rest with
  | nil => exact absurd rfl spent.left
  | cons c rest =>
      cases mode with
      | quoted delimiter parts segment =>
          refine Scan.run_ne_fault_of_breaks spent.left ?_ fault
          obtain ⟨breach, advanced⟩ := spent.breaks_advance
          refine ⟨breach, ?_⟩
          simp only [scan, Mode.scan] at advanced ⊢
          simp only [Scan.step, Literal.read, advanced]
          rfl
      | plain word spelled =>
          by_cases empty : spelled = []
          · subst empty
            rw [scan_plain] at spent ⊢
            exact Scan.run_ne_fault_of_idle spent fault
          · have startFits : Fragment.extent fragments + word.length < Offset.limit := by
              rw [length_passed_plain] at counted
              omega
            rw [scan_plain] at spent
            by_cases stops : Symbol.extending (spelled ++ [c]) = []
            · -- The spelling is resolved without the character, which is then fed again.
              have stepped := @step_stopped inner dialect fragments word spelled rest c empty stops
              rw [Symbol.resolve_of_pending sound.mode.2.2] at stepped
              cases decided : Symbol.verdict spelled (some c) with
              | some kind =>
                  rw [decided] at stepped
                  have recognised := stepped.trans (Scan.recognise_token startFits)
                  rw [Scan.run_of_step_ok rfl recognised]
                  exact Scan.run_ne_fault_of_idle spent fault
              | none =>
                  rw [decided] at stepped
                  have added := stepped.trans (Scan.apply_unknown empty startFits rfl)
                  rw [Scan.run_of_step_ok rfl added]
                  exact Scan.run_ne_fault_of_idle spent fault
            · refine Scan.run_ne_fault_of_breaks (List.cons_ne_nil c rest) ?_ fault
              have fed :=
                @Matcher.feed_ofSpelled (Fragment.extent fragments + word.length) spelled c
                  (passed ⟨fragments, .plain word spelled, c :: rest⟩).getLast?
                  (fun nothing => absurd nothing empty) stops
              rw [← @length_passed_plain fragments word spelled (c :: rest)] at fed
              rw [step_plain]
              exact Scan.breaks_of_extend spent (busy_of_extendable stops) fed

/-- A fault of a longer line is that of as many of its characters as can be counted. -/
theorem run_eq_fault_of_extended
    {account : Account}
    {more : List Char}
    {fault : Fault}
    (sound : Sound inner dialect account)
    (answers : Answers inner account.line.length)
    (edge : account.line.length + 1 = Offset.limit)
    (longer : more ≠ [])
    (faulty : (account.scan.extended more).run inner dialect = .error (.fault fault)) :
    account.scan.run inner dialect = .error (.fault fault) := by
  have size : account.passed.length + account.rest.length = account.line.length :=
    List.length_append.symm
  have fits : account.line.length < Offset.limit := by omega
  by_cases ends : account.rest = []
  · -- All characters that can be counted are passed here, and more are left.
    obtain ⟨fragments, mode, rest⟩ := account
    cases ends
    have soundLonger : Sound inner dialect ⟨fragments, mode, more⟩ := ⟨sound.fragments, sound.mode⟩
    have counted : (passed ⟨fragments, mode, more⟩).length + 1 = Offset.limit := edge ▸ size ▸ rfl
    have spent : (scan ⟨fragments, mode, more⟩).reader.Spent := ⟨longer, Nat.le_of_eq counted.symm⟩
    exact absurd faulty (run_ne_fault_of_spent soundLonger (by omega) spent fault)
  · have left : account.scan.reader.atEnd = false := by
      rw [atEnd_scan, List.isEmpty_eq_false_iff]
      exact ends
    have leftLonger : account.rest ++ more ≠ [] := List.append_ne_nil_of_left_ne_nil ends more
    rcases @Scan.step_extended more inner dialect account.scan ends (size ▸ edge) with
      breaks | same
    · exact absurd faulty (Scan.run_ne_fault_of_breaks leftLonger breaks fault)
    · rcases @leads inner dialect account answers ends with ⟨after, moves⟩ | ⟨other, fails⟩
      · have smaller := budget_lt_of_moves moves
        have line := line_of_moves moves
        have stepped := step_of_moves sound answers fits moves
        rw [stepped] at same
        rw [Scan.run_of_step_ok (List.isEmpty_eq_false_iff.mpr leftLonger) same] at faulty
        rw [Scan.run_of_step_ok left stepped]
        rw [← line] at answers edge
        exact run_eq_fault_of_extended (sound.of_moves moves) answers edge longer faulty
      · have stepped := step_of_fails sound answers fits ends fails
        rw [stepped] at same
        rw [Scan.run_of_step_error (List.isEmpty_eq_false_iff.mpr leftLonger) same] at faulty
        rw [Scan.run_of_step_error left stepped]
        exact faulty
termination_by account.budget

end Account

end

/-- The characters of a text that can be counted fit the offsets. -/
theorem length_take_lt_limit
    (text : List Char) :
    (text.take (Offset.limit - 1)).length < Offset.limit := by
  have positive : 0 < Offset.limit := by
    decide
  rw [List.length_take]
  omega

/-- A fault of a text that does not fit the offsets is that of its first characters. -/
theorem tokenize_take_of_fault
    {dialect : Dialect}
    {text : List Char}
    {fault : Fault}
    (overlong : Offset.limit ≤ text.length)
    (faulty : tokenize dialect (String.ofList text) = .error (.fault fault)) :
    tokenize dialect (String.ofList (text.take (Offset.limit - 1))) = .error (.fault fault) := by
  have positive : 1 < Offset.limit := by
    decide
  generalize size : Offset.limit - 1 = counted
  have short : (text.take counted).length = counted := by
    rw [List.length_take]
    omega
  have edge : (ofText (text.take counted)).line.length + 1 = Offset.limit := by
    rw [show (ofText (text.take counted)).line = text.take counted from rfl, short]
    omega
  have longer : text.drop counted ≠ [] := by
    rw [ne_eq, List.drop_eq_nil_iff]
    omega
  have whole :
      (ofText (text.take counted)).scan.extended (text.drop counted) = (ofText text).scan :=
    congrArg (fun text => (ofText text).scan) (List.take_append_drop counted text)
  rw [tokenize_eq, scan_ofText, String.toList_ofList] at faulty ⊢
  rw [← whole] at faulty
  exact
    run_eq_fault_of_extended (sound_ofText _) (answers_tokenize (by omega)) edge longer faulty

end Brace
