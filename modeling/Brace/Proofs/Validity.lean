import Brace.Proofs.Symbols
import Brace.Tokenize

namespace Brace

/-!
# Valid scans

What holds of every scan that a line of any length leads to: the matcher waits on symbols of the
table, a quote opened the string that is read, and the text of an interpolation holds no
interpolation mark.  A round keeps a scan valid, and leads on in its line.  As every character is
counted in an offset, only a line that fits the offsets can be tokenized.
-/

/-- What a matcher waits on are symbols of the table. -/
def Matcher.Valid : Matcher → Prop
  | idle => True
  | matching _ _ candidates => ∀ symbol ∈ candidates, symbol ∈ Symbol.table

/-- What a step recognises is a symbol of the table. -/
def Matcher.Step.Valid : Matcher.Step → Prop
  | matched symbol _ _ _ => symbol ∈ Symbol.table
  | _ => True

/-- A quote opened the string, and the text of its interpolation holds no interpolation mark. -/
structure Literal.Valid (literal : Literal) : Prop where
  quote : isQuote literal.delimiter = true
  unmarked : ∀ segment ∈ literal.segment, interpolationMark ∉ segment.raw.toList

/-- What holds of the mode of every scan that a line leads to. -/
def Mode.Valid : Mode → Prop
  | plain matcher _ => matcher.Valid
  | quoted literal => literal.Valid

/-- A valid scan that stands further on in the line of a reader. -/
structure Scan.Follows (reader : Reader) (scan : Scan) : Prop where
  valid : scan.mode.Valid
  leads : reader.Leads scan.reader

namespace Matcher

theorem valid_of_extend
    {start pos : Nat}
    {spelled : List Char}
    {candidates : List Symbol}
    {after : Matcher}
    {step : Step}
    (listed : ∀ symbol ∈ candidates, symbol ∈ Symbol.table)
    (extended : extend start spelled candidates pos = .ok (after, step)) :
    after.Valid ∧ step.Valid := by
  unfold extend at extended
  split at extended
  · rename_i only
    split at extended
    · obtain ⟨stop, _, same⟩ := Halt.bind_eq_ok.mp extended
      cases same
      exact ⟨trivial, listed only (by simp)⟩
    · cases extended
      exact ⟨listed, trivial⟩
  · cases extended
    exact ⟨listed, trivial⟩

theorem valid_resolve
    {start stop : Nat}
    {spelled : List Char}
    {next : Option Char} :
    (resolve start spelled next stop).Valid := by
  unfold resolve
  split
  · rename_i symbol found
    split
    · trivial
    · exact (Symbol.find?_eq_some_iff.mp found).1
  · trivial

/-- A valid matcher stays so, and recognises symbols of the table only. -/
theorem valid_of_feed
    {matcher after : Matcher}
    {c : Char}
    {prev : Option Char}
    {pos : Nat}
    {step : Step}
    (valid : matcher.Valid)
    (fed : matcher.feed c prev pos = .ok (after, step)) :
    after.Valid ∧ step.Valid := by
  cases matcher with
  | idle =>
      have listed : ∀ symbol ∈ openings c prev, symbol ∈ Symbol.table := by
        intro symbol member
        exact (List.mem_filter.mp (List.mem_filter.mp member).1).1
      simp only [feed] at fed
      split at fed
      · cases fed
        exact ⟨trivial, trivial⟩
      · exact valid_of_extend listed fed
  | matching start spelled candidates =>
      have listed : ∀ symbol ∈ narrow candidates spelled.length c, symbol ∈ Symbol.table := by
        intro symbol member
        exact valid symbol (List.mem_filter.mp member).1
      simp only [feed] at fed
      split at fed
      · cases fed
        exact ⟨trivial, valid_resolve⟩
      · exact valid_of_extend listed fed

end Matcher

namespace Literal

variable {literal : Literal} {dialect : Dialect}

theorem valid_readSegment
    {segment : Segment}
    {c : Char}
    {reader : Reader}
    (valid : literal.Valid)
    (isOpen : literal.segment = some segment) :
    (literal.readSegment segment c reader).literal.Valid := by
  have unmarked := valid.unmarked segment isOpen
  unfold readSegment
  split
  · exact ⟨valid.quote, by simp⟩
  · rename_i noMark
    refine ⟨valid.quote, ?_⟩
    simp [unmarked, Ne.symm noMark]

theorem valid_readBody
    {c : Char}
    {pos : Nat}
    {reader : Reader}
    (valid : literal.Valid) :
    (literal.readBody dialect c pos reader).literal.Valid := by
  unfold readBody
  repeat' split
  all_goals first
    | exact valid
    | exact ⟨valid.quote, valid.unmarked⟩
    | exact ⟨valid.quote, by simp⟩

/-- Reading on in a valid string keeps it valid. -/
theorem valid_read
    {reader : Reader}
    (valid : literal.Valid) :
    (literal.read dialect reader).literal.Valid := by
  unfold read
  split
  · exact valid
  · exact valid
  · split
    · rename_i segment isOpen
      exact valid_readSegment valid isOpen
    · exact valid_readBody valid

/-- The text of an interpolation that is closed holds no interpolation mark. -/
theorem unmarked_of_segmentClosed
    {reader : Reader}
    {segment : Segment}
    (valid : literal.Valid)
    (closes : (literal.read dialect reader).outcome = .ok (.segmentClosed segment)) :
    interpolationMark ∉ segment.raw.toList := by
  unfold read at closes
  split at closes
  · cases closes
  · cases closes
  · split at closes
    · rename_i current isOpen
      unfold readSegment at closes
      split at closes
      · cases closes
        exact valid.unmarked segment isOpen
      · cases closes
    · unfold readBody at closes
      repeat' split at closes
      all_goals cases closes

theorem leads_readBody
    {c : Char}
    {pos : Nat}
    {reader : Reader} :
    reader.Leads (literal.readBody dialect c pos reader).reader := by
  unfold readBody
  repeat' split
  all_goals first
    | exact .refl reader
    | exact Reader.leads_of_advance (by assumption)

/-- Reading on in a string leads on in its line. -/
theorem leads_read
    {reader : Reader} :
    reader.Leads (literal.read dialect reader).reader := by
  unfold read
  split
  · exact .refl reader
  · rename_i advanced
    exact Reader.leads_of_advance advanced
  · rename_i advanced
    have leads := Reader.leads_of_advance advanced
    split
    · unfold readSegment
      split <;> exact leads
    · exact leads.trans leads_readBody

end Literal

namespace Scan

theorem valid_ofText
    (text : String) :
    (ofText text).mode.Valid :=
  trivial

theorem leads_of_passIf
    {consumed : Bool}
    {reader after : Reader}
    (passed : passIf consumed reader = .ok after) :
    reader.Leads after := by
  unfold passIf at passed
  split at passed
  · obtain ⟨⟨next, later⟩, advanced, same⟩ := Halt.bind_eq_ok.mp passed
    cases same
    exact Reader.leads_of_advance advanced
  · cases passed
    exact .refl _

section

variable
  {reader : Reader}
  {matcher : Matcher}
  {word : Option Word}
  {tokens : List Token}
  {after : Scan}

/-- Acting on a symbol of the table passes nothing, and opens strings at quotes only. -/
theorem follows_of_recognise
    {symbol : Symbol}
    {start stop : Nat}
    (valid : matcher.Valid)
    (listed : symbol ∈ Symbol.table)
    (acted : recognise reader matcher word tokens symbol start stop = .ok after) :
    after.Follows reader := by
  obtain ⟨spelling, meaning⟩ := symbol
  cases meaning with
  | token kind =>
      obtain ⟨_, _, acted⟩ := Halt.bind_eq_ok.mp acted
      obtain ⟨_, _, acted⟩ := Halt.bind_eq_ok.mp acted
      cases acted
      exact ⟨valid, .refl _⟩
  | quote delimiter =>
      obtain ⟨_, _, acted⟩ := Halt.bind_eq_ok.mp acted
      cases acted
      have quote := (Symbol.quote_mem_table_iff.mp listed).2
      exact ⟨⟨quote, by simp [Literal.opened]⟩, .refl _⟩
  | interpolation => cases acted
  | escaped =>
      obtain ⟨_, _, acted⟩ := Halt.bind_eq_ok.mp acted
      cases acted
      exact ⟨valid, .refl _⟩

theorem follows_of_apply
    {step : Matcher.Step}
    (valid : matcher.Valid)
    (stepValid : step.Valid)
    (acted : apply reader matcher word tokens step = .ok after) :
    after.Follows reader := by
  cases step with
  | pending =>
      obtain ⟨later, passed, acted⟩ := Halt.bind_eq_ok.mp acted
      cases acted
      exact ⟨valid, leads_of_passIf passed⟩
  | matched symbol start stop consumed =>
      obtain ⟨later, passed, acted⟩ := Halt.bind_eq_ok.mp acted
      have follows := follows_of_recognise valid stepValid acted
      exact ⟨follows.valid, (leads_of_passIf passed).trans follows.leads⟩
  | unknown text start consumed =>
      obtain ⟨later, passed, acted⟩ := Halt.bind_eq_ok.mp acted
      obtain ⟨_, _, acted⟩ := Halt.bind_eq_ok.mp acted
      cases acted
      exact ⟨valid, leads_of_passIf passed⟩

theorem follows_of_stepPlain
    {c : Char}
    (valid : matcher.Valid)
    (acted : stepPlain reader matcher word tokens c = .ok after) :
    after.Follows reader := by
  unfold stepPlain at acted
  split at acted
  · rename_i blank
    have idle : matcher = .idle := by
      cases matcher with
      | idle => rfl
      | matching start spelled candidates => simp [Matcher.isIdle] at blank
    obtain ⟨_, _, acted⟩ := Halt.bind_eq_ok.mp acted
    obtain ⟨later, passed, acted⟩ := Halt.bind_eq_ok.mp acted
    cases acted
    subst matcher
    exact ⟨trivial, leads_of_passIf passed⟩
  · obtain ⟨⟨next, step⟩, fed, acted⟩ := Halt.bind_eq_ok.mp acted
    obtain ⟨nextValid, stepValid⟩ := Matcher.valid_of_feed valid fed
    exact follows_of_apply nextValid stepValid acted

theorem follows_of_stepQuoted
    {inner : String → Except Halt (List Token)}
    {literal : Literal}
    {pos : Nat}
    {event : Literal.Event}
    (valid : literal.Valid)
    (acted : stepQuoted inner reader literal tokens pos event = .ok after) :
    after.Follows reader := by
  cases event with
  | continued =>
      cases acted
      exact ⟨valid, .refl _⟩
  | closed =>
      obtain ⟨_, _, acted⟩ := Halt.bind_eq_ok.mp acted
      obtain ⟨_, _, acted⟩ := Halt.bind_eq_ok.mp acted
      cases acted
      exact ⟨trivial, .refl _⟩
  | segmentClosed segment =>
      obtain ⟨_, _, acted⟩ := Halt.bind_eq_ok.mp acted
      cases acted
      exact ⟨valid, .refl _⟩

end

/-- A round keeps a scan valid, and leads on in its line. -/
theorem follows_of_step
    {inner : String → Except Halt (List Token)}
    {dialect : Dialect}
    {scan after : Scan}
    (valid : scan.mode.Valid)
    (acted : scan.step inner dialect = .ok after) :
    after.Follows scan.reader := by
  obtain ⟨reader, mode, tokens⟩ := scan
  unfold step at acted
  split at acted
  · cases acted
    exact ⟨valid, .refl _⟩
  · cases mode with
    | plain matcher word => exact follows_of_stepPlain valid acted
    | quoted literal =>
        obtain ⟨event, outcome, acted⟩ := Halt.bind_eq_ok.mp acted
        have follows := follows_of_stepQuoted (Literal.valid_read valid) acted
        exact ⟨follows.valid, Literal.leads_read.trans follows.leads⟩

/-- A scan that comes to the end of its line has counted all characters of the line. -/
theorem fits_of_run
    {inner : String → Except Halt (List Token)}
    {dialect : Dialect}
    {scan : Scan}
    {tokens : List Token}
    (valid : scan.mode.Valid)
    (fits : scan.reader.pos < Offset.limit)
    (reads : scan.run inner dialect = .ok tokens) :
    scan.reader.pos + scan.reader.rest.length < Offset.limit := by
  induction scan using run.induct inner dialect with
  | case1 scan atEnd =>
      have nothing : scan.reader.rest = [] := by
        simpa [Reader.atEnd] using atEnd
      simpa [nothing] using fits
  | case2 scan left halt acted =>
      rw [run_of_step_error (by simpa using left) acted] at reads
      cases reads
  | case3 scan left after acted inductionHypothesis =>
      rw [run_of_step_ok (by simpa using left) acted] at reads
      have follows := follows_of_step valid acted
      rw [← follows.leads.total]
      exact inductionHypothesis follows.valid (follows.leads.fits fits) reads

end Scan

/-- Only a line that fits the offsets can be tokenized. -/
theorem fits_of_tokenize
    {dialect : Dialect}
    {text : String}
    {tokens : List Token}
    (reads : tokenize dialect text = .ok tokens) :
    text.length < Offset.limit := by
  have atStart : 0 < Offset.limit := by
    decide
  rw [tokenize_eq] at reads
  have fits : 0 + text.toList.length < Offset.limit :=
    Scan.fits_of_run (Scan.valid_ofText text) atStart reads
  rwa [Nat.zero_add, String.length_toList] at fits

end Brace
