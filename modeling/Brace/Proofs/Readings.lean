import Brace.Proofs.Meetings

namespace Brace.Literal

/-!
# Strings with any delimiter

Reading on in a string does not stop at its end.  Whatever the delimiter, and however often a text
is read on, the body is what the characters consumed so far stand for, and an open interpolation
holds the text after its mark.
-/

/-! ## From reading to reading -/

/-- The string after some readings. -/
def afterReadings (literal : Literal) (readings : List Reading) : Literal :=
  (readings.getLast?.map Reading.literal).getD literal

/-- The reader after some readings. -/
def readerAfter (reader : Reader) (readings : List Reading) : Reader :=
  (readings.getLast?.map Reading.reader).getD reader

section

variable {dialect : Dialect} {literal : Literal} {reader : Reader}

theorem afterReadings_cons
    (reading : Reading)
    (readings : List Reading) :
    literal.afterReadings (reading :: readings) = reading.literal.afterReadings readings := by
  cases readings with
  | nil => rfl
  | cons second readings => simp [afterReadings, List.getLast?_cons]

theorem readerAfter_cons
    (reading : Reading)
    (readings : List Reading) :
    readerAfter reader (reading :: readings) = readerAfter reading.reader readings := by
  cases readings with
  | nil => rfl
  | cons second readings => simp [readerAfter, List.getLast?_cons]

/--
What holds at first and is kept by reading on holds before every reading, each of which reads on
from where the ones before it lead.
-/
theorem holds_before_reading
    {motive : Literal → Reader → Prop}
    (holds : motive literal reader)
    (kept :
      ∀ literal reader event,
        motive literal reader →
          (literal.read dialect reader).outcome = .ok event →
            motive (literal.read dialect reader).literal (literal.read dialect reader).reader)
    {before later : List Reading}
    {reading : Reading}
    (parted : literal.readings dialect reader = before ++ reading :: later) :
    motive (literal.afterReadings before) (readerAfter reader before) ∧
      reading = (literal.afterReadings before).read dialect (readerAfter reader before) := by
  induction before generalizing literal reader with
  | nil =>
      refine ⟨holds, ?_⟩
      unfold readings at parted
      split at parted <;> cases parted <;> rfl
  | cons first before inductionHypothesis =>
      unfold readings at parted
      split at parted
      · simp at parted
      · rename_i event outcome
        rw [List.cons_append, List.cons.injEq] at parted
        obtain ⟨rfl, parted⟩ := parted
        rw [afterReadings_cons, readerAfter_cons]
        exact inductionHypothesis (kept _ _ event holds outcome) parted

end

/-! ## Places in a text -/

/-- The raw text of an interpolation is what follows its mark in a text, up to some of it. -/
structure Encloses (text : List Char) (segment : Segment) (after : List Char) : Prop where
  after_mark :
    ∃ earlier,
      text = earlier ++ interpolationMark :: (segment.raw.toList ++ after) ∧
        earlier.length = segment.start
  unmarked : interpolationMark ∉ segment.raw.toList

/-- What a string and its reader hold after a text was read on from a position. -/
structure Holds
    (dialect : Dialect)
    (delimiter : Char)
    (text : List Char)
    (count : Nat)
    (literal : Literal)
    (reader : Reader) : Prop where
  same : literal.delimiter = delimiter
  counted : reader.pos + reader.rest.length = text.length
  isOpen : ∀ segment, literal.segment = some segment → Encloses text segment reader.rest
  allowed :
    literal.segment ≠ none → delimiter ≠ interpolationMark ∧ delimiter ∈ dialect.interpolating
  /-- What was consumed stands for the body, and this is so whatever is consumed next. -/
  decodes :
    ∃ taken,
      text.drop count = taken ++ reader.rest ∧
        ∀ more,
          more <+: reader.rest →
            decoded delimiter false (taken ++ more) =
              literal.body.toList ++ decoded delimiter literal.segment.isSome more

section

variable {dialect : Dialect} {delimiter : Char} {text : List Char} {count : Nat}
  {literal : Literal} {reader : Reader} {reading : Reading}

/-- The reader stands at an offset that is the length of what comes before it. -/
theorem Holds.exists_passed
    (holds : Holds dialect delimiter text count literal reader) :
    ∃ passed, text = passed ++ reader.rest ∧ passed.length = reader.pos := by
  obtain ⟨taken, rest, -⟩ := holds.decodes
  have whole : text = (text.take count ++ taken) ++ reader.rest := by
    rw [List.append_assoc, ← rest, List.take_append_drop]
  refine ⟨text.take count ++ taken, whole, ?_⟩
  have size := congrArg List.length whole
  have counted := holds.counted
  rw [List.length_append] at size
  omega

/-- Reading on by a piece of the text adds to the body what the piece stands for. -/
theorem Holds.goesOn
    {laterLiteral : Literal}
    {after : Reader}
    (piece added : List Char)
    (holds : Holds dialect delimiter text count literal reader)
    (next : reader.rest = piece ++ after.rest)
    (counts : after.pos = reader.pos + piece.length)
    (same : laterLiteral.delimiter = literal.delimiter)
    (body : laterLiteral.body.toList = literal.body.toList ++ added)
    (isOpen :
      ∀ segment, laterLiteral.segment = some segment → Encloses text segment after.rest)
    (allowed :
      laterLiteral.segment ≠ none →
        delimiter ≠ interpolationMark ∧ delimiter ∈ dialect.interpolating)
    (stands :
      ∀ more,
        more <+: after.rest →
          decoded delimiter literal.segment.isSome (piece ++ more) =
            added ++ decoded delimiter laterLiteral.segment.isSome more) :
    Holds dialect delimiter text count laterLiteral after where
  same := same.trans holds.same
  counted := by
    have counted := holds.counted
    rw [next, List.length_append] at counted
    omega
  isOpen := isOpen
  allowed := allowed
  decodes := by
    obtain ⟨taken, rest, decodes⟩ := holds.decodes
    refine ⟨taken ++ piece, by rw [rest, next, List.append_assoc], ?_⟩
    intro more shorter
    have longer : piece ++ more <+: reader.rest := by
      rw [next]
      exact (List.prefix_append_right_inj piece).mpr shorter
    rw [List.append_assoc, decodes _ longer, stands more shorter, body, List.append_assoc]

/-- Reading on without a failure goes on in the text, whatever is met. -/
theorem Holds.kept
    {event : Event}
    (holds : Holds dialect delimiter text count literal reader)
    (meets : Meets dialect literal reader reading)
    (goes : reading.outcome = .ok event) :
    Holds dialect delimiter text count reading.literal reading.reader := by
  have same := holds.same
  cases meets with
  | @raw segment c rest isOpen next noMark =>
      refine holds.goesOn [c] [] next rfl rfl (by simp) ?_ ?_ ?_
      · intro other isOther
        cases isOther
        obtain ⟨⟨earlier, whole, size⟩, unmarked⟩ := holds.isOpen segment isOpen
        refine ⟨⟨earlier, by simp [whole, next], size⟩, ?_⟩
        simpa [unmarked] using noMark.symm
      · intro _
        exact holds.allowed (by simp [isOpen])
      · intro more _
        have inside : (c != interpolationMark) = true := by
          simpa using noMark
        rw [isOpen, Option.isSome_some, List.singleton_append, decoded_inside, inside]
        rfl
  | @segmentClosed segment rest isOpen next =>
      refine holds.goesOn [_] [] next rfl rfl (by simp) nofun nofun ?_
      intro more _
      rw [isOpen, Option.isSome_some, List.singleton_append, decoded_inside]
      rfl
  | @escape c replacement rest outside next decodes =>
      refine
        holds.goesOn ['\\', c] [replacement] next rfl rfl (by simp)
          (by simp [outside]) (by simp [outside]) ?_
      intro more _
      rw [outside]
      exact decoded_escape decodes
  | @stray rest outside next undecoded =>
      refine
        holds.goesOn ['\\'] [] next rfl rfl (by simp)
          (by simp [outside]) (by simp [outside]) ?_
      intro more shorter
      rw [outside]
      refine decoded_stray ?_
      -- What comes next is not consumed, but only what is no part of an escape can come next.
      cases more with
      | nil => rfl
      | cons d more =>
          obtain ⟨others, whole⟩ := shorter
          dsimp only at whole
          rw [← whole] at undecoded
          exact undecoded
  | @closed rest outside next noBackslash =>
      refine
        holds.goesOn [_] [] next rfl rfl (by simp)
          (by simp [outside]) (by simp [outside]) ?_
      intro more _
      rw [outside, same]
      exact decoded_delimiter (same ▸ noBackslash)
  | @opened rest outside next noDelimiter allowed =>
      rw [same] at noDelimiter allowed
      refine
        holds.goesOn [_] [] next rfl rfl (by simp) ?_
          (fun _ => ⟨noDelimiter, allowed⟩) ?_
      · intro segment isOpen
        cases isOpen
        obtain ⟨passed, whole, size⟩ := holds.exists_passed
        exact ⟨⟨passed, by simp [whole, next], size⟩, by simp⟩
      · intro more _
        rw [outside]
        exact decoded_mark noDelimiter
  | @verbatim c rest outside next noBackslash noDelimiter noMark =>
      refine
        holds.goesOn [c] [c] next rfl rfl (by simp)
          (by simp [outside]) (by simp [outside]) ?_
      intro more _
      rw [outside]
      exact decoded_verbatim noBackslash (same ▸ noDelimiter) noMark
  | forbidden | ended | uncounted => cases goes

end

/-! ## Every reading -/

/-- What holds of a reading, and of the string and the reader before it. -/
structure Lawful
    (dialect : Dialect)
    (delimiter : Char)
    (text : List Char)
    (count : Nat)
    (literal : Literal)
    (reader : Reader)
    (reading : Reading) : Prop where
  /-- The position of the reader tells how much of the text comes before it. -/
  counted : reader.pos + reader.rest.length = text.length
  /-- The body is what the characters stand for that were consumed after the skipped ones. -/
  decodes :
    ∃ taken,
      text.drop count = taken ++ reader.rest ∧
        literal.body = String.ofList (decoded delimiter false taken)
  /-- An open interpolation holds the text after its mark up to the reader. -/
  isOpen :
    ∀ segment,
      literal.segment = some segment →
        Encloses text segment reader.rest ∧
          delimiter ≠ interpolationMark ∧ delimiter ∈ dialect.interpolating
  consumes : ∀ event, reading.outcome = .ok event → literal.Consumes reader reading.reader
  /-- The delimiter closes the string outside of interpolations, unless it is a backslash. -/
  closes :
    ∀ event,
      reading.outcome = .ok event →
        (event = .closed ↔
          literal.segment = none ∧ delimiter ≠ '\\' ∧ reader.rest.head? = some delimiter)
  closesSegment :
    ∀ segment,
      reading.outcome = .ok (.segmentClosed segment) →
        Encloses text segment (interpolationMark :: reading.reader.rest)
  /-- A failure leaves the string as it is, and a text that fits the offsets has two of them. -/
  fails :
    ∀ halt,
      reading.outcome = .error halt →
        reading.literal = literal ∧
          (halt = .fault ⟨.notInInterpolationString delimiter, none, reader.pos⟩ ∧
              literal.segment = none ∧
              reader.rest.head? = some interpolationMark ∧
              delimiter ∉ dialect.interpolating ∧
              delimiter ≠ interpolationMark ∨
            halt = .fault literal.unterminated ∧ reader.rest = [] ∨
            halt = .breach .sumTooLarge ∧ Offset.limit ≤ text.length)

section

variable {dialect : Dialect} {delimiter : Char} {text : List Char} {count : Nat}
  {literal : Literal} {reader : Reader} {reading : Reading}

theorem Holds.lawful
    (holds : Holds dialect delimiter text count literal reader)
    (meets : Meets dialect literal reader reading) :
    Lawful dialect delimiter text count literal reader reading where
  counted := holds.counted
  decodes := by
    obtain ⟨taken, rest, decodes⟩ := holds.decodes
    refine ⟨taken, rest, ?_⟩
    have all := decodes [] List.nil_prefix
    rw [List.append_nil, decoded_nil, List.append_nil] at all
    rw [all, String.ofList_toList]
  isOpen segment isOpen :=
    ⟨holds.isOpen segment isOpen, holds.allowed (by simp [isOpen])⟩
  consumes event goes := meets.consumes goes
  closes event goes := holds.same ▸ meets.closed_iff goes
  closesSegment segment goes := by
    cases meets with
    | segmentClosed isOpen next =>
        cases goes
        have encloses := holds.isOpen segment isOpen
        rw [next] at encloses
        exact encloses
    | raw | escape | stray | closed | opened | verbatim | forbidden | ended | uncounted =>
        cases goes
  fails halt failed := by
    have fails := meets.fails failed
    rw [holds.counted, holds.same] at fails
    exact fails

/-- Characters are skipped one by one, or as many as there are. -/
theorem rest_of_skip
    {after : Reader}
    (skipped : reader.skip count = .ok after) :
    after.rest = reader.rest.drop count ∧
      after.pos + after.rest.length = reader.pos + reader.rest.length := by
  induction count generalizing reader with
  | zero =>
      cases skipped
      exact ⟨rfl, rfl⟩
  | succ count inductionHypothesis =>
      obtain ⟨⟨next, further⟩, advanced, skipped⟩ := Halt.bind_eq_ok.mp skipped
      obtain ⟨rest, counted⟩ := inductionHypothesis skipped
      have total := (Reader.leads_of_advance advanced).total
      refine ⟨?_, counted.trans total⟩
      rw [rest]
      cases next with
      | none =>
          obtain rfl := Reader.eq_of_advance advanced
          have nothing : further.rest = [] := by
            unfold Reader.advance at advanced
            split at advanced
            · assumption
            · obtain ⟨_, _, impossible⟩ := Halt.bind_eq_ok.mp advanced
              cases impossible
          simp [nothing]
      | some c => rw [Reader.rest_of_advance advanced, List.drop_succ_cons]

/-- A text that fits the offsets lets any number of characters be skipped. -/
theorem exists_skip
    (fits : reader.pos + reader.rest.length < Offset.limit)
    (count : Nat) :
    ∃ after, reader.skip count = .ok after := by
  induction count generalizing reader with
  | zero => exact ⟨reader, rfl⟩
  | succ count inductionHypothesis =>
      obtain ⟨next, further, advanced⟩ : ∃ next further, reader.advance = .ok (next, further) := by
        cases shape : reader.rest with
        | nil => exact ⟨none, reader, by simp [Reader.advance, shape]⟩
        | cons c rest =>
            rcases advance_cons shape with passes | ⟨-, tooLarge⟩
            · exact ⟨_, _, passes⟩
            · omega
      have total := (Reader.leads_of_advance advanced).total
      obtain ⟨after, skipped⟩ := inductionHypothesis (by omega : further.pos + _ < _)
      exact ⟨after, Halt.bind_eq_ok.mpr ⟨_, advanced, skipped⟩⟩

theorem holds_opened
    {text : String}
    {first : Reader}
    (skipped : (Reader.ofText text).skip count = .ok first)
    (start insertAt : Nat) :
    Holds dialect delimiter text.toList count (opened delimiter start insertAt) first := by
  obtain ⟨rest, counted⟩ := rest_of_skip skipped
  refine ⟨rfl, ?_, nofun, nofun, [], ?_, ?_⟩
  · rw [counted]
    exact Nat.zero_add _
  · rw [rest]
    rfl
  · intro more _
    rfl

end

/--
A string with any delimiter, read on in a text from any position as often as that goes: after each
number of readings the string holds what was consumed, and the next reading is lawful.
-/
theorem readings_lawful
    (dialect : Dialect)
    (delimiter : Char)
    (start insertAt count : Nat)
    (text : String) :
    (text.length < Offset.limit → ∃ first, (Reader.ofText text).skip count = .ok first) ∧
      ∀ first,
        (Reader.ofText text).skip count = .ok first →
          ∀ before reading later,
            (opened delimiter start insertAt).readings dialect first = before ++ reading :: later →
              Lawful dialect delimiter text.toList count
                ((opened delimiter start insertAt).afterReadings before)
                (readerAfter first before)
                reading := by
  refine ⟨fun fits => exists_skip ?_ count, ?_⟩
  · rw [← String.length_toList] at fits
    simpa [Reader.ofText] using fits
  · intro first skipped before reading later parted
    obtain ⟨holds, same⟩ :=
      holds_before_reading (holds_opened skipped start insertAt)
        (fun literal reader event holds goes => holds.kept (meets_read dialect literal reader) goes)
        parted
    rw [same]
    exact holds.lawful (meets_read _ _ _)

/-- A backslash that delimits a string takes a character with it, and does not close the string. -/
theorem readings_lawful_backslash :
    (Reader.ofText "\\\x60a\x60\\n\\").skip 1 =
        .ok ⟨['\x60', 'a', '\x60', '\\', 'n', '\\'], 1, some '\\'⟩ ∧
      Lawful ⟨['\\']⟩ '\\' ['\\', '\x60', 'a', '\x60', '\\', 'n', '\\'] 1
        ⟨'\\', 0, "\n", 0, none⟩
        ⟨['\\'], 6, some 'n'⟩
        ⟨.ok .continued, ⟨'\\', 0, "\n", 0, none⟩, ⟨[], 7, some '\\'⟩⟩ := by
  have skipped :
      (Reader.ofText "\\\x60a\x60\\n\\").skip 1 =
        .ok ⟨['\x60', 'a', '\x60', '\\', 'n', '\\'], 1, some '\\'⟩ := by
    rfl
  have parted :
      (opened '\\' 0 0).readings ⟨['\\']⟩
          ⟨['\x60', 'a', '\x60', '\\', 'n', '\\'], 1, some '\\'⟩ =
        [⟨.ok .continued, ⟨'\\', 0, "", 0, some ⟨1, ""⟩⟩,
            ⟨['a', '\x60', '\\', 'n', '\\'], 2, some '\x60'⟩⟩,
          ⟨.ok .continued, ⟨'\\', 0, "", 0, some ⟨1, "a"⟩⟩,
            ⟨['\x60', '\\', 'n', '\\'], 3, some 'a'⟩⟩,
          ⟨.ok (.segmentClosed ⟨1, "a"⟩), ⟨'\\', 0, "", 0, none⟩,
            ⟨['\\', 'n', '\\'], 4, some '\x60'⟩⟩,
          ⟨.ok .continued, ⟨'\\', 0, "\n", 0, none⟩, ⟨['\\'], 6, some 'n'⟩⟩] ++
          ⟨.ok .continued, ⟨'\\', 0, "\n", 0, none⟩, ⟨[], 7, some '\\'⟩⟩ ::
            [⟨.error (.fault ⟨.stringNotEnded, none, 0⟩), ⟨'\\', 0, "\n", 0, none⟩,
              ⟨[], 7, some '\\'⟩⟩] := by
    cbv
  exact
    ⟨skipped,
      (readings_lawful ⟨['\\']⟩ '\\' 0 0 1 "\\\x60a\x60\\n\\").2 _ skipped _ _ _ parted⟩

end Brace.Literal
