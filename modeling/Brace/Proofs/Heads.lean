import Brace.Proofs.Cover
import Brace.Proofs.Flat
import Brace.Proofs.Unbroken

namespace Brace

/-!
# Where the parts of a scan stand

At the beginning of every round the parts of a scan stand one after the other in the line: first the
tokens, then the word, and right after it the match, which goes up to the reader.  While a string is
open there is neither word nor match.  The tokens before its place end before the string, and those
from its place on are those of its interpolations, so that its own token is in order where it is put
in the end.
-/

open Account

/-- The characters of a text between two positions. -/
structure Spells (text : List Char) (start stop : Nat) (chars : List Char) : Prop where
  ordered : start ≤ stop
  inside : stop ≤ text.length
  same : Span.slice ⟨start, stop⟩ text = chars

theorem spells_append
    (before middle after : List Char) :
    Spells (before ++ middle ++ after) before.length (before.length + middle.length) middle where
  ordered := Nat.le_add_right _ _
  inside := by
    rw [← List.length_append]
    exact (List.prefix_append (before ++ middle) after).length_le
  same := Span.slice_append before middle after

namespace Flat

/-- Where the match begins, or where the reader is if nothing is being matched. -/
def matchStart (flat : Flat) : Nat :=
  match flat.matcher with
  | .idle => flat.reader.pos
  | .matching start _ _ => start

/-- Where the word begins, or the match if there is no word. -/
def openStart (flat : Flat) : Nat :=
  match flat.word with
  | some word => word.start
  | none => flat.matchStart

/-- What holds while a string is open. -/
structure Inside (text : List Char) (flat : Flat) (literal : Literal) : Prop where
  idle : flat.matcher = .idle
  wordless : flat.word = none
  opened : literal.start < flat.reader.pos
  delimiter : text[literal.start]? = some literal.delimiter
  /-- The place that is kept for the token of the string is one among the tokens. -/
  place : literal.insertAt ≤ flat.tokens.length
  before : ∀ token ∈ flat.tokens.take literal.insertAt, token.span.stop ≤ literal.start
  after :
    ∀ token ∈ flat.tokens.drop literal.insertAt,
      literal.start < token.span.start ∧ token.span.stop ≤ flat.reader.pos

/-- What holds while no string is open. -/
structure Outside (text : List Char) (flat : Flat) : Prop where
  spelled :
    ∀ start spelled candidates,
      flat.matcher = .matching start spelled candidates →
        Spells text start flat.reader.pos spelled
  word :
    ∀ word,
      flat.word = some word →
        word.text ≠ "" ∧ Spells text word.start flat.matchStart word.text.toList
  tokens : ∀ token ∈ flat.tokens, token.span.stop ≤ flat.openStart

/-- What holds at the beginning of every round of the scan of a text. -/
structure Lawful (text : List Char) (flat : Flat) : Prop where
  /-- The reader counts the characters that it has passed, and remembers the last of them. -/
  reader : ∃ passed rest, text = passed ++ rest ∧ flat.reader = .between passed rest
  inside : ∀ literal, flat.string = some literal → flat.Inside text literal
  outside : flat.string = none → flat.Outside text

end Flat

section

variable {inner : String → Except Halt (List Token)} {dialect : Dialect}

theorem Matcher.eq_of_ofSpelled
    {start first : Nat}
    {spelled chars : List Char}
    {candidates : List Symbol}
    (same : ofSpelled start spelled = matching first chars candidates) :
    first = start ∧ chars = spelled := by
  cases spelled with
  | nil => cases same
  | cons c spelled =>
      cases same
      exact ⟨rfl, rfl⟩

theorem Word.eq_of_ofText
    {start : Nat}
    {text : List Char}
    {word : Word}
    (same : ofText start text = some word) :
    text ≠ [] ∧ word = ⟨start, String.ofList text⟩ := by
  unfold ofText at same
  split at same
  · cases same
  · rename_i nonempty
    cases same
    exact ⟨nonempty, rfl⟩

namespace Account

/-! ## Outside of strings -/

section

variable {fragments : List Fragment} {word spelled rest : List Char}

/-- The match begins after the word, even when there is none. -/
theorem matchStart_plain :
    (scan ⟨fragments, .plain word spelled, rest⟩).flat.matchStart =
      Fragment.extent fragments + word.length := by
  rw [scan_plain]
  cases spelled with
  | nil => exact length_passed_plain
  | cons first spelled => rfl

/-- The word begins after the fragments, even when there is none. -/
theorem openStart_plain :
    (scan ⟨fragments, .plain word spelled, rest⟩).flat.openStart = Fragment.extent fragments := by
  cases word with
  | nil => exact matchStart_plain
  | cons first word => rfl

theorem outside_plain
    (sound : Sound inner dialect ⟨fragments, .plain word spelled, rest⟩)
    (answers : Answers inner (line ⟨fragments, .plain word spelled, rest⟩).length) :
    (scan ⟨fragments, .plain word spelled, rest⟩).flat.Outside
      (line ⟨fragments, .plain word spelled, rest⟩) where
  spelled start chars candidates matching := by
    obtain ⟨rfl, rfl⟩ := Matcher.eq_of_ofSpelled matching
    have spells := spells_append (fragments.flatMap Fragment.written ++ word) chars rest
    rw [List.length_append, ← Fragment.extent] at spells
    have position :
        (scan ⟨fragments, .plain word chars, rest⟩).flat.reader.pos =
          Fragment.extent fragments + word.length + chars.length :=
      length_passed_plain
    rw [position]
    simpa only [line, passed, Mode.written, List.append_assoc] using spells
  word pending isPending := by
    obtain ⟨nonempty, rfl⟩ := Word.eq_of_ofText isPending
    have spells := spells_append (fragments.flatMap Fragment.written) word (spelled ++ rest)
    rw [← Fragment.extent] at spells
    refine ⟨by simpa using nonempty, ?_⟩
    rw [matchStart_plain, String.toList_ofList]
    simpa only [line, passed, Mode.written, List.append_assoc] using spells
  tokens token member := by
    have lawful : Fragment.Lawful inner dialect fragments := sound.fragments
    rw [openStart_plain]
    have short :
        Fragment.extent fragments ≤ (line ⟨fragments, .plain word spelled, rest⟩).length := by
      rw [line, List.length_append, length_passed_plain]
      omega
    have tidy := lawful.tidy_layout answers short 0
    rw [scan_plain] at member
    have bounds := tidy.inside token member
    omega

end

/-! ## Inside a string -/

section

variable
  {fragments : List Fragment}
  {delimiter : Char}
  {parts : List Part}
  {segment : Option (List Char)}
  {rest : List Char}

/-- The opening delimiter and the parts of an open string have been passed. -/
theorem bodyStop_le_length_passed :
    bodyStop fragments parts ≤
      (passed ⟨fragments, .quoted delimiter parts segment, rest⟩).length := by
  cases segment with
  | none => exact Nat.le_of_eq length_passed_quoted.symm
  | some raw =>
      rw [length_passed_segment]
      omega

/-- The opening delimiter of a string stands after the fragments. -/
theorem getElem?_line_quoted :
    (line ⟨fragments, .quoted delimiter parts segment, rest⟩)[Fragment.extent fragments]? =
      some delimiter := by
  cases segment <;> simp [line, passed, Mode.written, Fragment.extent]

theorem inside_quoted
    (sound : Sound inner dialect ⟨fragments, .quoted delimiter parts segment, rest⟩)
    (answers : Answers inner (line ⟨fragments, .quoted delimiter parts segment, rest⟩).length) :
    (scan ⟨fragments, .quoted delimiter parts segment, rest⟩).flat.Inside
      (line ⟨fragments, .quoted delimiter parts segment, rest⟩)
      (literal fragments delimiter parts segment) := by
  have reached := @bodyStop_le_length_passed fragments delimiter parts segment rest
  have counted :
      (passed ⟨fragments, .quoted delimiter parts segment, rest⟩).length ≤
        (line ⟨fragments, .quoted delimiter parts segment, rest⟩).length := by
    rw [line, List.length_append]
    exact Nat.le_add_right _ _
  have stop : bodyStop fragments parts = Fragment.extent fragments + 1 + Part.extent parts := rfl
  have lawful : Fragment.Lawful inner dialect fragments := sound.fragments
  have before := lawful.tidy_layout answers (by omega) 0
  have body :=
    Part.tidy_layout answers sound.mode.2.1 (by omega) (Fragment.extent fragments + 1)
  exact
    { idle := rfl
      wordless := rfl
      opened := show Fragment.extent fragments < (passed _).length by omega
      delimiter := getElem?_line_quoted
      place := by simp [Scan.flat, scan, Mode.scan, literal]
      before := by
        intro token member
        have isBefore : token ∈ Fragment.layout 0 fragments := by
          simpa [Scan.flat, scan, Mode.scan, literal] using member
        have bounds := before.inside token isBefore
        simp only [literal]
        omega
      after := by
        intro token member
        have isNested : token ∈ Part.layout (Fragment.extent fragments + 1) parts := by
          simpa [Scan.flat, scan, Mode.scan, Mode.tokens, literal] using member
        have bounds := body.inside token isNested
        have position :
            (scan ⟨fragments, .quoted delimiter parts segment, rest⟩).flat.reader.pos =
              (passed ⟨fragments, .quoted delimiter parts segment, rest⟩).length :=
          rfl
        rw [position]
        simp only [literal]
        omega }

end

/-- The scans of sound accounts are lawful. -/
theorem lawful_flat
    {account : Account}
    (sound : Sound inner dialect account)
    (answers : Answers inner account.line.length) :
    account.scan.flat.Lawful account.line := by
  obtain ⟨fragments, mode, rest⟩ := account
  cases mode with
  | plain word spelled =>
      exact
        { reader := ⟨_, rest, rfl, rfl⟩
          inside := fun _ isOpen => by cases isOpen
          outside := fun _ => outside_plain sound answers }
  | quoted delimiter parts segment =>
      exact
        { reader := ⟨_, rest, rfl, rfl⟩
          inside := by
            rintro literal isOpen
            cases isOpen
            exact inside_quoted sound answers
          outside := fun isClosed => by cases isClosed }

end Account

end

/-- All rounds of a line that fits the offsets are lawful, for they are those of sound accounts. -/
theorem lawful_of_mem_rounds
    {dialect : Dialect}
    {text : String}
    (fits : text.length < Offset.limit)
    {scan : Scan}
    (visited : scan ∈ (Scan.ofText text).rounds (tokenize dialect) dialect) :
    scan.flat.Lawful text.toList := by
  have size : (ofText text.toList).line.length = text.length := String.length_toList
  rw [← size] at fits
  have answers : Answers (tokenize dialect) (ofText text.toList).line.length :=
    answers_tokenize (Nat.le_of_lt fits)
  obtain ⟨account, sound, line, rfl⟩ :=
    exists_account_of_mem_rounds _ (sound_ofText text.toList) answers fits visited
  have whole : account.line = text.toList := line
  rw [← line] at answers
  rw [← whole]
  exact lawful_flat sound answers

/--
Tokenizing a line is a scan with its parts side by side, whose rounds are those of the scan of the
line.  Where the line fits the offsets, this scan is lawful at the beginning of each round.
-/
theorem Flat.lawful_of_mem_heads
    {dialect : Dialect}
    {text : String}
    (fits : text.length < Offset.limit) :
    tokenize dialect text = (ofText text).run (tokenize dialect) dialect ∧
      (ofText text).heads (tokenize dialect) dialect =
        ((Scan.ofText text).rounds (tokenize dialect) dialect).map Scan.flat ∧
      ∀ head ∈ (ofText text).heads (tokenize dialect) dialect, head.Lawful text.toList := by
  have rounds :
      (ofText text).heads (tokenize dialect) dialect =
        ((Scan.ofText text).rounds (tokenize dialect) dialect).map Scan.flat :=
    Scan.heads_flat (Scan.ofText text)
  refine ⟨tokenize_eq_run dialect text, rounds, ?_⟩
  intro head member
  rw [rounds] at member
  obtain ⟨scan, visited, rfl⟩ := List.mem_map.mp member
  exact lawful_of_mem_rounds fits visited

/--
The round after an interpolation, whose token comes after the place that is kept for the string, and
the end of the line, where a word and a keyword that is cut short are still to be resolved.
-/
theorem Flat.lawful_of_mem_heads_mixed :
    "f=\"a\x60b\x60c\"#tr".length < Offset.limit ∧
      Inside "f=\"a\x60b\x60c\"#tr".toList
        ⟨.between "f=\"a\x60b\x60".toList "c\"#tr".toList, .idle, none,
          some ⟨'"', 2, "a", 2, none⟩,
          [⟨.word, ⟨0, 1⟩, some "f"⟩, ⟨.setVar, ⟨1, 2⟩, none⟩, ⟨.word, ⟨5, 6⟩, some "b"⟩]⟩
        ⟨'"', 2, "a", 2, none⟩ ∧
      Outside "f=\"a\x60b\x60c\"#tr".toList
        ⟨.between "f=\"a\x60b\x60c\"#tr".toList [],
          .matching 10 ['t', 'r'] (Symbol.startingWith 't'), some ⟨9, "#"⟩, none,
          [⟨.word, ⟨0, 1⟩, some "f"⟩, ⟨.setVar, ⟨1, 2⟩, none⟩, ⟨.string, ⟨2, 9⟩, some "ac"⟩,
            ⟨.word, ⟨5, 6⟩, some "b"⟩]⟩ := by
  have fits : "f=\"a\x60b\x60c\"#tr".length < Offset.limit := by
    decide
  obtain ⟨-, -, lawful⟩ := @lawful_of_mem_heads .usual _ fits
  refine ⟨fits, (lawful _ ?_).inside _ rfl, (lawful _ ?_).outside rfl⟩
  · decide +kernel
  · decide +kernel

end Brace
