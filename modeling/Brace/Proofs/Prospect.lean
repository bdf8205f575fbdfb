import Brace.Proofs.Audit

namespace Brace

/-!
# Prospects of a line

A line that is typed character by character either can still be completed, by four more
characters at most, or is lost: then its fault is the fault of every line that begins with it.
An audit of the line shows which, for what comes next matters to it only through its state and a
backslash that ends a string so far.
-/

namespace Audit

/-- A quote opened the string, and the text of its interpolation holds no interpolation mark. -/
def State.Sound : State → Prop
  | plain _ => True
  | quoted delimiter _ => isQuote delimiter = true
  | segment delimiter _ _ raw => isQuote delimiter = true ∧ interpolationMark ∉ raw

/-- Whether an audit is in an interpolation. -/
def State.isSegment : State → Bool
  | segment _ _ _ _ => true
  | _ => false

/-- What an audit has come to after some characters, whatever comes next. -/
inductive Prospect (dialect : Dialect) (state : State) (position : Nat) (text : List Char) : Prop
  /-- It goes on from another state. -/
  | goesOn (next : State) (later : Nat)
      (sound : next.Sound)
      (outside :
        state.isSegment = false → interpolationMark ∉ text → next.isSegment = false)
      (leads :
        ∀ more, faultFrom dialect state position (text ++ more) = faultFrom dialect next later more)
  /-- A backslash at the end of a string so far waits for a character. -/
  | dangles (delimiter : Char) (start later : Nat)
      (quote : isQuote delimiter = true)
      (leads :
        ∀ more,
          faultFrom dialect state position (text ++ more) =
            faultFrom dialect (.quoted delimiter start) later ('\\' :: more))
  /-- It has met a fault, which cannot be without an interpolation mark. -/
  | lost (fault : Fault)
      (marked : interpolationMark ∈ text)
      (leads : ∀ more, faultFrom dialect state position (text ++ more) = some fault)

variable {dialect : Dialect}

/-- The prospect after some characters is that after others before them which lead there. -/
theorem Prospect.prepend
    {state next : State}
    {position later : Nat}
    {taken text : List Char}
    (outside :
      state.isSegment = false → interpolationMark ∉ taken → next.isSegment = false)
    (same :
      ∀ more,
        faultFrom dialect state position (taken ++ more) = faultFrom dialect next later more)
    (prospect : Prospect dialect next later text) :
    Prospect dialect state position (taken ++ text) := by
  have onward :
      ∀ more,
        faultFrom dialect state position (taken ++ text ++ more) =
          faultFrom dialect next later (text ++ more) := by
    intro more
    rw [List.append_assoc, same]
  cases prospect with
  | goesOn last stop sound outsideLater leads =>
      refine .goesOn last stop sound ?_ fun more => (onward more).trans (leads more)
      intro noSegment unmarked
      rw [List.mem_append, not_or] at unmarked
      exact outsideLater (outside noSegment unmarked.1) unmarked.2
  | dangles delimiter start stop quote leads =>
      exact .dangles delimiter start stop quote fun more => (onward more).trans (leads more)
  | lost fault marked leads =>
      have markedWhole := List.mem_append_right taken marked
      exact .lost fault markedWhole fun more => (onward more).trans (leads more)

/-!
## The next characters

An audit takes one character at a time, and two at a backslash in a string.  It goes on from a
state, waits for a character after the backslash, or ends at a mark; there is one lemma for each
state.
-/

/-- A state in which an interpolation mark is misplaced, for this cause. -/
inductive State.Rejects (dialect : Dialect) : State → Fault.Cause → Prop
  | outside : Rejects dialect (.plain false) .notInString
  | forbidden {delimiter start}
      (quote : isQuote delimiter = true)
      (plain : dialect.interpolatesIn delimiter = false) :
      Rejects dialect (.quoted delimiter start) (.notInInterpolationString delimiter)

/-- A state that rejects a mark is at fault there. -/
theorem State.Rejects.faultFrom_mark
    {state : State}
    {cause : Fault.Cause}
    (rejects : state.Rejects dialect cause)
    (position : Nat)
    (more : List Char) :
    faultFrom dialect state position (interpolationMark :: more) =
      some ⟨cause, none, position⟩ := by
  cases rejects with
  | outside =>
      rw [faultFrom, if_neg interpolationMark_ne_backslash, if_neg Bool.false_ne_true,
        if_neg (by decide), if_pos rfl]
  | forbidden quote plain =>
      have noDelimiter := (ne_interpolationMark_of_isQuote quote).symm
      rw [faultFrom, if_neg interpolationMark_ne_backslash, if_neg noDelimiter, if_pos rfl,
        if_neg (by simp [plain])]

/-- An audit in this state ends at an interpolation mark, with this fault. -/
inductive State.Stops (dialect : Dialect) (position : Nat) : State → Fault → Prop
  | rejected {state cause}
      (rejects : State.Rejects dialect state cause) :
      Stops dialect position state ⟨cause, none, position⟩
  /-- The mark closes an interpolation whose text is at fault. -/
  | inside {delimiter start mark raw found}
      (unmarked : interpolationMark ∉ raw)
      (faulty : fault dialect raw = some found) :
      Stops dialect position (.segment delimiter start mark raw) (found.moved (mark + 1))

theorem State.Stops.faultFrom_mark
    {state : State}
    {position : Nat}
    {found : Fault}
    (stops : state.Stops dialect position found)
    (more : List Char) :
    faultFrom dialect state position (interpolationMark :: more) = some found := by
  cases stops with
  | rejected rejects => exact rejects.faultFrom_mark position more
  | inside unmarked faulty =>
      rw [fault] at faulty
      rw [faultFrom, if_pos rfl, faulty]

/-- What the next characters of a text do to an audit. -/
inductive Advance (dialect : Dialect) (state : State) (position : Nat) (text : List Char) : Prop
  /-- They lead to a state, whatever comes after them. -/
  | passes (taken rest : List Char) (next : State)
      (shape : text = taken ++ rest)
      (nonempty : taken ≠ [])
      (sound : next.Sound)
      (outside :
        state.isSegment = false → interpolationMark ∉ taken → next.isSegment = false)
      (leads :
        ∀ more,
          faultFrom dialect state position (taken ++ more) =
            faultFrom dialect next (position + taken.length) more)
  /-- A backslash in a string is the last of them. -/
  | dangles (delimiter : Char) (start : Nat)
      (shape : text = ['\\'])
      (isQuoted : state = .quoted delimiter start)
      (quote : isQuote delimiter = true)
  /-- The first of them is an interpolation mark that is at fault. -/
  | stops (rest : List Char) (found : Fault)
      (shape : text = interpolationMark :: rest)
      (stops : state.Stops dialect position found)

section

variable {position : Nat} {c : Char} {rest : List Char}

/-- One character leads to a state. -/
theorem Advance.one
    {state : State}
    (next : State)
    (sound : next.Sound)
    (outside : state.isSegment = false → c ≠ interpolationMark → next.isSegment = false)
    (leads :
      ∀ more,
        faultFrom dialect state position (c :: more) =
          faultFrom dialect next (position + 1) more) :
    Advance dialect state position (c :: rest) := by
  refine .passes [c] rest next rfl (List.cons_ne_nil c []) sound ?_ leads
  intro noSegment unmarked
  rw [List.mem_singleton] at unmarked
  exact outside noSegment (Ne.symm unmarked)

/-- Outside of strings a mark is at fault unless a backslash stands before it. -/
theorem advance_plain
    (armed : Bool) :
    Advance dialect (.plain armed) position (c :: rest) := by
  by_cases backslash : c = '\\'
  · refine .one (.plain true) trivial (fun _ _ => rfl) ?_
    intro more
    rw [faultFrom, if_pos backslash]
  · cases armed with
    | true =>
        refine .one (.plain false) trivial (fun _ _ => rfl) ?_
        intro more
        rw [faultFrom, if_neg backslash, if_pos rfl]
    | false =>
        by_cases quote : isQuote c = true
        · refine .one (.quoted c position) quote (fun _ _ => rfl) ?_
          intro more
          rw [faultFrom, if_neg backslash, if_neg Bool.false_ne_true, if_pos quote]
        · by_cases mark : c = interpolationMark
          · exact .stops rest _ (congrArg (· :: rest) mark) (.rejected .outside)
          · refine .one (.plain false) trivial (fun _ _ => rfl) ?_
            intro more
            rw [faultFrom, if_neg backslash, if_neg Bool.false_ne_true, if_neg quote,
              if_neg mark]

/-- In a string a mark is at fault unless the delimiter allows interpolations. -/
theorem advance_quoted
    {delimiter : Char}
    (start : Nat)
    (quote : isQuote delimiter = true)
    (noBackslash : c ≠ '\\') :
    Advance dialect (.quoted delimiter start) position (c :: rest) := by
  by_cases closes : c = delimiter
  · refine .one (.plain false) trivial (fun _ _ => rfl) ?_
    intro more
    rw [faultFrom, if_neg noBackslash, if_pos closes]
  · by_cases mark : c = interpolationMark
    · cases allowed : dialect.interpolatesIn delimiter with
      | true =>
          refine
            .one (.segment delimiter start position []) ⟨quote, by simp⟩
              (fun _ noMark => absurd mark noMark) ?_
          intro more
          rw [faultFrom, if_neg noBackslash, if_neg closes, if_pos mark, if_pos allowed]
      | false =>
          have rejects :
              State.Rejects dialect (.quoted delimiter start)
                (.notInInterpolationString delimiter) :=
            .forbidden quote allowed
          exact .stops rest _ (congrArg (· :: rest) mark) (.rejected rejects)
    · refine .one (.quoted delimiter start) quote (fun _ _ => rfl) ?_
      intro more
      rw [faultFrom, if_neg noBackslash, if_neg closes, if_neg mark]

/-- In an interpolation a mark is at fault where the text before it is. -/
theorem advance_segment
    {delimiter : Char}
    {raw : List Char}
    (start mark : Nat)
    (sound : (State.segment delimiter start mark raw).Sound) :
    Advance dialect (.segment delimiter start mark raw) position (c :: rest) := by
  obtain ⟨quote, unmarked⟩ := sound
  by_cases closes : c = interpolationMark
  · cases faulty : fault dialect raw with
    | some found =>
        exact .stops rest _ (congrArg (· :: rest) closes) (.inside unmarked faulty)
    | none =>
        rw [fault] at faulty
        refine .one (.quoted delimiter start) quote (fun _ _ => rfl) ?_
        intro more
        rw [faultFrom, if_pos closes, faulty]
  · refine .one (.segment delimiter start mark (raw ++ [c])) ⟨quote, ?_⟩ (fun same _ => same) ?_
    · simp [unmarked, Ne.symm closes]
    · intro more
      rw [faultFrom, if_neg closes]

/-- In a string a backslash takes a character with it that it may take. -/
theorem faultFrom_taken
    {delimiter x : Char}
    {start : Nat}
    (taken : escapes x = true) :
    faultFrom dialect (.quoted delimiter start) position ('\\' :: x :: rest) =
      faultFrom dialect (.quoted delimiter start) (position + 2) rest := by
  rw [faultFrom, if_pos rfl, if_pos (by simpa using taken), List.tail_cons]

theorem escapes_of_isQuote
    {delimiter : Char}
    (quote : isQuote delimiter = true) :
    escapes delimiter = true := by
  simp [escapes, isMark_of_isQuote quote]

/-- In a string an audit passes a backslash with the character after it, whatever that is. -/
theorem faultFrom_backslash
    {delimiter x : Char}
    {start : Nat}
    (quote : isQuote delimiter = true)
    (more : List Char) :
    faultFrom dialect (.quoted delimiter start) position ('\\' :: x :: more) =
      faultFrom dialect (.quoted delimiter start) (position + 2) more := by
  cases taken : escapes x with
  | true => exact faultFrom_taken taken
  | false =>
      -- The backslash is passed alone, and the character after it means nothing in the string.
      have noDelimiter : x ≠ delimiter := by
        rintro rfl
        rw [escapes_of_isQuote quote] at taken
        cases taken
      obtain ⟨noBackslash, noMark⟩ : x ≠ '\\' ∧ x ≠ interpolationMark := by
        constructor <;> rintro rfl <;> exact absurd taken (by decide)
      rw [faultFrom, if_pos rfl, if_neg (by simpa using taken), faultFrom, if_neg noBackslash,
        if_neg noDelimiter, if_neg noMark]

theorem advance_backslash
    {delimiter : Char}
    (start : Nat)
    (quote : isQuote delimiter = true) :
    Advance dialect (.quoted delimiter start) position ('\\' :: rest) := by
  cases rest with
  | nil => exact .dangles delimiter start rfl rfl quote
  | cons x rest =>
      exact
        .passes ['\\', x] rest (.quoted delimiter start) rfl (List.cons_ne_nil _ _) quote
          (fun _ _ => rfl) (faultFrom_backslash quote)

/-- As long as characters are left an audit advances. -/
theorem advance
    {state : State}
    {text : List Char}
    (sound : state.Sound)
    (left : text ≠ []) :
    Advance dialect state position text := by
  cases text with
  | nil => contradiction
  | cons c rest =>
      cases state with
      | plain armed => exact advance_plain armed
      | quoted delimiter start =>
          by_cases backslash : c = '\\'
          · subst c
            exact advance_backslash start sound
          · exact advance_quoted start sound backslash
      | segment delimiter start mark raw => exact advance_segment start mark sound

/-- The delimiter closes a string without a fault. -/
theorem faultFrom_close
    {delimiter : Char}
    {start : Nat}
    (quote : isQuote delimiter = true) :
    faultFrom dialect (.quoted delimiter start) position [delimiter] = none := by
  rw [faultFrom, if_neg (ne_backslash_of_isMark (isMark_of_isQuote quote)), if_pos rfl, faultFrom]

/-- The text of an interpolation is gathered up to the mark that closes it. -/
theorem faultFrom_gathered
    {delimiter : Char}
    {start mark : Nat}
    {raw text rest : List Char}
    (unmarked : interpolationMark ∉ text) :
    faultFrom dialect (.segment delimiter start mark raw) position (text ++ rest) =
      faultFrom dialect (.segment delimiter start mark (raw ++ text)) (position + text.length)
        rest := by
  induction text generalizing position raw with
  | nil => simp
  | cons x text inductionHypothesis =>
      rw [List.mem_cons, not_or] at unmarked
      rw [List.cons_append, faultFrom, if_neg (Ne.symm unmarked.1), inductionHypothesis unmarked.2,
        List.append_assoc, List.length_cons, Nat.add_right_comm, Nat.add_assoc]
      rfl
end

/-! ## Whole texts -/

/-- What is left after an advance is shorter. -/
theorem length_lt_of_shape
    {text taken rest : List Char}
    (shape : text = taken ++ rest)
    (nonempty : taken ≠ []) :
    rest.length < text.length := by
  have some := List.length_pos_iff.mpr nonempty
  rw [shape, List.length_append]
  omega

/-- Every text leaves an audit with one of its prospects. -/
theorem prospect
    {state : State}
    (sound : state.Sound)
    (position : Nat)
    (text : List Char) :
    Prospect dialect state position text := by
  by_cases left : text = []
  · rw [left]
    exact .goesOn state position sound (fun noSegment _ => noSegment) fun _ => rfl
  · cases @advance dialect position state text sound left with
    | passes taken rest next shape nonempty nextSound outside leads =>
        have shorter := length_lt_of_shape shape nonempty
        have later := prospect nextSound (position + taken.length) rest
        rw [shape]
        exact later.prepend outside leads
    | dangles delimiter start shape isQuoted quote =>
        rw [shape, isQuoted]
        exact .dangles delimiter start position quote fun _ => rfl
    | stops rest found shape stops =>
        rw [shape]
        exact .lost found List.mem_cons_self fun more => stops.faultFrom_mark (rest ++ more)
termination_by text.length

/-! ## Completions -/

/-- Outside of interpolations one character at most completes a text. -/
theorem exists_closing_of_state
    {state : State}
    (sound : state.Sound)
    (outside : state.isSegment = false)
    (position : Nat) :
    ∃ closing : List Char,
      closing.length ≤ 1 ∧
        interpolationMark ∉ closing ∧
        faultFrom dialect state position closing = none := by
  cases state with
  | plain armed => exact ⟨[], by simp, by simp, by rw [faultFrom]⟩
  | quoted delimiter start =>
      have noMark := (ne_interpolationMark_of_isQuote sound).symm
      exact ⟨[delimiter], by simp, by simpa using noMark, faultFrom_close sound⟩
  | segment delimiter start mark raw => cases outside

/-- Two delimiters complete a string that ends in a backslash, which takes the first of them. -/
theorem faultFrom_dangling
    {delimiter : Char}
    {start position : Nat}
    (quote : isQuote delimiter = true) :
    faultFrom dialect (.quoted delimiter start) position ['\\', delimiter, delimiter] = none := by
  rw [faultFrom_taken (escapes_of_isQuote quote), faultFrom_close quote]

/-- A text without an interpolation mark can be completed by two characters, none of them a mark. -/
theorem exists_closing
    {text : List Char}
    (unmarked : interpolationMark ∉ text) :
    ∃ closing : List Char,
      closing.length ≤ 2 ∧
        interpolationMark ∉ closing ∧
        fault dialect (text ++ closing) = none := by
  cases @prospect dialect (.plain false) trivial 0 text with
  | goesOn next later sound outside leads =>
      obtain ⟨closing, short, closingUnmarked, faultless⟩ :=
        @exists_closing_of_state dialect next sound (outside rfl unmarked) later
      exact ⟨closing, by omega, closingUnmarked, by rw [fault, leads, faultless]⟩
  | dangles delimiter start later quote leads =>
      have noMark := (ne_interpolationMark_of_isQuote quote).symm
      exact
        ⟨[delimiter, delimiter], by simp, by simpa using noMark,
          by rw [fault, leads, faultFrom_dangling quote]⟩
  | lost fault marked leads => exact absurd marked unmarked

/-- A text without an interpolation mark can only be at fault for a string that is not ended. -/
theorem cause_of_unmarked
    {text : List Char}
    {found : Fault}
    (unmarked : interpolationMark ∉ text)
    (faulty : fault dialect text = some found) :
    found.cause = .stringNotEnded := by
  rw [fault, ← List.append_nil text] at faulty
  cases @prospect dialect (.plain false) trivial 0 text with
  | goesOn next later sound outside leads =>
      rw [leads] at faulty
      cases next with
      | plain armed =>
          rw [faultFrom] at faulty
          cases faulty
      | quoted delimiter start =>
          rw [faultFrom] at faulty
          cases faulty
          rfl
      | segment delimiter start mark raw => cases outside rfl unmarked
  | dangles delimiter start later quote leads =>
      rw [leads, faultFrom, if_pos rfl, if_neg (by simp), faultFrom] at faulty
      cases faulty
      rfl
  | lost other marked leads => exact absurd marked unmarked

/-- The text of an open interpolation is completed first, then it is closed with its string. -/
theorem exists_completion_of_segment
    {delimiter : Char}
    {start mark position : Nat}
    {raw : List Char}
    (sound : (State.segment delimiter start mark raw).Sound) :
    ∃ more : List Char,
      more.length ≤ 4 ∧
        faultFrom dialect (.segment delimiter start mark raw) position more = none := by
  obtain ⟨quote, unmarked⟩ := sound
  obtain ⟨closing, short, closingUnmarked, faultless⟩ := @exists_closing dialect raw unmarked
  refine ⟨closing ++ [interpolationMark, delimiter], by simp; omega, ?_⟩
  rw [faultFrom_gathered closingUnmarked, faultFrom, if_pos rfl]
  rw [fault] at faultless
  simp only [faultless]
  exact faultFrom_close quote

/-- Four more characters at most complete a text, or it has a fault whatever comes next. -/
theorem exists_completion_or_lost
    (text : List Char) :
    (∃ more : List Char, more.length ≤ 4 ∧ fault dialect (text ++ more) = none) ∨
      ∃ found, ∀ more, fault dialect (text ++ more) = some found := by
  cases @prospect dialect (.plain false) trivial 0 text with
  | goesOn next later sound _ leads =>
      left
      cases isSegment : next.isSegment with
      | false =>
          obtain ⟨closing, short, _, faultless⟩ :=
            @exists_closing_of_state dialect next sound isSegment later
          exact ⟨closing, by omega, by rw [fault, leads, faultless]⟩
      | true =>
          cases next with
          | segment delimiter start mark raw =>
              obtain ⟨more, short, faultless⟩ := exists_completion_of_segment sound
              exact ⟨more, short, by rw [fault, leads, faultless]⟩
          | _ => cases isSegment
  | dangles delimiter start later quote leads =>
      exact
        Or.inl
          ⟨[delimiter, delimiter], by simp, by rw [fault, leads, faultFrom_dangling quote]⟩
  | lost found marked leads => exact Or.inr ⟨found, leads⟩

end Audit

section

variable {dialect : Dialect}

/-- Some text that goes on with four more characters at most can be tokenized. -/
def Completable (dialect : Dialect) (text : String) : Prop :=
  ∃ more : String,
    more.length ≤ 4 ∧ ∃ tokens, tokenize dialect (text ++ more) = .ok tokens

/-- The text is at fault, and every text that begins with it has the same fault. -/
def Lost (dialect : Dialect) (text : String) : Prop :=
  ∃ fault,
    tokenize dialect text = .error (.fault fault) ∧
      ∀ more : String,
        (text ++ more).length < Offset.limit →
          tokenize dialect (text ++ more) = .error (.fault fault)

theorem agrees_tokenize_append
    {text more : String}
    (fits : (text ++ more).length < Offset.limit) :
    Audit.Agrees
      (Audit.fault dialect (text.toList ++ more.toList))
      (tokenize dialect (text ++ more)) := by
  rw [← String.toList_append, ← @String.ofList_toList (text ++ more), String.toList_ofList]
  exact agrees_tokenize (by rwa [String.length_toList])

/-- A text is either completable or lost, and never both. -/
theorem completable_or_lost
    {text : String}
    (fits : text.length + 4 < Offset.limit) :
    (Completable dialect text ∨ Lost dialect text) ∧
      ¬ (Completable dialect text ∧ Lost dialect text) := by
  refine ⟨?_, ?_⟩
  · rcases @Audit.exists_completion_or_lost dialect text.toList with
      ⟨more, short, faultless⟩ | ⟨fault, faulty⟩
    · left
      have moreFits : (text ++ String.ofList more).length < Offset.limit := by
        rw [String.length_append, String.length_ofList]
        omega
      have agrees := @agrees_tokenize_append dialect text (String.ofList more) moreFits
      rw [String.toList_ofList, faultless] at agrees
      exact ⟨String.ofList more, by rwa [String.length_ofList], agrees⟩
    · right
      have agrees :
          ∀ more : String,
            (text ++ more).length < Offset.limit →
              tokenize dialect (text ++ more) = .error (.fault fault) := by
        intro more moreFits
        have agrees := @agrees_tokenize_append dialect text more moreFits
        rwa [faulty] at agrees
      refine ⟨fault, ?_, agrees⟩
      have alone := agrees ""
      rw [String.append_empty] at alone
      exact alone (by omega)
  · rintro ⟨⟨more, short, tokens, reads⟩, fault, _, faulty⟩
    have moreFits : (text ++ more).length < Offset.limit := by
      rw [String.length_append]
      omega
    rw [faulty more moreFits] at reads
    cases reads

/--
A string that ends in a backslash, in an interpolation of a string: it takes all four characters
to complete it, and so it is not lost.
-/
theorem completable_backslash :
    Completable .usual "if\"a\x60'b\\" ∧ ¬ Lost .usual "if\"a\x60'b\\" := by
  have reads :
      tokenize .usual "if\"a\x60'b\\''\x60\"" =
        .ok
          [⟨.ifKeyword, ⟨0, 2⟩, none⟩,
            ⟨.string, ⟨2, 12⟩, some "a"⟩,
            ⟨.string, ⟨5, 10⟩, some "b'"⟩] := by
    decide +kernel
  have completable : Completable .usual "if\"a\x60'b\\" := ⟨"''\x60\"", by decide, _, reads⟩
  refine ⟨completable, ?_⟩
  intro lost
  exact (completable_or_lost (by decide)).2 ⟨completable, lost⟩

end

end Brace
