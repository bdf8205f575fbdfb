import Brace.Proofs.Account.Scan

namespace Brace

/-!
# Rounds of a scan

The rules for accounts are the rounds of scans: where a rule leads from one account to another,
a round leads from the scan of the one to the scan of the other, and where a rule ends in a
fault, so does the scan.  Hence a scan gives the answer that the rules lead to.
-/

/-! ## Rounds outside of strings -/

namespace Scan

theorem passIf_between
    {passed rest : List Char}
    {c : Char}
    (fits : (passed ++ c :: rest).length < Offset.limit) :
    passIf true (Reader.between passed (c :: rest)) =
      .ok (Reader.between (passed ++ [c]) rest) := by
  simp only [passIf, Reader.advance_between fits]
  rfl

/-- A character that the matcher takes is acted on as the matcher says. -/
theorem stepPlain_of_feed
    {reader : Reader}
    {matcher after : Matcher}
    {word : Option Word}
    {tokens : List Token}
    {c : Char}
    {step : Matcher.Step}
    (busy : (matcher.isIdle && Unicode.isSpace c) = false)
    (fed : matcher.feed c reader.prev reader.pos = .ok (after, step)) :
    stepPlain reader matcher word tokens c = apply reader after word tokens step := by
  simp only [stepPlain, busy, fed]
  rfl

/-- A recognised token comes after the word before it. -/
theorem recognise_token
    {reader : Reader}
    {matcher : Matcher}
    {fragments : List Fragment}
    {word spelling : List Char}
    {kind : Kind}
    (fits : Fragment.extent fragments + word.length < Offset.limit) :
    recognise reader matcher
        (Word.ofText (Fragment.extent fragments) word) (Fragment.layout 0 fragments)
        ⟨spelling, .token kind⟩
        (Fragment.extent fragments + word.length)
        (Fragment.extent fragments + word.length + spelling.length) =
      .ok
        ⟨reader, .plain matcher none,
          Fragment.layout 0 (fragments ++ Fragment.wordOf word ++ [.symbol spelling kind])⟩ := by
  simp [recognise, Word.flush_ofText fits, Token.plain, Span.between, bind, Except.bind, pure,
    Except.pure, Fragment.layout_append, Fragment.tokens, Fragment.head, Fragment.nested]

/-- A recognised quote opens a string after the word before it. -/
theorem recognise_quote
    {reader : Reader}
    {matcher : Matcher}
    {fragments : List Fragment}
    {word spelling : List Char}
    {delimiter : Char}
    {start stop : Nat}
    (fits : Fragment.extent fragments + word.length < Offset.limit) :
    recognise reader matcher
        (Word.ofText (Fragment.extent fragments) word) (Fragment.layout 0 fragments)
        ⟨spelling, .quote delimiter⟩ start stop =
      .ok
        ⟨reader,
          .quoted
            (.opened delimiter start
              (Fragment.layout 0 (fragments ++ Fragment.wordOf word)).length),
          Fragment.layout 0 (fragments ++ Fragment.wordOf word)⟩ := by
  simp [recognise, Word.flush_ofText fits, bind, Except.bind, pure, Except.pure,
    Fragment.layout_append]

/-- A mark after a backslash is added to the word before it. -/
theorem recognise_escaped
    {reader : Reader}
    {matcher : Matcher}
    {tokens : List Token}
    {start stop : Nat}
    {word spelling : List Char}
    (nonempty : spelling ≠ [])
    (fits : start + word.length < Offset.limit) :
    recognise reader matcher (Word.ofText start word) tokens
        ⟨spelling, .escaped⟩ (start + word.length) stop =
      .ok ⟨reader, .plain matcher (Word.ofText start (word ++ spelling)), tokens⟩ := by
  obtain ⟨longer, extended, same⟩ := Word.extend_ofText nonempty fits
  simp only [recognise, extended, ← same]
  rfl

/-- Text that spells nothing is added to the word before it. -/
theorem apply_unknown
    {reader later : Reader}
    {matcher : Matcher}
    {tokens : List Token}
    {start : Nat}
    {word text : List Char}
    {consumed : Bool}
    (nonempty : text ≠ [])
    (fits : start + word.length < Offset.limit)
    (passed : passIf consumed reader = .ok later) :
    apply reader matcher (Word.ofText start word) tokens
        (.unknown text (start + word.length) consumed) =
      .ok ⟨later, .plain matcher (Word.ofText start (word ++ text)), tokens⟩ := by
  obtain ⟨longer, extended, same⟩ := Word.extend_ofText nonempty fits
  simp only [apply, passed, ← same]
  simp only [bind, Except.bind, extended]
  rfl

end Scan

section

variable {inner : String → Except Halt (List Token)} {dialect : Dialect}

namespace Account

theorem step_plain
    {fragments : List Fragment}
    {word spelled rest : List Char}
    {c : Char} :
    (scan ⟨fragments, .plain word spelled, c :: rest⟩).step inner dialect =
      Scan.stepPlain
        (Reader.between (passed ⟨fragments, .plain word spelled, c :: rest⟩) (c :: rest))
        (Matcher.ofSpelled (Fragment.extent fragments + word.length) spelled)
        (Word.ofText (Fragment.extent fragments) word)
        (Fragment.layout 0 fragments)
        c := by
  simp only [scan, Mode.tokens, List.append_nil]
  rfl

theorem length_passed_plain
    {fragments : List Fragment}
    {word spelled rest : List Char} :
    (passed ⟨fragments, .plain word spelled, rest⟩).length =
      Fragment.extent fragments + word.length + spelled.length := by
  simp only [passed, Mode.written, Fragment.extent, List.length_append, Nat.add_assoc]

/-- A matcher that has read something is not idle, and one that has not sees no whitespace. -/
theorem busy_of_extendable
    {start : Nat}
    {spelled : List Char}
    {c : Char}
    (extendable : Symbol.extending (spelled ++ [c]) ≠ []) :
    ((Matcher.ofSpelled start spelled).isIdle && Unicode.isSpace c) = false := by
  cases space : Unicode.isSpace c with
  | false => rw [Bool.and_false]
  | true => exact absurd (Symbol.extending_eq_nil_of_isSpace space) extendable

theorem word_fits
    {fragments : List Fragment}
    {word spelled rest : List Char}
    (fits : (line ⟨fragments, .plain word spelled, rest⟩).length < Offset.limit) :
    Fragment.extent fragments + word.length < Offset.limit := by
  rw [line, List.length_append, length_passed_plain] at fits
  omega

/-- A character that opens nothing is passed as unknown. -/
theorem step_refused
    {fragments : List Fragment}
    {word rest : List Char}
    {c : Char}
    (space : Unicode.isSpace c = false)
    (refused : Matcher.openings c (lastOf fragments word) = []) :
    (scan ⟨fragments, .plain word [], c :: rest⟩).step inner dialect =
      Scan.apply
        (Reader.between (passed ⟨fragments, .plain word [], c :: rest⟩) (c :: rest))
        .idle
        (Word.ofText (Fragment.extent fragments) word)
        (Fragment.layout 0 fragments)
        (.unknown [c] (Fragment.extent fragments + word.length) true) := by
  have position := @length_passed_plain fragments word [] (c :: rest)
  have refusedHere :
      Matcher.openings c (passed ⟨fragments, .plain word [], c :: rest⟩).getLast? = [] := by
    simpa [lastOf, passed, Mode.written] using refused
  have fed :
      Matcher.idle.feed c
          (passed ⟨fragments, .plain word [], c :: rest⟩).getLast?
          (passed ⟨fragments, .plain word [], c :: rest⟩).length =
        .ok (.idle, .unknown [c] (Fragment.extent fragments + word.length) true) := by
    rw [position]
    exact Matcher.feed_refused refusedHere
  rw [step_plain, Matcher.ofSpelled_nil, Scan.stepPlain_of_feed (by simp [space]) fed]

/-- A character that brings a spelling closer is passed, and the matcher waits on. -/
theorem step_waiting
    {fragments : List Fragment}
    {word spelled rest : List Char}
    {c : Char}
    (opens : spelled = [] → Matcher.openings c (lastOf fragments word) ≠ [])
    (waits : Symbol.pending (spelled ++ [c]) = true) :
    (scan ⟨fragments, .plain word spelled, c :: rest⟩).step inner dialect =
      Scan.apply
        (Reader.between (passed ⟨fragments, .plain word spelled, c :: rest⟩) (c :: rest))
        (Matcher.ofSpelled (Fragment.extent fragments + word.length) (spelled ++ [c]))
        (Word.ofText (Fragment.extent fragments) word)
        (Fragment.layout 0 fragments)
        .pending := by
  have extendable := Symbol.extending_ne_nil_of_pending waits
  have fed :
      (Matcher.ofSpelled (Fragment.extent fragments + word.length) spelled).feed c
          (passed ⟨fragments, .plain word spelled, c :: rest⟩).getLast?
          (passed ⟨fragments, .plain word spelled, c :: rest⟩).length =
        .ok
          (.ofSpelled (Fragment.extent fragments + word.length) (spelled ++ [c]), .pending) := by
    rw [length_passed_plain, Matcher.feed_ofSpelled ?_ extendable, Matcher.ofSpelled_concat]
    · exact Matcher.extend_of_pending waits
    · rintro rfl
      simpa [lastOf, passed, Mode.written] using opens
  rw [step_plain, Scan.stepPlain_of_feed (busy_of_extendable extendable) fed]

/-- A character that completes a spelling is passed, and the symbol is acted on. -/
theorem step_completed
    {fragments : List Fragment}
    {word spelled rest : List Char}
    {c : Char}
    {meaning : Meaning}
    (sole : Symbol.extending (spelled ++ [c]) = [⟨spelled ++ [c], meaning⟩])
    (other : Symbol.isKeyword ⟨spelled ++ [c], meaning⟩ = false)
    (fits : (line ⟨fragments, .plain word spelled, c :: rest⟩).length < Offset.limit) :
    (scan ⟨fragments, .plain word spelled, c :: rest⟩).step inner dialect =
      Scan.recognise
        (Reader.between (passed ⟨fragments, .plain word spelled, c :: rest⟩ ++ [c]) rest)
        .idle
        (Word.ofText (Fragment.extent fragments) word)
        (Fragment.layout 0 fragments)
        ⟨spelled ++ [c], meaning⟩
        (Fragment.extent fragments + word.length)
        (Fragment.extent fragments + word.length + (spelled ++ [c]).length) := by
  have extendable : Symbol.extending (spelled ++ [c]) ≠ [] := by
    simp [sole]
  have opens :
      spelled = [] →
        Matcher.openings c (passed ⟨fragments, .plain word spelled, c :: rest⟩).getLast? ≠ [] := by
    rintro rfl
    have member : ⟨[] ++ [c], meaning⟩ ∈ Symbol.extending ([] ++ [c]) := by
      rw [sole]
      exact List.mem_singleton.mpr rfl
    have letter : isWordChar c = false := by
      rw [← other]
      exact (Symbol.isKeyword_of_mem_extending member).symm
    simpa [Symbol.openings_eq, letter] using extendable
  have positions :=
    @length_passed_plain fragments word spelled (c :: rest)
  have stopFits :
      Fragment.extent fragments + word.length + spelled.length + 1 < Offset.limit := by
    rw [line, List.length_append, positions, List.length_cons] at fits
    omega
  have fed :
      (Matcher.ofSpelled (Fragment.extent fragments + word.length) spelled).feed c
          (passed ⟨fragments, .plain word spelled, c :: rest⟩).getLast?
          (passed ⟨fragments, .plain word spelled, c :: rest⟩).length =
        .ok
          (.idle,
            .matched ⟨spelled ++ [c], meaning⟩ (Fragment.extent fragments + word.length)
              (Fragment.extent fragments + word.length + spelled.length + 1) true) := by
    rw [positions, Matcher.feed_ofSpelled opens extendable, sole]
    exact Matcher.extend_of_completed other stopFits
  rw [step_plain, Scan.stepPlain_of_feed (busy_of_extendable extendable) fed]
  simp only [Scan.apply, Scan.passIf_between fits, List.length_append, List.length_singleton,
    ← Nat.add_assoc]
  rfl

/-- A character that ends a spelling is not passed, and the spelling is resolved. -/
theorem step_stopped
    {fragments : List Fragment}
    {word spelled rest : List Char}
    {c : Char}
    (nonempty : spelled ≠ [])
    (stops : Symbol.extending (spelled ++ [c]) = []) :
    (scan ⟨fragments, .plain word spelled, c :: rest⟩).step inner dialect =
      Scan.apply
        (Reader.between (passed ⟨fragments, .plain word spelled, c :: rest⟩) (c :: rest))
        .idle
        (Word.ofText (Fragment.extent fragments) word)
        (Fragment.layout 0 fragments)
        (Matcher.resolve (Fragment.extent fragments + word.length) spelled (some c)
          (Fragment.extent fragments + word.length + spelled.length)) := by
  have busy :
      ((Matcher.ofSpelled (Fragment.extent fragments + word.length) spelled).isIdle
        && Unicode.isSpace c) = false := by
    cases spelled with
    | nil => contradiction
    | cons first spelled => rfl
  rw [step_plain, Scan.stepPlain_of_feed busy (Matcher.feed_stopped nonempty stops)]
  simp only [Reader.between, length_passed_plain]

theorem scan_plain
    {fragments : List Fragment}
    {word spelled rest : List Char} :
    scan ⟨fragments, .plain word spelled, rest⟩ =
      ⟨Reader.between (passed ⟨fragments, .plain word spelled, rest⟩) rest,
        .plain
          (Matcher.ofSpelled (Fragment.extent fragments + word.length) spelled)
          (Word.ofText (Fragment.extent fragments) word),
        Fragment.layout 0 fragments⟩ := by
  simp only [scan, Mode.scan, Mode.tokens, List.append_nil]

/-- Reading on outside of strings is a round of the scan. -/
theorem step_of_moves_plain
    {fragments : List Fragment}
    {word spelled rest : List Char}
    {after : Account}
    (waits : Symbol.pending spelled = true)
    (fits : (line ⟨fragments, .plain word spelled, rest⟩).length < Offset.limit)
    (moves : Moves inner dialect ⟨fragments, .plain word spelled, rest⟩ after) :
    (scan ⟨fragments, .plain word spelled, rest⟩).step inner dialect = .ok after.scan := by
  have startFits := word_fits fits
  have passes := fun taken => @passed_of_moves inner dialect _ after taken moves
  cases moves with
  | @blank fragments word c rest space =>
      rw [step_plain, scan_plain, passes [c] rfl]
      simp [Scan.stepPlain, Matcher.isIdle, space, Word.flush_ofText startFits,
        Scan.passIf_between fits, Fragment.layout_append, Fragment.tokens, Fragment.head,
        Fragment.nested, bind, Except.bind, pure, Except.pure]
  | @unknown fragments word c rest space refused =>
      rw [step_refused space refused, scan_plain, passes [c] rfl]
      exact Scan.apply_unknown (List.cons_ne_nil _ _) startFits (Scan.passIf_between fits)
  | @grown fragments word spelled c rest opens waits =>
      rw [step_waiting opens waits, scan_plain, passes [c] rfl]
      simp only [Scan.apply, Scan.passIf_between fits]
      rfl
  | @token fragments word spelled c kind rest member decided =>
      obtain ⟨sole, other⟩ := Symbol.extending_of_completed member decided
      rw [step_completed sole other fits, Scan.recognise_token startFits, scan_plain,
        passes [c] rfl]
      rfl
  | @quote fragments word c rest quote =>
      have other : Symbol.isKeyword ⟨[] ++ [c], .quote c⟩ = false := by
        simp [Symbol.isKeyword, Symbol.isWordChar_of_isMark (isMark_of_isQuote quote)]
      rw [step_completed (Symbol.extending_of_isQuote quote) other fits,
        Scan.recognise_quote startFits]
      simp [scan, passes [c] rfl, Mode.scan, Mode.tokens, literal, Literal.opened, Part.body]
  | @escaped fragments word c rest mark =>
      have other : Symbol.isKeyword ⟨['\\'] ++ [c], .escaped⟩ = false :=
        Symbol.isKeyword_backslash
      rw [step_completed (Symbol.extending_of_isMark mark) other fits,
        Scan.recognise_escaped (by simp) startFits, scan_plain, passes [c] rfl]
      rfl
  | @settled fragments word spelled c kind rest nonempty stops decided =>
      rw [step_stopped nonempty stops, Symbol.resolve_of_pending waits, decided, scan_plain,
        passes [] rfl, List.append_nil]
      exact Scan.recognise_token startFits
  | @abandoned fragments word spelled c rest nonempty stops undecided =>
      rw [step_stopped nonempty stops, Symbol.resolve_of_pending waits, undecided, scan_plain,
        passes [] rfl, List.append_nil]
      exact Scan.apply_unknown nonempty startFits rfl

/-! ## Rounds in strings -/

theorem length_passed_quoted
    {fragments : List Fragment}
    {delimiter : Char}
    {parts : List Part}
    {rest : List Char} :
    (passed ⟨fragments, .quoted delimiter parts none, rest⟩).length = bodyStop fragments parts := by
  simp only [passed, Mode.written, bodyStop, Fragment.extent, Part.extent, List.length_append,
    List.length_cons]
  omega

theorem length_passed_segment
    {fragments : List Fragment}
    {delimiter : Char}
    {parts : List Part}
    {raw rest : List Char} :
    (passed ⟨fragments, .quoted delimiter parts (some raw), rest⟩).length =
      bodyStop fragments parts + 1 + raw.length := by
  simp only [passed, Mode.written, bodyStop, Fragment.extent, Part.extent, List.length_append,
    List.length_cons]
  omega

theorem step_quoted
    {fragments : List Fragment}
    {delimiter c : Char}
    {parts : List Part}
    {rest : List Char}
    (fits : (line ⟨fragments, .quoted delimiter parts none, c :: rest⟩).length < Offset.limit) :
    (scan ⟨fragments, .quoted delimiter parts none, c :: rest⟩).step inner dialect = (do
      let reading :=
        (literal fragments delimiter parts none).readBody dialect c (bodyStop fragments parts)
          (Reader.between (passed ⟨fragments, .quoted delimiter parts none, c :: rest⟩ ++ [c]) rest)
      let event ← reading.outcome
      Scan.stepQuoted inner reading.reader reading.literal
        (Fragment.layout 0 fragments ++ Part.layout (Fragment.extent fragments + 1) parts)
        (bodyStop fragments parts) event) := by
  rw [← @length_passed_quoted fragments delimiter parts (c :: rest)]
  simp only [scan, Scan.step, Reader.peek, Reader.between, List.head?_cons, Mode.scan, Literal.read]
  have advances := Reader.advance_between fits
  simp only [Reader.between] at advances
  simp only [advances, literal, Option.map_none, Mode.tokens]

theorem step_segment
    {fragments : List Fragment}
    {delimiter c : Char}
    {parts : List Part}
    {raw rest : List Char}
    (fits :
      (line ⟨fragments, .quoted delimiter parts (some raw), c :: rest⟩).length < Offset.limit) :
    (scan ⟨fragments, .quoted delimiter parts (some raw), c :: rest⟩).step inner dialect = (do
      let reading :=
        (literal fragments delimiter parts (some raw)).readSegment
          ⟨bodyStop fragments parts, String.ofList raw⟩ c
          (Reader.between
            (passed ⟨fragments, .quoted delimiter parts (some raw), c :: rest⟩ ++ [c]) rest)
      let event ← reading.outcome
      Scan.stepQuoted inner reading.reader reading.literal
        (Fragment.layout 0 fragments ++ Part.layout (Fragment.extent fragments + 1) parts)
        (passed ⟨fragments, .quoted delimiter parts (some raw), c :: rest⟩).length event) := by
  simp only [scan, Scan.step, Reader.peek, Reader.between, List.head?_cons, Mode.scan, Literal.read]
  have advances := Reader.advance_between fits
  simp only [Reader.between] at advances
  simp only [advances, literal, Option.map_some, Mode.tokens]

/-- What is put into a list after its first part. -/
theorem insertIdx_length_append
    (before after : List α)
    (value : α) :
    (before ++ after).insertIdx before.length value = before ++ value :: after := by
  induction before with
  | nil => cases after <;> rfl
  | cons first before inductionHypothesis =>
      simp [inductionHypothesis]

/-- Moving the tokens of an interpolation to their places succeeds where the line fits. -/
theorem splice_of_ok
    {tokens found : List Token}
    {start : Nat}
    {raw : List Char}
    (reads : inner (String.ofList raw) = .ok found)
    (tidy : Tidy 0 raw.length found)
    (fits : start + 1 + raw.length < Offset.limit) :
    Scan.splice inner ⟨start, String.ofList raw⟩ tokens =
      .ok (tokens ++ found.map (Token.moved (start + 1))) := by
  have offset : Segment.textOffset ⟨start, String.ofList raw⟩ = .ok (start + 1) := by
    have small : start + 1 < Offset.limit := by
      omega
    simp only [Segment.textOffset, Offset.add, if_pos small]
  have moves :
      (found.mapM fun token => token.shift (start + 1)) =
        Except.ok (found.map (Token.moved (start + 1))) := by
    refine Token.mapM_shift_eq ?_
    intro token member
    have bounds := tidy.inside token member
    omega
  simp only [Scan.splice, offset, reads, moves, bind, Except.bind]
  rfl

/-- Reading on in a string is a round of the scan. -/
theorem step_of_moves_quoted
    {fragments : List Fragment}
    {delimiter : Char}
    {parts : List Part}
    {segment : Option (List Char)}
    {rest : List Char}
    {after : Account}
    (quote : isQuote delimiter = true)
    (answers : Answers inner (line ⟨fragments, .quoted delimiter parts segment, rest⟩).length)
    (fits : (line ⟨fragments, .quoted delimiter parts segment, rest⟩).length < Offset.limit)
    (moves : Moves inner dialect ⟨fragments, .quoted delimiter parts segment, rest⟩ after) :
    (scan ⟨fragments, .quoted delimiter parts segment, rest⟩).step inner dialect =
      .ok after.scan := by
  have noBackslash := ne_backslash_of_isMark (isMark_of_isQuote quote)
  have passes := fun taken => @passed_of_moves inner dialect _ after taken moves
  cases moves with
  | @escape fragments delimiter parts c decoded rest decodes =>
      have line :
          line ⟨fragments, .quoted delimiter parts none, '\\' :: c :: rest⟩ =
            passed ⟨fragments, .quoted delimiter parts none, '\\' :: c :: rest⟩ ++ ['\\'] ++
              c :: rest := by
        simp [Account.line]
      rw [step_quoted fits, scan, passes ['\\', c] rfl]
      rw [line] at fits
      have peeks :
          (Reader.between
              (passed ⟨fragments, .quoted delimiter parts none, '\\' :: c :: rest⟩ ++ ['\\'])
              (c :: rest)).peek.bind Literal.decodeEscape =
            some decoded := decodes
      simp only [Literal.readBody, peeks, Reader.advance_between fits, ↓reduceIte]
      simp [bind, Except.bind, Scan.stepQuoted, pure, Except.pure, Mode.scan, Mode.tokens, literal,
        Part.body, Part.decoded, Part.layout_append, Part.tokens]
  | @stray fragments delimiter parts rest undecoded =>
      have peeks :
          (Reader.between
              (passed ⟨fragments, .quoted delimiter parts none, '\\' :: rest⟩ ++ ['\\'])
              rest).peek.bind Literal.decodeEscape =
            none := undecoded
      rw [step_quoted fits, scan, passes ['\\'] rfl]
      simp only [Literal.readBody, peeks, ↓reduceIte]
      simp [bind, Except.bind, Scan.stepQuoted, pure, Except.pure, Mode.scan, Mode.tokens, literal,
        Part.body, Part.decoded, Part.layout_append, Part.tokens]
  | @closed fragments delimiter parts rest =>
      have stop :
          bodyStop fragments parts + 1 =
            Fragment.extent fragments + (Part.extent parts + 2) := by
        simp only [bodyStop]
        omega
      have stopFits : Fragment.extent fragments + (Part.extent parts + 2) < Offset.limit := by
        rw [line, List.length_append, length_passed_quoted, List.length_cons] at fits
        omega
      rw [step_quoted fits, scan_plain, passes [delimiter] rfl]
      simp only [Literal.readBody, literal, if_neg noBackslash, ↓reduceIte]
      simp [bind, Except.bind, Scan.stepQuoted, pure, Except.pure, Offset.add, stopFits,
        Literal.toToken, Token.string, Span.between, stop, insertIdx_length_append,
        Fragment.layout_append, Fragment.tokens, Fragment.head, Fragment.nested]
  | @opened fragments delimiter parts rest interpolates =>
      have markNoDelimiter := (ne_interpolationMark_of_isQuote quote).symm
      rw [step_quoted fits, scan, passes [interpolationMark] rfl]
      simp only [Literal.readBody, literal, if_neg interpolationMark_ne_backslash,
        if_neg markNoDelimiter, ↓reduceIte]
      simp [interpolates, bind, Except.bind, Scan.stepQuoted, pure, Except.pure, Mode.scan,
        Mode.tokens, literal]
  | @verbatim fragments delimiter parts c rest noBackslash noDelimiter noMark =>
      rw [step_quoted fits, scan, passes [c] rfl]
      simp only [Literal.readBody, literal, if_neg noBackslash, if_neg noDelimiter, if_neg noMark]
      simp [bind, Except.bind, Scan.stepQuoted, pure, Except.pure, Mode.scan, Mode.tokens, literal,
        Part.body, Part.decoded, Part.layout_append, Part.tokens]
  | @gathered fragments delimiter parts raw c rest noMark =>
      rw [step_segment fits, scan, passes [c] rfl]
      simp only [Literal.readSegment, if_neg noMark]
      simp [bind, Except.bind, Scan.stepQuoted, pure, Except.pure, Mode.scan, Mode.tokens, literal]
  | @tokenized fragments delimiter parts raw tokens rest reads =>
      have orderly := answers (String.ofList raw) (by simpa using length_raw_lt)
      rw [reads, String.length_ofList] at orderly
      have rawFits : bodyStop fragments parts + 1 + raw.length < Offset.limit := by
        rw [line, List.length_append, length_passed_segment] at fits
        omega
      rw [step_segment fits, scan, passes [interpolationMark] rfl]
      simp only [Literal.readSegment, ↓reduceIte, Scan.stepQuoted,
        splice_of_ok reads orderly rawFits, bind, Except.bind]
      simp [pure, Except.pure, Mode.scan, Mode.tokens, literal, Part.body, Part.decoded,
        Part.layout_append, Part.tokens, bodyStop]

/-! ## The end of a scan -/

/-- Reading on is a round of the scan. -/
theorem step_of_moves
    {account after : Account}
    (sound : Sound inner dialect account)
    (answers : Answers inner account.line.length)
    (fits : account.line.length < Offset.limit)
    (moves : Moves inner dialect account after) :
    account.scan.step inner dialect = .ok after.scan := by
  obtain ⟨fragments, mode, rest⟩ := account
  cases mode with
  | plain word spelled => exact step_of_moves_plain sound.mode.2.2 fits moves
  | quoted delimiter parts segment => exact step_of_moves_quoted sound.mode.1 answers fits moves

/-- A fault in the middle of a line ends the scan in its round. -/
theorem step_of_fails
    {account : Account}
    {fault : Fault}
    (sound : Sound inner dialect account)
    (answers : Answers inner account.line.length)
    (fits : account.line.length < Offset.limit)
    (left : account.rest ≠ [])
    (fails : Fails inner dialect account fault) :
    account.scan.step inner dialect = .error (.fault fault) := by
  cases fails with
  | @outside fragments word rest =>
      have other : Symbol.isKeyword ⟨[] ++ [interpolationMark], .interpolation⟩ = false := by
        decide
      rw [step_completed Symbol.extending_interpolationMark other fits]
      rfl
  | @forbidden fragments delimiter parts rest plain =>
      have markNoDelimiter := (ne_interpolationMark_of_isQuote sound.mode.1).symm
      rw [step_quoted fits]
      simp only [Literal.readBody, literal, if_neg interpolationMark_ne_backslash,
        if_neg markNoDelimiter, ↓reduceIte]
      simp [plain, bind, Except.bind]
  | @inside fragments delimiter parts raw fault rest faulty =>
      have orderly := answers (String.ofList raw) (by simpa using length_raw_lt)
      rw [faulty, String.length_ofList] at orderly
      have bound : fault.offset < raw.length := orderly
      have rawFits : bodyStop fragments parts + 1 + raw.length < Offset.limit := by
        rw [line, List.length_append, length_passed_segment] at fits
        omega
      have startFits : bodyStop fragments parts + 1 < Offset.limit := by
        omega
      have moved : fault.offset + (bodyStop fragments parts + 1) < Offset.limit := by
        omega
      rw [step_segment fits]
      simp only [Literal.readSegment, ↓reduceIte, Scan.stepQuoted, Scan.splice, Segment.textOffset,
        Offset.add, if_pos startFits, faulty, Halt.shift, Fault.shift, if_pos moved, bind,
        Except.bind]
      rfl
  | unclosed => contradiction
  | unclosedSegment => contradiction

/-- The end of a line settles the spelling that was waited on. -/
theorem settle_of_plain
    {fragments : List Fragment}
    {word spelled : List Char}
    (waits : Symbol.pending spelled = true)
    (fits : (line ⟨fragments, .plain word spelled, []⟩).length < Offset.limit) :
    (scan ⟨fragments, .plain word spelled, []⟩).settle =
      .ok
        (match Symbol.verdict spelled none with
          | some kind =>
              ⟨Reader.between (passed ⟨fragments, .plain word spelled, []⟩) [],
                .plain .idle none,
                Fragment.layout 0 (fragments ++ Fragment.wordOf word ++ [.symbol spelled kind])⟩
          | none =>
              ⟨Reader.between (passed ⟨fragments, .plain word spelled, []⟩) [],
                .plain .idle (Word.ofText (Fragment.extent fragments) (word ++ spelled)),
                Fragment.layout 0 fragments⟩) := by
  have startFits := word_fits fits
  rw [scan_plain]
  cases spelled with
  | nil =>
      simp only [Symbol.verdict_nil, List.append_nil]
      rfl
  | cons first spelled =>
      have resolved :=
        @Symbol.resolve_of_pending
          (Fragment.extent fragments + word.length)
          (passed ⟨fragments, .plain word (first :: spelled), []⟩).length
          _ none waits
      simp only [Scan.settle, Matcher.ofSpelled, Matcher.finish, Reader.between] at resolved ⊢
      rw [resolved]
      cases decided : Symbol.verdict (first :: spelled) none with
      | some kind =>
          simp only [Scan.apply, length_passed_plain]
          exact Scan.recognise_token startFits
      | none => exact Scan.apply_unknown (List.cons_ne_nil _ _) startFits rfl

/-- A line that ends outside of strings gives the tokens of its fragments. -/
theorem finish_of_plain
    {fragments : List Fragment}
    {word spelled : List Char}
    (sound : Sound inner dialect ⟨fragments, .plain word spelled, []⟩)
    (answers : Answers inner (line ⟨fragments, .plain word spelled, []⟩).length)
    (fits : (line ⟨fragments, .plain word spelled, []⟩).length < Offset.limit) :
    (scan ⟨fragments, .plain word spelled, []⟩).finish =
      .ok (Fragment.layout 0 (fragments ++ ending word spelled)) := by
  have tidy : Tidy 0 _ (Fragment.layout 0 (fragments ++ ending word spelled)) :=
    orderly_of_runs sound answers .ended
  have ascends := tidy.startsAscend
  have wordFits : Fragment.extent fragments + (word ++ spelled).length < Offset.limit := by
    rw [line, List.length_append, length_passed_plain] at fits
    simp only [List.length_append]
    omega
  rw [Scan.finish, settle_of_plain sound.mode.2.2 fits]
  unfold ending at ascends ⊢
  cases decided : Symbol.verdict spelled none with
  | some kind =>
      simp only [decided, ← List.append_assoc] at ascends ⊢
      simp only [bind, Except.bind, Word.flush, pure, Except.pure, ascends, ↓reduceIte]
  | none =>
      simp only [decided, Fragment.layout_append, Nat.zero_add] at ascends ⊢
      simp only [bind, Except.bind, Word.flush_ofText wordFits, ascends]
      rfl

theorem finish_of_fails
    {account : Account}
    {fault : Fault}
    (ends : account.rest = [])
    (fails : Fails inner dialect account fault) :
    account.scan.finish = .error (.fault fault) := by
  cases fails with
  | outside => cases ends
  | forbidden plain => cases ends
  | inside faulty => cases ends
  | unclosed => rfl
  | unclosedSegment => rfl

/-! ## Whole scans -/

theorem atEnd_scan
    (account : Account) :
    account.scan.reader.atEnd = account.rest.isEmpty := rfl

theorem rest_ne_nil_of_moves
    {account after : Account}
    (moves : Moves inner dialect account after) :
    account.rest ≠ [] := by
  cases moves with
  | _ => exact List.cons_ne_nil _ _

/-- A scan gives the answer that the rules lead to. -/
theorem run_of_runs
    {account : Account}
    {result : Except Fault (List Fragment)}
    (sound : Sound inner dialect account)
    (answers : Answers inner account.line.length)
    (fits : account.line.length < Offset.limit)
    (runs : Runs inner dialect account result) :
    account.scan.run inner dialect = answer result := by
  -- Each rule is one round, so the induction is on how the rules lead to the result.
  induction runs with
  | ended =>
      rw [Scan.run_of_atEnd rfl]
      exact finish_of_plain sound answers fits
  | @failed account fault fails =>
      by_cases ends : account.rest = []
      · have atEnd : account.scan.reader.atEnd = true := by
          rw [atEnd_scan, ends, List.isEmpty_nil]
        rw [Scan.run_of_atEnd atEnd]
        exact finish_of_fails ends fails
      · have left : account.scan.reader.atEnd = false := by
          rw [atEnd_scan, List.isEmpty_eq_false_iff]
          exact ends
        exact Scan.run_of_step_error left (step_of_fails sound answers fits ends fails)
  | @moved account after result moves runs inductionHypothesis =>
      have left : account.scan.reader.atEnd = false := by
        rw [atEnd_scan, List.isEmpty_eq_false_iff]
        exact rest_ne_nil_of_moves moves
      rw [Scan.run_of_step_ok left (step_of_moves sound answers fits moves)]
      rw [line_of_moves moves] at inductionHypothesis
      exact inductionHypothesis (sound.of_moves moves) answers fits

end Account

end

end Brace
