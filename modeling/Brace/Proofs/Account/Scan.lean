import Brace.Proofs.Account.Outcome
import Brace.Tokenize

namespace Brace

/-!
# Accounts and scans

Each account determines a scan, with the offsets that follow from the lengths of what was read.
The functions of the scan are described here on the readers, words and matchers of such scans,
where their checks pass provided that the line is short enough for its offsets.
-/

namespace Reader

/-- The reader between the characters of a line that were passed and those that are left. -/
def between (passed rest : List Char) : Reader :=
  ⟨rest, passed.length, passed.getLast?⟩

/-- A reader passes the first of the characters that are left. -/
theorem advance_between
    {passed rest : List Char}
    {c : Char}
    (fits : (passed ++ c :: rest).length < Offset.limit) :
    (between passed (c :: rest)).advance = .ok (some c, between (passed ++ [c]) rest) := by
  have next : passed.length + 1 < Offset.limit := by
    simp only [List.length_append, List.length_cons] at fits
    omega
  simp [advance, between, Offset.add, next, bind, Except.bind, pure, Except.pure]

end Reader

namespace Word

/-- The word that begins at an offset and has some text, if that is not empty. -/
def ofText (start : Nat) (text : List Char) : Option Word :=
  if text = [] then none else some ⟨start, String.ofList text⟩

@[simp] theorem ofText_nil (start : Nat) : ofText start [] = none := rfl

theorem stop_ofList
    {start : Nat}
    {text : List Char}
    (fits : start + text.length < Offset.limit) :
    stop ⟨start, String.ofList text⟩ = .ok (start + text.length) := by
  simp only [stop, Offset.add, String.length_ofList, if_pos fits]

theorem flush_ofText
    {start : Nat}
    {text : List Char}
    {tokens : List Token}
    (fits : start + text.length < Offset.limit) :
    flush (ofText start text) tokens =
      .ok (tokens ++ Fragment.layout start (Fragment.wordOf text)) := by
  unfold ofText Fragment.wordOf
  split
  · simp [flush, pure, Except.pure]
  · simp [flush, stop_ofList fits, Token.word, Span.between, bind, Except.bind, pure, Except.pure,
      Fragment.tokens, Fragment.head, Fragment.nested]

/-- Text that is found where a word ends is added to the word. -/
theorem extend_ofText
    {start : Nat}
    {text more : List Char}
    (nonempty : more ≠ [])
    (fits : start + text.length < Offset.limit) :
    ∃ word,
      extend (ofText start text) more (start + text.length) = .ok word ∧
        some word = ofText start (text ++ more) := by
  have together : text ++ more ≠ [] := by
    simp [nonempty]
  refine ⟨⟨start, String.ofList (text ++ more)⟩, ?_, by rw [ofText, if_neg together]⟩
  unfold ofText
  split
  · rename_i empty
    simp [empty, extend, pure, Except.pure]
  · simp [extend, stop_ofList fits, bind, Except.bind, pure, Except.pure]

end Word

namespace Matcher

/-- The matcher that has read some characters from an offset on. -/
def ofSpelled (start : Nat) : List Char → Matcher
  | [] => idle
  | c :: spelled => matching start (c :: spelled) (Symbol.extending (c :: spelled))

@[simp] theorem ofSpelled_nil (start : Nat) : ofSpelled start [] = idle := rfl

theorem ofSpelled_concat
    {start : Nat}
    {spelled : List Char}
    {c : Char} :
    ofSpelled start (spelled ++ [c]) =
      matching start (spelled ++ [c]) (Symbol.extending (spelled ++ [c])) := by
  cases spelled <;> rfl

/-- A match goes on as long as its characters are waited on. -/
theorem extend_of_pending
    {start pos : Nat}
    {spelled : List Char}
    (waits : Symbol.pending spelled = true) :
    extend start spelled (Symbol.extending spelled) pos =
      .ok (matching start spelled (Symbol.extending spelled), .pending) := by
  unfold Symbol.pending at waits
  unfold extend
  split at waits
  · contradiction
  · rename_i only sole
    rw [sole]
    have incomplete : (!only.isKeyword && only.spelling == spelled) = false := by
      rcases Bool.or_eq_true_iff.mp waits with keyword | differs
      · simp [keyword]
      · simp_all
    simp only [incomplete]
    rfl
  · rename_i many
    split
    · rename_i only sole
      exact absurd sole (many only)
    · rfl

/-- A match ends with the character that completes the only spelling left. -/
theorem extend_of_completed
    {start pos : Nat}
    {symbol : Symbol}
    (other : symbol.isKeyword = false)
    (fits : pos + 1 < Offset.limit) :
    extend start symbol.spelling [symbol] pos =
      .ok (idle, .matched symbol start (pos + 1) true) := by
  simp [extend, other, Offset.add, fits, bind, Except.bind, pure, Except.pure]

/-- The character that ends a match is not consumed. -/
theorem consumed_resolve
    (start : Nat)
    (spelled : List Char)
    (next : Option Char)
    (stop : Nat) :
    (resolve start spelled next stop).consumed = false := by
  unfold resolve
  split
  · split <;> rfl
  · rfl

theorem feed_refused
    {c : Char}
    {prev : Option Char}
    {pos : Nat}
    (refused : openings c prev = []) :
    idle.feed c prev pos = .ok (idle, .unknown [c] pos true) := by
  simp only [feed, refused]
  rfl

/-- An idle matcher treats the characters that a character opens as its candidates. -/
theorem feed_opened
    {c : Char}
    {prev : Option Char}
    {pos : Nat}
    (opens : openings c prev ≠ []) :
    idle.feed c prev pos = extend pos [c] (Symbol.extending [c]) pos := by
  have all : openings c prev = Symbol.extending [c] := by
    rw [Symbol.openings_eq] at opens ⊢
    split at opens
    · contradiction
    · rename_i free
      rw [if_neg free]
  simp only [feed, ← all]

theorem feed_extended
    {start pos : Nat}
    {spelled : List Char}
    {c : Char}
    {prev : Option Char}
    (extendable : Symbol.extending (spelled ++ [c]) ≠ []) :
    (matching start spelled (Symbol.extending spelled)).feed c prev pos =
      extend start (spelled ++ [c]) (Symbol.extending (spelled ++ [c])) pos := by
  simp only [feed, Symbol.narrow_extending]

theorem feed_stopped
    {start pos : Nat}
    {spelled : List Char}
    {c : Char}
    {prev : Option Char}
    (nonempty : spelled ≠ [])
    (stops : Symbol.extending (spelled ++ [c]) = []) :
    (ofSpelled start spelled).feed c prev pos =
      .ok (idle, resolve start spelled (some c) pos) := by
  cases spelled with
  | nil => contradiction
  | cons first spelled =>
      simp only [ofSpelled, feed, Symbol.narrow_extending, stops]
      rfl

/-- A matcher fed with one more character that is open to it extends its match. -/
theorem feed_ofSpelled
    {start : Nat}
    {spelled : List Char}
    {c : Char}
    {prev : Option Char}
    (opens : spelled = [] → openings c prev ≠ [])
    (extendable : Symbol.extending (spelled ++ [c]) ≠ []) :
    (ofSpelled start spelled).feed c prev (start + spelled.length) =
      extend start (spelled ++ [c]) (Symbol.extending (spelled ++ [c]))
        (start + spelled.length) := by
  cases spelled with
  | nil => exact feed_opened (opens rfl)
  | cons first spelled => exact feed_extended extendable

end Matcher

namespace Account

/-- The string that is read after some fragments, with its parts and its open interpolation. -/
def literal (fragments : List Fragment) (delimiter : Char) (parts : List Part)
    (segment : Option (List Char)) : Literal where
  delimiter
  start := Fragment.extent fragments
  body := Part.body parts
  insertAt := (Fragment.layout 0 fragments).length
  segment := segment.map fun raw => ⟨bodyStop fragments parts, String.ofList raw⟩

/-- The mode of the scan that an account determines. -/
def Mode.scan (fragments : List Fragment) : Mode → Brace.Mode
  | .plain word spelled =>
      .plain
        (Matcher.ofSpelled (Fragment.extent fragments + word.length) spelled)
        (Word.ofText (Fragment.extent fragments) word)
  | .quoted delimiter parts segment => .quoted (literal fragments delimiter parts segment)

/-- The tokens of what was read in a mode, when it began at an offset. -/
def Mode.tokens (offset : Nat) : Mode → List Token
  | .plain _ _ => []
  | .quoted _ parts _ => Part.layout (offset + 1) parts

/-- The scan that an account determines. -/
def scan (account : Account) : Scan where
  reader := Reader.between account.passed account.rest
  mode := account.mode.scan account.fragments
  tokens :=
    Fragment.layout 0 account.fragments ++
      account.mode.tokens (Fragment.extent account.fragments)

end Account

end Brace
