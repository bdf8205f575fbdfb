import Brace.Unicode.GraphemeClass

namespace Brace.Text.Grapheme

/-!
# Graphemes

Text is cut into graphemes, the units that people take for single characters: a letter with its
marks, a composed Hangul syllable, a flag, a pictograph joined from several.  Whether a grapheme
ends between two characters depends on the class of the second and on a little of what comes before
it.  Cutting loses nothing, and no grapheme is empty.
-/

open Unicode

/-- What of a text bears on whether a grapheme ends where the text does. -/
structure Context where
  /-- The class of the last character. -/
  last : GraphemeClass
  /-- The text ends in an odd number of regional indicators. -/
  unpaired : Bool
  /-- The text ends in a pictograph, extenders, and perhaps a joiner. -/
  pictographic : Bool
  /-- The text ends in a consonant with extenders and joiners. -/
  consonantal : Bool
  /-- The extenders that follow that consonant include one that links consonants. -/
  linked : Bool
  deriving Repr, DecidableEq

namespace Context

/-- The context in which every character starts a grapheme. -/
def start : Context :=
  ⟨.control, false, false, false, false⟩

/-- Whether a character keeps the last consonant ready for a further one. -/
def keepsConjunct (c : Char) (kind : GraphemeClass) : Bool :=
  (kind = .extender || kind = .joiner) && c != '\u200C'

/-- The context after one more character. -/
def push (context : Context) (c : Char) : Context :=
  let kind := graphemeClass c
  let keeps := context.consonantal && keepsConjunct c kind
  { last := kind
    unpaired := kind = .regionalIndicator && !context.unpaired
    pictographic :=
      kind = .pictograph ||
        (kind = .extender || kind = .joiner) && context.pictographic && context.last != .joiner
    consonantal := kind = .conjunctConsonant || keeps
    linked := keeps && (context.linked || linksConsonants c) }

/-- Whether a character continues the last grapheme. -/
def continuedBy (context : Context) (c : Char) : Bool :=
  match context.last, graphemeClass c with
  | .carriageReturn, .lineFeed => true
  | .control, _ | .carriageReturn, _ | .lineFeed, _ => false
  | _, .control | _, .carriageReturn | _, .lineFeed => false
  | .leadingJamo, .leadingJamo | .leadingJamo, .vowelJamo => true
  | .leadingJamo, .openSyllable | .leadingJamo, .closedSyllable => true
  | .openSyllable, .vowelJamo | .openSyllable, .trailingJamo => true
  | .vowelJamo, .vowelJamo | .vowelJamo, .trailingJamo => true
  | .closedSyllable, .trailingJamo | .trailingJamo, .trailingJamo => true
  | _, .extender | _, .joiner | _, .spacingMark => true
  | .prependedSign, _ => true
  | _, .conjunctConsonant => context.linked
  | .joiner, .pictograph => context.pictographic
  | .regionalIndicator, .regionalIndicator => context.unpaired
  | _, _ => false

end Context

/--
Cut what follows a text in some context.  `current` is the last grapheme of that text, last
character first.
-/
def cut (context : Context) (current : List Char) : List Char → List (List Char)
  | [] => [current.reverse]
  | c :: rest =>
      if context.continuedBy c then cut (context.push c) (c :: current) rest
      else current.reverse :: cut (context.push c) [c] rest

/-- The graphemes of a text, in order. -/
def split : List Char → List (List Char)
  | [] => []
  | c :: rest => cut (Context.start.push c) [c] rest

/-- Cutting adds what follows to the grapheme it starts from, and loses nothing. -/
theorem flatten_cut {context : Context} {current rest : List Char} :
    (cut context current rest).flatten = current.reverse ++ rest := by
  induction rest generalizing context current with
  | nil => simp [cut]
  | cons c rest inductionHypothesis =>
      unfold cut
      split <;> simp [inductionHypothesis]

/-- The graphemes of a text make it up. -/
theorem flatten_split (text : List Char) : (split text).flatten = text := by
  cases text with
  | nil => rfl
  | cons c rest => simp [split, flatten_cut]

/-- Cutting from a grapheme with characters gives only such graphemes. -/
theorem ne_nil_of_mem_cut
    {context : Context}
    {current rest grapheme : List Char}
    (started : current ≠ [])
    (member : grapheme ∈ cut context current rest) :
    grapheme ≠ [] := by
  induction rest generalizing context current with
  | nil => simp_all [cut]
  | cons c rest inductionHypothesis =>
      unfold cut at member
      split at member
      · exact inductionHypothesis (List.cons_ne_nil c current) member
      · cases member with
        | head => simpa using started
        | tail _ member => exact inductionHypothesis (List.cons_ne_nil c []) member

/-- No grapheme is empty. -/
theorem ne_nil_of_mem_split {text grapheme : List Char} (member : grapheme ∈ split text) :
    grapheme ≠ [] := by
  cases text with
  | nil => cases member
  | cons c rest => exact ne_nil_of_mem_cut (List.cons_ne_nil c []) member

end Brace.Text.Grapheme
