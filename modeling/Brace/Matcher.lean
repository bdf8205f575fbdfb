import Brace.Halt
import Brace.Symbol

namespace Brace

/-!
# The symbol matcher

Symbols are matched one character at a time, the longest spelling first.  The matcher holds the
symbols that the characters read so far could still spell.  A single remaining candidate that is
fully spelled is recognised at once, unless it is a keyword: then the next character decides.
-/

/-- What the matcher knows between two characters. -/
inductive Matcher
  /-- Nothing is being matched. -/
  | idle
  /-- The characters from `start` on begin the spelling of each of the candidates. -/
  | matching (start : Nat) (spelled : List Char) (candidates : List Symbol)
  deriving Repr, DecidableEq

namespace Matcher

/--
What one character led to.  A character that was not consumed only ended a match, and is to be fed
again.
-/
inductive Step
  /-- The character extended the match. -/
  | pending
  /-- A symbol was recognised. -/
  | matched (symbol : Symbol) (start stop : Nat) (consumed : Bool)
  /-- The text from `start` on spells no symbol. -/
  | unknown (text : List Char) (start : Nat) (consumed : Bool)
  deriving Repr, DecidableEq

/-- Whether the character that led to a step was consumed. -/
def Step.consumed : Step → Bool
  | pending => true
  | matched _ _ _ consumed => consumed
  | unknown _ _ consumed => consumed

/-- Whether nothing is being matched. -/
def isIdle : Matcher → Bool
  | idle => true
  | matching _ _ _ => false

/-- The symbols that may begin with `c` after the character `prev`. -/
def openings (c : Char) (prev : Option Char) : List Symbol :=
  (Symbol.startingWith c).filter fun symbol => !symbol.isKeyword || !prev.any isWordChar

/-- The candidates whose spelling has `c` at a depth. -/
def narrow (candidates : List Symbol) (depth : Nat) (c : Char) : List Symbol :=
  candidates.filter fun symbol => symbol.spelling[depth]? == some c

/-- The match now ends with the character at `pos`. -/
def extend (start : Nat) (spelled : List Char) (candidates : List Symbol) (pos : Nat) :
    Except Halt (Matcher × Step) :=
  match candidates with
  | [only] =>
      if !only.isKeyword && only.spelling == spelled then do
        let stop ← Offset.add pos 1
        return (.idle, .matched only start stop true)
      else
        return (.matching start spelled candidates, .pending)
  | _ => return (.matching start spelled candidates, .pending)

/-- The match ends before `stop`, where `next` is the character that ended it. -/
def resolve (start : Nat) (spelled : List Char) (next : Option Char) (stop : Nat) : Step :=
  match Symbol.find? spelled with
  | some symbol =>
      if symbol.isKeyword && next.any isWordChar then .unknown spelled start false
      else .matched symbol start stop false
  | none => .unknown spelled start false

/-- Feed the character at `pos`; `prev` is the one before it on the line. -/
def feed (matcher : Matcher) (c : Char) (prev : Option Char) (pos : Nat) :
    Except Halt (Matcher × Step) :=
  match matcher with
  | idle =>
      match openings c prev with
      | [] => return (.idle, .unknown [c] pos true)
      | candidates => extend pos [c] candidates pos
  | matching start spelled candidates =>
      match narrow candidates spelled.length c with
      | [] => return (.idle, resolve start spelled (some c) pos)
      | narrowed => extend start (spelled ++ [c]) narrowed pos

/-- End a match at the end of a line; `pos` is the length of the line. -/
def finish (matcher : Matcher) (pos : Nat) : Option Step :=
  match matcher with
  | idle => none
  | matching start spelled _ => some (resolve start spelled none pos)

/-- One use of a matcher. -/
inductive Call
  | feed (c : Char) (prev : Option Char) (pos : Nat)
  | finish (pos : Nat)
  deriving Repr, DecidableEq

/-- Make one call; after `finish` the matcher is idle. -/
def perform (matcher : Matcher) : Call → Except Halt (Matcher × Option Step)
  | .feed c prev pos => do
      let (after, step) ← matcher.feed c prev pos
      return (after, some step)
  | .finish pos => return (.idle, matcher.finish pos)

/-- Make calls in order; lists each step with the matcher after it. -/
def replay (matcher : Matcher) : List Call → Except Halt (List (Matcher × Option Step))
  | [] => return []
  | call :: calls => do
      let (after, step) ← matcher.perform call
      let others ← after.replay calls
      return (after, step) :: others

/-- Feed one character until it is consumed: at most twice, since an idle matcher consumes it. -/
def feedThrough (matcher : Matcher) (c : Char) (prev : Option Char) (pos : Nat) :
    Except Halt (List (Matcher × Step) × Matcher) := do
  let (after, step) ← matcher.feed c prev pos
  if step.consumed then
    return ([(after, step)], after)
  else
    let (last, again) ← after.feed c prev pos
    return ([(after, step), (last, again)], last)

/--
Feed a whole text from a position on.  Lists each step with the matcher after it, and gives the
matcher and the position at the end.
-/
def drive (matcher : Matcher) (prev : Option Char) (pos : Nat) :
    List Char → Except Halt (List (Matcher × Step) × Matcher × Nat)
  | [] => return ([], matcher, pos)
  | c :: rest => do
      let (steps, after) ← matcher.feedThrough c prev pos
      let pos ← Offset.add pos 1
      let (others, last, stop) ← after.drive (some c) pos rest
      return (steps ++ others, last, stop)

/-- A text read by an idle matcher: each step with the matcher after it, and the last step. -/
structure Run where
  steps : List (Matcher × Step)
  finish : Option Step
  deriving Repr, DecidableEq

/-- Read a text whose first character is at `pos` and comes after `prev`. -/
def run (text : String) (prev : Option Char) (pos : Nat) : Except Halt Run := do
  let (steps, last, stop) ← idle.drive prev pos text.toList
  return ⟨steps, last.finish stop⟩

end Matcher

end Brace
