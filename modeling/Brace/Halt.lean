import Brace.Fault

namespace Brace

/-!
# Halts and checked offsets

Positions are counted in 32 bits.  Sums are checked, and a result that does not fit halts the work
instead of wrapping around.  A halt is either a fault of the text or a breach of one of the rules
that the program itself must keep.
-/

/-- A rule of the program that did not hold. -/
inductive Breach
  /-- A sum does not fit in 32 bits. -/
  | sumTooLarge
  /-- A difference is below zero. -/
  | differenceNegative
  /-- A span would start after its end. -/
  | spanReversed (start stop : Nat)
  /-- Text is added to a word that does not end where the text starts. -/
  | wordGap (wordStop textStart : Nat)
  /-- Tokens do not come in the order of their starts. -/
  | startsOutOfOrder
  /-- An erasure would part a character. -/
  | characterParted
  deriving Repr, DecidableEq

/-- The sentence that explains a breach. -/
def Breach.message : Breach → String
  | sumTooLarge => "attempt to add with overflow"
  | differenceNegative => "attempt to subtract with overflow"
  | spanReversed start stop =>
      "span start (" ++ toString start ++ ") must be <= end (" ++ toString stop ++ ")"
  | wordGap wordStop textStart =>
      "word ends at " ++ toString wordStop ++ ", text starts at " ++ toString textStart
  | startsOutOfOrder => "token starts are out of order"
  | characterParted => "assertion failed: self.is_char_boundary(new_len)"

/-- Why the work on a text ended without a result. -/
inductive Halt
  /-- The text is at fault. -/
  | fault (fault : Fault)
  /-- The program broke a rule of its own. -/
  | breach (breach : Breach)
  deriving Repr, DecidableEq

namespace Offset

/-- The first number that is no offset, two to the power of 32. -/
def limit : Nat :=
  4294967296

/-- The sum of two offsets, if it is one. -/
def add (a b : Nat) : Except Halt Nat :=
  if a + b < limit then .ok (a + b) else .error (.breach .sumTooLarge)

theorem add_eq_ok
    {a b sum : Nat} :
    add a b = .ok sum ↔ a + b < limit ∧ sum = a + b := by
  unfold add
  split
  · rename_i fits
    simp [fits, eq_comm]
  · rename_i tooLarge
    simp [tooLarge]

/-- The difference of two offsets, if it is one. -/
def sub (a b : Nat) : Except Halt Nat :=
  if b ≤ a then .ok (a - b) else .error (.breach .differenceNegative)

end Offset

/-- The fault, moved right by some characters. -/
def Fault.shift (fault : Fault) (distance : Nat) : Except Halt Fault := do
  let offset ← Offset.add fault.offset distance
  return { fault with offset }

namespace Halt

/-- The halt in the coordinates of a text that holds this one after some characters. -/
def shift (halt : Halt) (distance : Nat) : Halt :=
  match halt with
  | breach rule => .breach rule
  | fault inner =>
      match inner.shift distance with
      | .ok moved => .fault moved
      | .error overflow => overflow

/-- A computation with a second part succeeds exactly when both parts do. -/
theorem bind_eq_ok
    {first : Except Halt α}
    {next : α → Except Halt β}
    {result : β} :
    (first >>= next) = .ok result ↔ ∃ middle, first = .ok middle ∧ next middle = .ok result := by
  cases first with
  | error halt => simp [bind, Except.bind]
  | ok middle => simp [bind, Except.bind]

/-- Second parts that agree on the result of the first part give the same computation. -/
theorem bind_congr
    {first : Except Halt α}
    {next other : α → Except Halt β}
    (agree : ∀ middle, first = .ok middle → next middle = other middle) :
    (first >>= next) = (first >>= other) := by
  cases first with
  | error halt => rfl
  | ok middle => exact agree middle rfl

theorem map_bind
    {first : Except Halt α}
    {next : α → Except Halt β}
    {f : β → γ} :
    (first >>= next).map f = first >>= fun middle => (next middle).map f := by
  cases first <;> rfl

theorem bind_map
    {first : Except Halt α}
    {f : α → β}
    {next : β → Except Halt γ} :
    (first.map f >>= next) = first >>= fun middle => next (f middle) := by
  cases first <;> rfl

/-- The halt, met on the line with this number. -/
def atLine (halt : Halt) (line : Nat) : Halt :=
  match halt with
  | fault inner => .fault (inner.atLine line)
  | breach rule => .breach rule

end Halt

end Brace
