import Brace.Halt

namespace Brace

/-!
# Readers

A reader goes through a line one character at a time.  It knows what is left, how many characters
it has passed, and which of them was the last.
-/

/-- A place in a line. -/
structure Reader where
  rest : List Char
  pos : Nat
  prev : Option Char
  deriving Repr, DecidableEq

namespace Reader

/-- The reader at the start of a line. -/
def ofText (text : String) : Reader :=
  ⟨text.toList, 0, none⟩

/-- The character to come. -/
def peek (reader : Reader) : Option Char :=
  reader.rest.head?

/-- Whether nothing is left. -/
def atEnd (reader : Reader) : Bool :=
  reader.rest.isEmpty

/-- Pass the character to come; at the end of the line nothing changes. -/
def advance (reader : Reader) : Except Halt (Option Char × Reader) :=
  match reader.rest with
  | [] => .ok (none, reader)
  | c :: rest => do
      let pos ← Offset.add reader.pos 1
      return (some c, ⟨rest, pos, some c⟩)

/-- A reader that has passed a character stands after it. -/
theorem rest_of_advance
    {reader after : Reader}
    {c : Char}
    (passed : reader.advance = .ok (some c, after)) :
    reader.rest = c :: after.rest := by
  unfold advance at passed
  split at passed
  · cases passed
  · rename_i first rest shape
    obtain ⟨pos, _, same⟩ := Halt.bind_eq_ok.mp passed
    cases same
    exact shape

/-- A reader that has passed a character has less left. -/
theorem length_rest_advance
    {reader after : Reader}
    {c : Char}
    (passed : reader.advance = .ok (some c, after)) :
    after.rest.length < reader.rest.length := by
  rw [rest_of_advance passed]
  exact Nat.lt_succ_self after.rest.length

/-- At the end of the line a reader stays where it is. -/
theorem eq_of_advance
    {reader after : Reader}
    (stayed : reader.advance = .ok (none, after)) :
    after = reader := by
  unfold advance at stayed
  split at stayed
  · cases stayed
    rfl
  · obtain ⟨_, _, impossible⟩ := Halt.bind_eq_ok.mp stayed
    cases impossible

/-- Advancing never leaves more than there was. -/
theorem length_rest_advance_le
    {reader after : Reader}
    {next : Option Char}
    (passed : reader.advance = .ok (next, after)) :
    after.rest.length ≤ reader.rest.length := by
  cases next with
  | some c => exact Nat.le_of_lt (length_rest_advance passed)
  | none =>
      obtain rfl := eq_of_advance passed
      exact Nat.le_refl _

/-- One reader stands further on in the line of another. -/
structure Leads (reader after : Reader) : Prop where
  suffix : after.rest <:+ reader.rest
  /-- Both count the characters of the line in the same way. -/
  total : after.pos + after.rest.length = reader.pos + reader.rest.length
  fits : reader.pos < Offset.limit → after.pos < Offset.limit

theorem Leads.refl
    (reader : Reader) :
    reader.Leads reader where
  suffix := List.suffix_refl _
  total := rfl
  fits := id

theorem Leads.trans
    {first second third : Reader}
    (leads : first.Leads second)
    (leadsOn : second.Leads third) :
    first.Leads third where
  suffix := leadsOn.suffix.trans leads.suffix
  total := leadsOn.total.trans leads.total
  fits before := leadsOn.fits (leads.fits before)

theorem leads_of_advance
    {reader after : Reader}
    {next : Option Char}
    (passed : reader.advance = .ok (next, after)) :
    reader.Leads after := by
  unfold advance at passed
  split at passed
  · cases passed
    exact .refl reader
  · rename_i c rest shape
    obtain ⟨pos, counted, same⟩ := Halt.bind_eq_ok.mp passed
    cases same
    obtain ⟨bound, rfl⟩ := Offset.add_eq_ok.mp counted
    refine ⟨?_, ?_, fun _ => bound⟩
    · rw [shape]
      exact List.suffix_cons c rest
    · rw [shape, List.length_cons]
      exact Nat.add_right_comm reader.pos 1 rest.length

/-- Pass some characters, or all that are left if there are fewer. -/
def skip (reader : Reader) : Nat → Except Halt Reader
  | 0 => .ok reader
  | count + 1 => do
      let (_, reader) ← reader.advance
      reader.skip count

end Reader

end Brace
