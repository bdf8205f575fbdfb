import Brace.Text.Grapheme

namespace Brace.Text.Erasure

/-!
# Erasure

A backspace in a typed line erases the grapheme before it, if there is one, and is no part of the
line itself.  How many bytes to erase is held in a single byte: of a grapheme of 256 bytes or more
only the bytes beyond the last multiple of 256 are erased, and the line is refused if they would
part a character.  A line without backspaces is kept as it is.
-/

/-- The character that erases. -/
def backspace : Char :=
  '\x08'

/-- What is left of a line. -/
structure Remainder where
  /-- The characters, the last first. -/
  text : List Char
  /-- How many bytes to erase for each grapheme, the last first. -/
  sizes : List Nat
  deriving Repr, DecidableEq

/-- The size of a text in bytes. -/
def bytes (text : List Char) : Nat :=
  (String.ofList text).utf8ByteSize

/-- A text without its first bytes, if they are whole characters. -/
def dropBytes : List Char → Nat → Option (List Char)
  | text, 0 => some text
  | [], _ + 1 => none
  | c :: rest, size => if c.utf8Size ≤ size then dropBytes rest (size - c.utf8Size) else none

namespace Remainder

/-- Type one more grapheme, or a backspace. -/
def type (remainder : Remainder) (grapheme : List Char) : Option Remainder :=
  if grapheme = [backspace] then
    match remainder.sizes with
    | [] => some remainder
    | size :: sizes => (dropBytes remainder.text size).map fun text => ⟨text, sizes⟩
  else
    some ⟨grapheme.reverse ++ remainder.text, bytes grapheme % 256 :: remainder.sizes⟩

end Remainder

/-- The line that is left when its backspaces have erased. -/
def settle (line : String) : Option String := do
  let remainder ← (Grapheme.split line.toList).foldlM Remainder.type ⟨[], []⟩
  return String.ofList remainder.text.reverse

/-- Graphemes other than backspaces are added to what is left. -/
theorem text_of_foldlM_type
    (graphemes : List (List Char))
    (remainder : Remainder)
    (unerased : ∀ grapheme ∈ graphemes, grapheme ≠ [backspace]) :
    ∃ sizes,
      graphemes.foldlM Remainder.type remainder =
        some ⟨graphemes.flatten.reverse ++ remainder.text, sizes⟩ := by
  induction graphemes generalizing remainder with
  | nil => exact ⟨remainder.sizes, rfl⟩
  | cons grapheme graphemes inductionHypothesis =>
      have typed :
          remainder.type grapheme =
            some ⟨grapheme.reverse ++ remainder.text, bytes grapheme % 256 :: remainder.sizes⟩ :=
        if_neg (unerased grapheme List.mem_cons_self)
      obtain ⟨sizes, folded⟩ :=
        inductionHypothesis
          ⟨grapheme.reverse ++ remainder.text, bytes grapheme % 256 :: remainder.sizes⟩
          fun other member => unerased other (List.mem_cons_of_mem _ member)
      refine ⟨sizes, ?_⟩
      rw [List.foldlM_cons, typed]
      exact folded.trans (by simp)

/-- A line without backspaces is kept as it is. -/
theorem settle_eq_self {line : String} (unerased : backspace ∉ line.toList) :
    settle line = some line := by
  obtain ⟨sizes, folded⟩ :=
    text_of_foldlM_type (Grapheme.split line.toList) ⟨[], []⟩ <| by
      rintro grapheme member rfl
      apply unerased
      rw [← Grapheme.flatten_split line.toList]
      exact List.mem_flatten.mpr ⟨_, member, List.mem_cons_self⟩
  unfold settle
  rw [folded, Grapheme.flatten_split]
  simp

end Brace.Text.Erasure
