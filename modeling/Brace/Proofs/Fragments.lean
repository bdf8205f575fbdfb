import Brace.Proofs.Symbols
import Brace.Proofs.Tokens

namespace Brace

/-!
# Fragments of a line

A line that can be tokenized falls into whitespace, spellings of tokens, words and strings, and
a string into characters, escapes and interpolations.  `Fragment` and `Part` are these pieces
without their places.  Each of them knows the characters it was written with and, once it is told
where it begins, the tokens that it gives.
-/

namespace Literal

/-- A backslash in a string takes a backslash, a mark, `n` or `t` with it, and nothing else. -/
theorem isSome_decodeEscape
    (c : Char) :
    (decodeEscape c).isSome = (c = '\\' || c = 'n' || c = 't' || isMark c) := by
  unfold decodeEscape isMark isQuote
  repeat' split
  all_goals simp_all

theorem decodeEscape_of_isMark
    {c : Char}
    (mark : isMark c = true) :
    decodeEscape c = some c := by
  simp only [isMark, isQuote, Bool.or_eq_true, decide_eq_true_eq] at mark
  rcases mark with (rfl | rfl) | rfl <;> decide

theorem decodeEscape_of_isSpace
    {c : Char}
    (space : Unicode.isSpace c = true) :
    decodeEscape c = none := by
  have noMark := isMark_of_isSpace space
  have others : c ≠ '\\' ∧ c ≠ 'n' ∧ c ≠ 't' := by
    refine ⟨?_, ?_, ?_⟩ <;> rintro rfl <;> exact absurd space (by decide)
  rw [← Option.isNone_iff_eq_none, ← Option.not_isSome, isSome_decodeEscape]
  simp [others, noMark]

end Literal

/-- A piece of a string between its delimiters. -/
inductive Part
  /-- A character that stands for itself. -/
  | verbatim (c : Char)
  /-- A backslash with the character that it takes with it, and what the two stand for. -/
  | escape (c decoded : Char)
  /-- A backslash that is dropped. -/
  | stray
  /-- The text of an interpolation, with its tokens as counted from the start of that text. -/
  | segment (raw : List Char) (tokens : List Token)
  deriving Repr, DecidableEq

namespace Part

/-- The characters that a part was written with. -/
def written : Part → List Char
  | verbatim c => [c]
  | escape c _ => ['\\', c]
  | stray => ['\\']
  | segment raw _ => interpolationMark :: raw ++ [interpolationMark]

/-- What a part adds to the body of its string. -/
def decoded : Part → List Char
  | verbatim c => [c]
  | escape _ decoded => [decoded]
  | stray => []
  | segment _ _ => []

/-- The tokens of a part that begins at an offset. -/
def tokens (offset : Nat) : Part → List Token
  | segment _ tokens => tokens.map (Token.moved (offset + 1))
  | _ => []

/-- How many characters parts were written with. -/
def extent (parts : List Part) : Nat :=
  (parts.flatMap written).length

/-- The body of a string with some parts. -/
def body (parts : List Part) : String :=
  String.ofList (parts.flatMap decoded)

/-- The tokens of parts, the first of which begins at an offset. -/
def layout (offset : Nat) (parts : List Part) : List Token :=
  spread written tokens offset parts

/-- A part that begins later has the same tokens further to the right. -/
theorem tokens_moved
    (offset distance : Nat)
    (part : Part) :
    part.tokens (offset + distance) = (part.tokens offset).map (Token.moved distance) := by
  cases part with
  | segment raw tokens =>
      simp only [Part.tokens, List.map_map]
      refine List.map_congr_left ?_
      intro token _
      rw [Function.comp_apply, Token.moved_moved, Nat.add_right_comm]
  | _ => rfl

@[simp] theorem extent_nil : extent [] = 0 := rfl

@[simp] theorem extent_append
    (before after : List Part) :
    extent (before ++ after) = extent before + extent after := by
  simp [extent]

@[simp] theorem extent_singleton
    (part : Part) :
    extent [part] = part.written.length := by
  simp [extent]

theorem length_written_le
    {part : Part}
    {parts : List Part}
    (member : part ∈ parts) :
    part.written.length ≤ extent parts :=
  (List.sublist_flatten_of_mem (List.mem_map_of_mem member)).length_le

@[simp] theorem layout_nil
    (offset : Nat) :
    layout offset [] = [] := rfl

theorem layout_append
    {offset : Nat}
    {before after : List Part} :
    layout offset (before ++ after) =
      layout offset before ++ layout (offset + extent before) after :=
  spread_append

@[simp] theorem layout_singleton
    (offset : Nat)
    (part : Part) :
    layout offset [part] = part.tokens offset := by
  simp [layout, spread]

/-- The tokens of parts are those of the texts of interpolations, moved to their places. -/
theorem exists_segment_of_mem_layout
    {offset : Nat}
    {parts : List Part}
    {token : Token}
    (member : token ∈ layout offset parts) :
    ∃ raw tokens found distance,
      .segment raw tokens ∈ parts ∧ found ∈ tokens ∧ token = found.moved distance := by
  obtain ⟨before, part, after, rfl, inPart⟩ := mem_spread.mp member
  cases part with
  | segment raw tokens =>
      obtain ⟨found, inside, rfl⟩ := List.mem_map.mp inPart
      exact ⟨raw, tokens, found, _, by simp, inside, rfl⟩
  | _ => cases inPart

end Part

/-- A piece of a line. -/
inductive Fragment
  /-- A whitespace character. -/
  | blank (c : Char)
  /-- The spelling of a token. -/
  | symbol (spelling : List Char) (kind : Kind)
  | word (text : List Char)
  | string (delimiter : Char) (parts : List Part)
  deriving Repr, DecidableEq

namespace Fragment

/-- The characters that a fragment was written with. -/
def written : Fragment → List Char
  | blank c => [c]
  | symbol spelling _ => spelling
  | word text => text
  | string delimiter parts => delimiter :: parts.flatMap Part.written ++ [delimiter]

/-- How many characters fragments were written with. -/
def extent (fragments : List Fragment) : Nat :=
  (fragments.flatMap written).length

/-- Whether a fragment is a word. -/
def isWord : Fragment → Bool
  | word _ => true
  | _ => false

/-- The token that a fragment gives for itself when it begins at an offset. -/
def head (offset : Nat) : Fragment → Option Token
  | blank _ => none
  | symbol spelling kind => some ⟨kind, ⟨offset, offset + spelling.length⟩, none⟩
  | word text => some ⟨.word, ⟨offset, offset + text.length⟩, some (String.ofList text)⟩
  | string _ parts =>
      some
        ⟨.string,
          ⟨offset, offset + (Part.extent parts + 2)⟩,
          some (Part.body parts)⟩

/-- The tokens inside a fragment that begins at an offset. -/
def nested (offset : Nat) : Fragment → List Token
  | string _ parts => Part.layout (offset + 1) parts
  | _ => []

/-- The tokens of a fragment that begins at an offset. -/
def tokens (offset : Nat) (fragment : Fragment) : List Token :=
  (fragment.head offset).toList ++ fragment.nested offset

/-- The tokens of fragments, the first of which begins at an offset. -/
def layout (offset : Nat) (fragments : List Fragment) : List Token :=
  spread written tokens offset fragments

/-- A fragment that begins later has the same tokens further to the right. -/
theorem tokens_moved
    (offset distance : Nat)
    (fragment : Fragment) :
    fragment.tokens (offset + distance) = (fragment.tokens offset).map (Token.moved distance) := by
  cases fragment with
  | blank c => rfl
  | symbol spelling kind =>
      simp [tokens, head, nested, Token.moved, Nat.add_right_comm]
  | word text =>
      simp [tokens, head, nested, Token.moved, Nat.add_right_comm]
  | string delimiter parts =>
      have parts_moved :
          Part.layout (offset + distance + 1) parts =
            (Part.layout (offset + 1) parts).map (Token.moved distance) := by
        rw [Nat.add_right_comm]
        exact spread_moved (fun offset part => part.tokens_moved offset distance)
      simp [tokens, head, nested, parts_moved, Token.moved, Nat.add_right_comm]

/-- Fragments that begin later have the same tokens further to the right. -/
theorem layout_moved
    {offset distance : Nat}
    {fragments : List Fragment} :
    layout (offset + distance) fragments =
      (layout offset fragments).map (Token.moved distance) :=
  spread_moved fun offset fragment => fragment.tokens_moved offset distance

theorem layout_append
    {offset : Nat}
    {before after : List Fragment} :
    layout offset (before ++ after) =
      layout offset before ++ layout (offset + extent before) after :=
  spread_append

@[simp] theorem layout_nil
    (offset : Nat) :
    layout offset [] = [] := rfl

@[simp] theorem layout_singleton
    (offset : Nat)
    (fragment : Fragment) :
    layout offset [fragment] = fragment.tokens offset := by
  simp [layout, spread]

@[simp] theorem extent_nil : extent [] = 0 := rfl

@[simp] theorem extent_append
    (before after : List Fragment) :
    extent (before ++ after) = extent before + extent after := by
  simp [extent]

@[simp] theorem extent_singleton
    (fragment : Fragment) :
    extent [fragment] = fragment.written.length := by
  simp [extent]

theorem length_written_le
    {fragment : Fragment}
    {fragments : List Fragment}
    (member : fragment ∈ fragments) :
    fragment.written.length ≤ extent fragments :=
  (List.sublist_flatten_of_mem (List.mem_map_of_mem member)).length_le

/-- The word that some text gives, or nothing for no text. -/
def wordOf (text : List Char) : List Fragment :=
  if text = [] then [] else [word text]

@[simp] theorem wordOf_nil : wordOf [] = [] := rfl

@[simp] theorem written_wordOf
    (text : List Char) :
    (wordOf text).flatMap written = text := by
  unfold wordOf
  split
  · rename_i empty
    simp [empty]
  · simp [written]

@[simp] theorem extent_wordOf
    (text : List Char) :
    extent (wordOf text) = text.length := by
  simp only [extent, written_wordOf]

end Fragment

end Brace
