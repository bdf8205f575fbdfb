import Brace.Unicode.Combining
import Brace.Unicode.Printable

namespace Brace.Text.Quoted

/-!
# Quoted text

The one-line form in which texts and single characters are shown to people: between quotes,
with an escape for the quote in use, the backslash, and every character that has no visible form
of its own or would merge with the one before it.
-/

/-- The escape of a character by its code point, in hexadecimal without padding. -/
def codePoint (c : Char) : List Char :=
  ['\\', 'u', '{'] ++ Nat.toDigits 16 c.toNat ++ ['}']

/-- Whether a character is shown by its code point only. -/
def isHidden (c : Char) : Bool :=
  Unicode.isOverlaid c || !Unicode.isPrintable c

/--
How a character is written between quotes of the given kind, where some characters are hidden.
-/
def escapeHiding (hidden : Char → Bool) (quote c : Char) : List Char :=
  if c = '\x00' then ['\\', '0']
  else if c = '\t' then ['\\', 't']
  else if c = '\r' then ['\\', 'r']
  else if c = '\n' then ['\\', 'n']
  else if c = '\\' then ['\\', '\\']
  else if c = quote then ['\\', quote]
  else if hidden c then codePoint c
  else [c]

/-- How a character is written between quotes of the given kind. -/
def escape (quote c : Char) : List Char :=
  escapeHiding isHidden quote c

/-- A text between double quotes, where some characters are hidden. -/
def textHiding (hidden : Char → Bool) (s : String) : String :=
  String.ofList ('"' :: s.toList.flatMap (escapeHiding hidden '"') ++ ['"'])

/-- A text between double quotes. -/
def text (s : String) : String :=
  textHiding isHidden s

/-- A character between single quotes. -/
def char (c : Char) : String :=
  String.ofList ('\'' :: escape '\'' c ++ ['\''])

/-- A list of characters, each quoted, between square brackets. -/
def chars (cs : List Char) : String :=
  "[" ++ ", ".intercalate (cs.map char) ++ "]"

end Brace.Text.Quoted
