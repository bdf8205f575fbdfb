import Brace.Kind
import Brace.Unicode.Alphanumeric

namespace Brace

/-!
# Symbols

The fixed spellings of the language and what each of them means to the scan of a line.
-/

/-- Whether a character can stand in a name, and so keeps a keyword from beginning or ending. -/
def isWordChar (c : Char) : Bool :=
  Unicode.isAlphanumeric c || c = '_'

/-- Opens and closes an interpolation inside a string. -/
def interpolationMark : Char :=
  '\x60'

/-- What a recognised spelling means. -/
inductive Meaning
  /-- It is a token of this kind. -/
  | token (kind : Kind)
  /-- It opens a string that the same character closes. -/
  | quote (delimiter : Char)
  /-- It is the interpolation mark, which has a place only inside a string. -/
  | interpolation
  /-- It is a mark made harmless by a backslash, and counts as plain word text. -/
  | escaped
  deriving Repr, DecidableEq

/-- A spelling with its meaning. -/
structure Symbol where
  spelling : List Char
  meaning : Meaning
  deriving Repr, DecidableEq

namespace Symbol

/-- Every spelling of the language. -/
def table : List Symbol :=
  [⟨['{'], .token .openBlock⟩,
    ⟨['?', '{'], .token .openBlockLazy⟩,
    ⟨['?', '?', '{'], .token .openBlockFunc⟩,
    ⟨['}'], .token .closeBlock⟩,
    ⟨['}', '&'], .token .closeBlockAsync⟩,
    ⟨['['], .token .openSubscript⟩,
    ⟨[']'], .token .closeSubscript⟩,
    ⟨['('], .token .openParen⟩,
    ⟨[')'], .token .closeParen⟩,
    ⟨['"'], .quote '"'⟩,
    ⟨['\''], .quote '\''⟩,
    ⟨[':'], .token .keyValSeparator⟩,
    ⟨[':', '='], .token .createVar⟩,
    ⟨['='], .token .setVar⟩,
    ⟨['=', '='], .token .equals⟩,
    ⟨['!'], .token .reverse⟩,
    ⟨['!', '='], .token .notEquals⟩,
    ⟨['?'], .token .questionMark⟩,
    ⟨['i', 'f'], .token .ifKeyword⟩,
    ⟨['t', 'r', 'y'], .token .tryKeyword⟩,
    ⟨[interpolationMark], .interpolation⟩,
    ⟨['\\', '\''], .escaped⟩,
    ⟨['\\', '"'], .escaped⟩,
    ⟨['\\', interpolationMark], .escaped⟩]

/--
Whether a symbol is a keyword: it begins with a word character, and is recognised only where no
word character stands directly before or after it.
-/
def isKeyword (symbol : Symbol) : Bool :=
  symbol.spelling.head?.any isWordChar

/-- The symbol with exactly this spelling. -/
def find? (spelling : List Char) : Option Symbol :=
  table.find? fun symbol => symbol.spelling == spelling

/-- The symbols whose spelling begins with a character, in the order of the table. -/
def startingWith (c : Char) : List Symbol :=
  table.filter fun symbol => symbol.spelling.head? == some c

end Symbol

end Brace
