namespace Brace

/-!
# Kinds of tokens

Quote characters and the interpolation mark have no kind: they are consumed while a string is read.
-/

/-- What a token is. -/
inductive Kind
  /-- An opening brace. -/
  | openBlock
  /-- An opening brace after one question mark: a block evaluated lazily. -/
  | openBlockLazy
  /-- An opening brace after two question marks: a block used as a function body. -/
  | openBlockFunc
  /-- A closing brace. -/
  | closeBlock
  /-- A closing brace with an ampersand: the block runs asynchronously. -/
  | closeBlockAsync
  | openSubscript
  | closeSubscript
  | openParen
  | closeParen
  /-- A colon. -/
  | keyValSeparator
  /-- A colon with an equals sign. -/
  | createVar
  /-- One equals sign. -/
  | setVar
  /-- Two equals signs. -/
  | equals
  /-- An exclamation mark. -/
  | reverse
  /-- An exclamation mark with an equals sign. -/
  | notEquals
  | questionMark
  /-- The keyword `if`. -/
  | ifKeyword
  /-- The keyword `try`. -/
  | tryKeyword
  /-- A quoted string; its content is the decoded body. -/
  | string
  /-- A run of characters that spell nothing else; its content is the run. -/
  | word
  deriving Repr, DecidableEq

namespace Kind

/-- Every kind. -/
def all : List Kind :=
  [.openBlock, .openBlockLazy, .openBlockFunc, .closeBlock, .closeBlockAsync, .openSubscript,
    .closeSubscript, .openParen, .closeParen, .keyValSeparator, .createVar, .setVar, .equals,
    .reverse, .notEquals, .questionMark, .ifKeyword, .tryKeyword, .string, .word]

/-- The name under which a kind is printed. -/
def name : Kind → String
  | openBlock => "OpenBlock"
  | openBlockLazy => "OpenBlockLazy"
  | openBlockFunc => "OpenBlockFunc"
  | closeBlock => "CloseBlock"
  | closeBlockAsync => "CloseBlockAsync"
  | openSubscript => "OpenSubscript"
  | closeSubscript => "CloseSubscript"
  | openParen => "OpenParen"
  | closeParen => "CloseParen"
  | keyValSeparator => "KeyValSeparator"
  | createVar => "CreateVar"
  | setVar => "SetVar"
  | equals => "Equals"
  | reverse => "Reverse"
  | notEquals => "NotEquals"
  | questionMark => "QuestionMark"
  | ifKeyword => "If"
  | tryKeyword => "Try"
  | string => "String"
  | word => "Word"

/-- The kind with a given name. -/
def ofName? (name : String) : Option Kind :=
  all.find? fun kind => kind.name == name

/-- Whether tokens of this kind carry content. -/
def hasContent : Kind → Bool
  | string => true
  | word => true
  | _ => false

end Kind

end Brace
