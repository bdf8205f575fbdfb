namespace Brace.Unicode

/-!
# Whitespace

The characters with the `White_Space` property of Unicode.
-/

/-- Whether a character is whitespace. -/
def isSpace (c : Char) : Bool :=
  let point := c.toNat
  (0x09 ≤ point && point ≤ 0x0D)
    || point = 0x20
    || point = 0x85
    || point = 0xA0
    || point = 0x1680
    || (0x2000 ≤ point && point ≤ 0x200A)
    || point = 0x2028
    || point = 0x2029
    || point = 0x202F
    || point = 0x205F
    || point = 0x3000

/-- The text without its leading whitespace. -/
def trimLeft (text : List Char) : List Char :=
  text.dropWhile isSpace

/-- The text without its trailing whitespace. -/
def trimRight (text : List Char) : List Char :=
  (text.reverse.dropWhile isSpace).reverse

/-- The text without whitespace at either end. -/
def trim (text : List Char) : List Char :=
  trimRight (trimLeft text)

end Brace.Unicode
