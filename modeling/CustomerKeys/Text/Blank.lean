/-!
# Blank characters

The characters with the Unicode property White_Space, and trimming by them. The set is wider than
ASCII white space: it holds the no-break space, the ideographic space and the line and paragraph
separators, and it leaves out the zero-width space, which is a format character.
-/

namespace CustomerKeys.Text

/-- The character has the property White_Space, which holds of 25 characters: the blanks of ASCII
and those that Unicode has besides. -/
def isBlank (c : Char) : Bool :=
  let point := c.toNat
  (0x9 ≤ point && point ≤ 0xd) || point == 0x20 || point == 0x85 || point == 0xa0 ||
    point == 0x1680 || (0x2000 ≤ point && point ≤ 0x200a) || point == 0x2028 ||
    point == 0x2029 || point == 0x202f || point == 0x205f || point == 0x3000

/-- A text without the blanks at its two ends. Those inside it stay, and a text of blanks alone
becomes the empty one. -/
def trimmed (text : List Char) : List Char :=
  ((text.dropWhile isBlank).reverse.dropWhile isBlank).reverse

end CustomerKeys.Text
