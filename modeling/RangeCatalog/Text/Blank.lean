/-! # Blank characters

The characters with the property White_Space, and the removal of blanks at both ends of a text.
-/

namespace RangeCatalog

/-- A blank is a character with the property White_Space. -/
def isBlank (c : Char) : Bool :=
  let code := c.toNat
  (9 ≤ code && code ≤ 13) || code = 0x20 || code = 0x85 || code = 0xa0 || code = 0x1680 ||
    (0x2000 ≤ code && code ≤ 0x200a) || code = 0x2028 || code = 0x2029 || code = 0x202f ||
    code = 0x205f || code = 0x3000

/-- The characters between the first and the last that is not blank. -/
def trimChars (chars : List Char) : List Char :=
  ((chars.dropWhile isBlank).reverse.dropWhile isBlank).reverse

def trim (text : String) : String :=
  String.ofList (trimChars text.toList)

/-- A text is blank when nothing remains after trimming. -/
def isBlankText (text : String) : Bool :=
  text.toList.all isBlank

end RangeCatalog
