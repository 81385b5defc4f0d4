/-
Module: Parley.Text.Blank
Layer: Text
Purpose: White space in the sense of the Unicode property White_Space, and what is left of a text
  when it is removed from the ends.
Main exports: Text.isSpace, Text.trim, Text.isBlank
-/

namespace Parley.Text

/-- The characters with the property White_Space. -/
def isSpace (c : Char) : Bool :=
  let code := c.toNat
  (0x09 ≤ code && code ≤ 0x0D) || code == 0x20 || code == 0x85 || code == 0xA0 ||
    code == 0x1680 || (0x2000 ≤ code && code ≤ 0x200A) || code == 0x2028 || code == 0x2029 ||
    code == 0x202F || code == 0x205F || code == 0x3000

/-- A list of characters without the white space at its end. -/
def trimEnd (text : List Char) : List Char :=
  (text.reverse.dropWhile isSpace).reverse

/-- A list of characters without the white space at its ends. -/
def trimChars (text : List Char) : List Char :=
  trimEnd (text.dropWhile isSpace)

/-- A text without the white space at its ends. -/
def trim (text : String) : String :=
  String.ofList (trimChars text.toList)

/-- A text with nothing in it but white space. -/
def isBlank (text : String) : Bool :=
  text.toList.all isSpace

end Parley.Text
