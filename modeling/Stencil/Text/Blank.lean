/-! # Blank characters — what separates words and is trimmed from the ends of a text

    Blank are the spaces and line ends of every script, the tabulators and the
    four separators of the control set.  Zero-width characters are not blank. -/

namespace Stencil.Text

/-- Whether a character is a space, a line end or a separator. -/
def isBlank (c : Char) : Bool :=
  let code := c.toNat
  (9 ≤ code && code ≤ 13) || (28 ≤ code && code ≤ 32) || code == 0x85 || code == 0xa0 ||
    code == 0x1680 || (0x2000 ≤ code && code ≤ 0x200a) || code == 0x2028 || code == 0x2029 ||
    code == 0x202f || code == 0x205f || code == 0x3000

/-- The text without the blanks at its start. -/
def stripStart (text : List Char) : List Char :=
  text.dropWhile isBlank

/-- The text without the blanks at its end. -/
def stripEnd (text : List Char) : List Char :=
  (text.reverse.dropWhile isBlank).reverse

/-- The text without the blanks at its start and end. -/
def strip (text : List Char) : List Char :=
  stripEnd (stripStart text)

/-- Whether a text holds nothing but blanks. -/
def allBlank (text : List Char) : Bool :=
  text.all isBlank

/-- A text without the blanks at its ends, as a string. -/
def stripped (text : String) : String :=
  String.ofList (strip text.toList)

end Stencil.Text
