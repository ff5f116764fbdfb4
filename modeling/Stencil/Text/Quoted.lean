import Stencil.Text.Printable

/-! # Quotations — a text shown unambiguously on one line

    A quotation stands in single quotes, or in double quotes when the text holds
    single ones only.  The enclosing quote and the backslash are written behind
    a backslash, line ends and tabulators by a letter, and every other
    unprintable character by its number. -/

namespace Stencil.Text

/-- The digits of a number to the base sixteen, at least `width` of them. -/
def hexDigits (width number : Nat) : List Char :=
  let digits := Nat.toDigits 16 number
  List.replicate (width - digits.length) '0' ++ digits

/-- A character inside a quotation. -/
def quotedChar (quote c : Char) : List Char :=
  if c == quote || c == '\\' then ['\\', c]
  else if c == '\n' then ['\\', 'n']
  else if c == '\r' then ['\\', 'r']
  else if c == '\t' then ['\\', 't']
  else if isPrintable c then [c]
  else if c.toNat < 0x100 then '\\' :: 'x' :: hexDigits 2 c.toNat
  else if c.toNat < 0x10000 then '\\' :: 'u' :: hexDigits 4 c.toNat
  else '\\' :: 'U' :: hexDigits 8 c.toNat

/-- The quote that encloses a text. -/
def quoteFor (text : List Char) : Char :=
  if text.contains '\'' && !text.contains '"' then '"' else '\''

/-- The quotation of a text. -/
def quote (text : List Char) : List Char :=
  let q := quoteFor text
  q :: (text.flatMap (quotedChar q) ++ [q])

/-- The quotation of a string. -/
def quoted (text : String) : String :=
  String.ofList (quote text.toList)

end Stencil.Text
