/-! # Digits — the naturals that digits write

    A digit has a value below its base, and a row of digits is read from the
    left.  Integers of more than `most` decimal digits are neither read nor
    written. -/

namespace Stencil.Digits

/-- The greatest number of decimal digits of an integer that is read or written. -/
def most : Nat := 4300

/-- The least natural that has too many digits to be written. -/
def tooLarge : Nat :=
  Nat.pow 10 most

/-- The natural that decimal digits write. -/
def decimal (digits : List Char) : Nat :=
  digits.foldl (fun n c => n * 10 + (c.toNat - 48)) 0

/-- The value of a hexadecimal digit. -/
def hexValue? (c : Char) : Option Nat :=
  if '0' ≤ c && c ≤ '9' then some (c.toNat - 48)
  else if 'a' ≤ c && c ≤ 'f' then some (c.toNat - 87)
  else if 'A' ≤ c && c ≤ 'F' then some (c.toNat - 55)
  else none

/-- Whether a character is a digit to a base of at most sixteen. -/
def isDigitTo (base : Nat) (c : Char) : Bool :=
  (hexValue? c).any (· < base)

/-- The natural that digits write to a base of at most sixteen. -/
def number? (base : Nat) (digits : List Char) : Option Nat :=
  if digits.all (isDigitTo base) then
    some (digits.foldl (fun n c => n * base + (hexValue? c).getD 0) 0)
  else none

end Stencil.Digits
