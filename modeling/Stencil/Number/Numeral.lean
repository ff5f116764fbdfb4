import Stencil.Number.Digits
import Stencil.Number.Shortest
import Stencil.Text.Blank
import Stencil.Text.Word

/-! # Numerals — numbers written and read as text

    Integers are written in decimal.  Floating-point numbers are written with
    the fewest digits that read back, with a point and at least one place while
    the exponent lies in `-4 … 15`, else with an exponent of at least two
    digits.  A numeral may be read with blanks around it, a sign, digits of any
    script, and single underscores between digits. -/

namespace Stencil.Numeral

open Stencil.Text

/-- Which exponents are written with a point and no exponent. -/
def isPositional (exponent : Int) : Bool :=
  decide (-4 ≤ exponent) && decide (exponent < 16)

/-- The text of a positive decimal with its point. -/
def positional (digits : List Char) (point : Int) : List Char :=
  if point ≤ 0 then '0' :: '.' :: (List.replicate point.natAbs '0' ++ digits)
  else
    let count := point.toNat
    let whole := digits.take count ++ List.replicate (count - digits.length) '0'
    let places := digits.drop count
    whole ++ '.' :: (if places.isEmpty then ['0'] else places)

/-- The text of a positive decimal with an exponent. -/
def scientific (digits : List Char) (exponent : Int) : List Char :=
  let places := digits.drop 1
  let size := Decimal.digitsOf exponent.natAbs
  digits.take 1 ++ (if places.isEmpty then [] else '.' :: places) ++
    'e' :: (if exponent < 0 then '-' else '+') :: (List.replicate (2 - size.length) '0' ++ size)

/-- The text of a decimal. -/
def decimalText (d : Decimal) : List Char :=
  let digits := Decimal.digitsOf d.digits
  let point : Int := digits.length + d.power
  if d.digits == 0 then ['0', '.', '0']
  else if isPositional (point - 1) then positional digits point
  else scientific digits (point - 1)

/-- The text of a floating-point number. -/
def realText : Binary64 → String
  | .nan => "nan"
  | .infinite negative => if negative then "-inf" else "inf"
  | .finite negative mantissa exponent =>
    let text := decimalText (Decimal.shortest mantissa exponent)
    String.ofList (if negative then '-' :: text else text)

/-- The text of an integer. -/
def intText (i : Int) : String :=
  toString i

/-! ## Reading -/

/-- Blanks that may stand around a numeral. -/
def isNumeralBlank (c : Char) : Bool :=
  isBlank c && !(28 ≤ c.toNat && c.toNat ≤ 31)

/-- A numeral without the blanks around it. -/
def trim (text : List Char) : List Char :=
  ((text.dropWhile isNumeralBlank).reverse.dropWhile isNumeralBlank).reverse

/-- Whether a numeral is negative, and the rest of it. -/
def signAndRest : List Char → Bool × List Char
  | '-' :: cs => (true, cs)
  | '+' :: cs => (false, cs)
  | cs => (false, cs)

/-- The digits at the start of a text, single underscores between them left out, and the rest;
    `digits` is the value read so far and `count` the number of its digits. -/
def digitsAndRest (digits count : Nat) : List Char → Nat × Nat × List Char
  | [] => (digits, count, [])
  | c :: cs =>
    match digitValue? c with
    | some value => digitsAndRest (digits * 10 + value) (count + 1) cs
    | none =>
      match c, cs with
      | '_', d :: ds =>
        match digitValue? d with
        | some value =>
          if count == 0 then (digits, count, c :: cs)
          else digitsAndRest (digits * 10 + value) (count + 1) ds
        | none => (digits, count, c :: cs)
      | _, _ => (digits, count, c :: cs)

/-- The integer that a numeral is; one of too many digits is none. -/
def readInt? (text : List Char) : Option Int :=
  let (negative, body) := signAndRest (trim text)
  match digitsAndRest 0 0 body with
  | (_, 0, _) => none
  | (digits, count, []) =>
    if Digits.most < count then none else some (if negative then -(digits : Int) else digits)
  | _ => none

/-- The exponent behind the digits of a numeral; nothing is the exponent zero. -/
def exponent? : List Char → Option Int
  | [] => some 0
  | e :: cs =>
    if e == 'e' || e == 'E' then
      let (negative, body) := signAndRest cs
      match digitsAndRest 0 0 body with
      | (_, 0, _) => none
      | (digits, _, []) => some (if negative then -(digits : Int) else digits)
      | _ => none
    else none

/-- The number nearest to `digits · 10^power`, whatever the size of the power. -/
def nearest (negative : Bool) (digits : Nat) (power : Int) : Binary64 :=
  let size : Int := (Decimal.digitsOf digits).length
  if digits == 0 || size + power < -400 then .zero negative
  else if size + power > 400 then .infinite negative
  else Binary64.ofDecimal negative digits power

/-- The floating-point number that the unsigned part of a numeral is. -/
def unsignedReal? (negative : Bool) (body : List Char) : Option Binary64 :=
  let (whole, wholeCount, rest) := digitsAndRest 0 0 body
  match rest with
  | '.' :: cs =>
    if wholeCount == 0 && cs.head? == some '_' then none
    else
      let (places, placesCount, rest) := digitsAndRest 0 0 cs
      if wholeCount + placesCount == 0 then none
      else
        (exponent? rest).map fun exponent =>
          nearest negative (whole * Nat.pow 10 placesCount + places) (exponent - placesCount)
  | rest =>
    if wholeCount == 0 then none
    else (exponent? rest).map fun exponent => nearest negative whole exponent

/-- The floating-point number that a numeral is, the names of the infinities and of what is not a
    number included. -/
def readReal? (text : List Char) : Option Binary64 :=
  let (negative, body) := signAndRest (trim text)
  let word := String.ofList (body.map Char.toLower)
  if word == "inf" || word == "infinity" then some (.infinite negative)
  else if word == "nan" then some .nan
  else unsignedReal? negative body

end Stencil.Numeral
