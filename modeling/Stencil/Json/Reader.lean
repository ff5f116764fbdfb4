import Stencil.Json.Basic
import Stencil.Text.Pieces

/-! # Reading JSON — a document from its text

    A document is read whole, with blanks between its parts.  A number with a
    point or an exponent is a floating-point one; the infinities and what is not
    a number have names.  A text may hold every character but the controls; half
    of a pair of surrogates alone reads as the replacement character. -/

namespace Stencil.Json

open Stencil.Text

/-- Blanks between the parts of a document. -/
def isGap (c : Char) : Bool :=
  c == ' ' || c == '\t' || c == '\n' || c == '\r'

/-- The text behind its leading blanks. -/
def skipGap (text : List Char) : List Char :=
  text.dropWhile isGap

/-- The number of four hexadecimal digits. -/
def unit? (a b c d : Char) : Option Nat :=
  Digits.number? 16 [a, b, c, d]

/-- The character a backslash and a letter stand for. -/
def namedEscape? (c : Char) : Option Nat :=
  match c with
  | '"' => some 34
  | '\\' => some 92
  | '/' => some 47
  | 'b' => some 8
  | 'f' => some 12
  | 'n' => some 10
  | 'r' => some 13
  | 't' => some 9
  | _ => none

/-- The code units up to a closing quote, and what follows the quote. -/
def unitsAndRest? : List Char → Option (List Nat × List Char)
  | [] => none
  | '"' :: rest => some ([], rest)
  | '\\' :: 'u' :: a :: b :: c :: d :: cs =>
    match unit? a b c d, unitsAndRest? cs with
    | some u, some (units, rest) => some (u :: units, rest)
    | _, _ => none
  | '\\' :: c :: cs =>
    match namedEscape? c, unitsAndRest? cs with
    | some u, some (units, rest) => some (u :: units, rest)
    | _, _ => none
  | c :: cs =>
    if c.toNat < 32 || c == '\\' then none
    else (unitsAndRest? cs).map fun (units, rest) => (c.toNat :: units, rest)

/-- The characters of code units, pairs of surrogates joined. -/
def joinUnits : List Nat → List Char
  | [] => []
  | high :: low :: units =>
    if 0xD800 ≤ high && high < 0xDC00 && 0xDC00 ≤ low && low < 0xE000 then
      Char.ofNat (0x10000 + (high - 0xD800) * 1024 + (low - 0xDC00)) :: joinUnits units
    else
      (if 0xD800 ≤ high && high < 0xE000 then '\uFFFD' else Char.ofNat high) ::
        joinUnits (low :: units)
  | [one] => [if 0xD800 ≤ one && one < 0xE000 then '\uFFFD' else Char.ofNat one]

/-- The text up to a closing quote, and what follows the quote. -/
def textAndRest? (cs : List Char) : Option (String × List Char) :=
  (unitsAndRest? cs).map fun (units, rest) => (String.ofList (joinUnits units), rest)

/-- The digits at the start of a text and the rest. -/
def spanDigits (cs : List Char) : List Char × List Char :=
  (cs.takeWhile Char.isDigit, cs.dropWhile Char.isDigit)

/-- The digits behind a point, if there are any, and the rest. -/
def placesAndRest (cs : List Char) : List Char × List Char :=
  match cs with
  | '.' :: ds =>
    match spanDigits ds with
    | ([], _) => ([], cs)
    | found => found
  | _ => ([], cs)

/-- The exponent, if there is one, and the rest. -/
def powerAndRest (cs : List Char) : Option Int × List Char :=
  match cs with
  | e :: ds =>
    if e == 'e' || e == 'E' then
      let (negative, ds) := Numeral.signAndRest ds
      match spanDigits ds with
      | ([], _) => (none, cs)
      | (digits, rest) =>
        let size : Int := Digits.decimal digits
        (some (if negative then -size else size), rest)
    else (none, cs)
  | [] => (none, cs)

/-- The number with which a text begins, behind its sign. -/
def numberAndRest? (negative : Bool) (cs : List Char) : Option (Json × List Char) :=
  let whole :=
    match cs with
    | '0' :: rest => (['0'], rest)
    | cs => spanDigits cs
  match whole with
  | ([], _) => none
  | (digits, rest) =>
    let (places, rest) := placesAndRest rest
    let (power, rest) := powerAndRest rest
    if places.isEmpty && power.isNone then
      let size : Int := Digits.decimal digits
      if Digits.most < digits.length then none
      else some (.int (if negative then -size else size), rest)
    else
      let exponent := power.getD 0 - (places.length : Int)
      some (.real (Numeral.nearest negative (Digits.decimal (digits ++ places)) exponent), rest)

/-- The names of documents without parts. -/
def names : List (List Char × Json) :=
  [("null".toList, .null), ("true".toList, .bool true), ("false".toList, .bool false),
    ("NaN".toList, .real .nan), ("Infinity".toList, .real (.infinite false)),
    ("-Infinity".toList, .real (.infinite true))]

/-- The named or numeric document with which a text begins. -/
def leafAndRest? (cs : List Char) : Option (Json × List Char) :=
  let named := names.findSome? fun (name, doc) => (rest? name cs).map fun rest => (doc, rest)
  match named with
  | some found => some found
  | none =>
    match cs with
    | '-' :: ds => numberAndRest? true ds
    | ds => numberAndRest? false ds

/-- The members of an object with a key set: in its place if it is there, else at the end. -/
def setMember (key : String) (value : Json) : List (String × Json) → List (String × Json)
  | [] => [(key, value)]
  | (k, v) :: members =>
    if k == key then (k, value) :: members else (k, v) :: setMember key value members

mutual

/-- The document with which a text begins, and the rest; every step into a part takes one of
    the fuel. -/
def docAndRest? : Nat → List Char → Option (Json × List Char)
  | 0, _ => none
  | fuel + 1, cs =>
    match skipGap cs with
    | '"' :: ds => (textAndRest? ds).map fun (s, rest) => (.text s, rest)
    | '[' :: ds =>
      match skipGap ds with
      | ']' :: rest => some (.array [], rest)
      | ds => itemsAndRest? fuel [] ds
    | '\x7b' :: ds =>
      match skipGap ds with
      | '\x7d' :: rest => some (.object [], rest)
      | ds => membersAndRest? fuel [] ds
    | ds => leafAndRest? ds

/-- The array whose items so far are given, the last one first, and the rest. -/
def itemsAndRest? : Nat → List Json → List Char → Option (Json × List Char)
  | 0, _, _ => none
  | fuel + 1, items, cs =>
    match docAndRest? fuel cs with
    | none => none
    | some (item, rest) =>
      match skipGap rest with
      | ',' :: ds => itemsAndRest? fuel (item :: items) ds
      | ']' :: ds => some (.array (item :: items).reverse, ds)
      | _ => none

/-- The object whose members so far are given, and the rest. -/
def membersAndRest? : Nat → List (String × Json) → List Char → Option (Json × List Char)
  | 0, _, _ => none
  | fuel + 1, members, cs =>
    match skipGap cs with
    | '"' :: ds =>
      match textAndRest? ds with
      | none => none
      | some (key, rest) =>
        match skipGap rest with
        | ':' :: ds =>
          match docAndRest? fuel ds with
          | none => none
          | some (value, rest) =>
            let members := setMember key value members
            match skipGap rest with
            | ',' :: ds => membersAndRest? fuel members ds
            | '\x7d' :: ds => some (.object members, ds)
            | _ => none
        | _ => none
    | _ => none

end

/-- The document that a text is. -/
def read? (text : List Char) : Option Json :=
  match docAndRest? (text.length + 1) text with
  | some (doc, rest) => if (skipGap rest).isEmpty then some doc else none
  | none => none

end Stencil.Json
