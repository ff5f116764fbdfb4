import Stencil.Number.Numeral
import Stencil.Text.Quoted
import Stencil.Value.Basic

/-! # Values shown — the text of a value

    A value is shown as the literal that would write it: texts in quotes, lists
    in brackets, maps in braces.  Records show their label, and a fragment shows
    the name of its template, which `names` gives.  A value that holds an integer
    of too many digits cannot be shown. -/

namespace Stencil.Value

open Stencil.Text

/-- A byte inside the literal of bytes. -/
def byteText (quote : Char) (b : UInt8) : List Char :=
  let c := Char.ofNat b.toNat
  if c == quote || c == '\\' then ['\\', c]
  else if c == '\n' then ['\\', 'n']
  else if c == '\r' then ['\\', 'r']
  else if c == '\t' then ['\\', 't']
  else if 32 ≤ b.toNat && b.toNat < 127 then [c]
  else '\\' :: 'x' :: hexDigits 2 b.toNat

/-- The literal of bytes. -/
def bytesText (bytes : List UInt8) : String :=
  let quote := if bytes.contains 39 && !bytes.contains 34 then '"' else '\''
  String.ofList ('b' :: quote :: (bytes.flatMap (byteText quote) ++ [quote]))

/-- The name of a value's type. -/
def typeName : Value → String
  | .null => "NoneType"
  | .bool _ => "bool"
  | .int _ => "int"
  | .real _ => "float"
  | .text _ => "str"
  | .safe _ => "Markup"
  | .bytes _ => "bytes"
  | .list _ => "list"
  | .tuple _ => "tuple"
  | .row typeName _ _ _ => typeName
  | .map _ => "dict"
  | .set _ => "set"
  | .stream _ => "generator"
  | .action _ => "function"
  | .record _ _ => "Obj"
  | .fragment (.component _) => "Component"
  | .fragment (.view _) => "View"
  | .method _ _ => "method"
  | .part (.compiler _) => "ViewCompiler"
  | .part (.site _) => "Environment"
  | .absent absence => if absence.strict then "StrictUndefined" else "Undefined"
  | .foreign typeName _ => typeName

mutual

/-- Whether no integer in a value has too many digits to be shown. -/
def isShowable : Value → Bool
  | .int i => decide (i.natAbs < Digits.tooLarge)
  | .list items => areShowable items
  | .tuple items => areShowable items
  | .map entries => areEntriesShowable entries
  | .set items => areShowable items
  | _ => true

/-- Whether no integer in values has too many digits to be shown. -/
def areShowable : List Value → Bool
  | [] => true
  | v :: vs => isShowable v && areShowable vs

/-- Whether no integer in the entries of a map has too many digits to be shown. -/
def areEntriesShowable : List (Value × Value) → Bool
  | [] => true
  | (key, value) :: entries => isShowable key && isShowable value && areEntriesShowable entries

end

mutual

/-- A value shown as its literal. -/
def shown (names : Handle → String) : Value → String
  | .null => "None"
  | .bool b => if b then "True" else "False"
  | .int i => Numeral.intText i
  | .real x => Numeral.realText x
  | .text s => quoted s
  | .safe s => "Markup(" ++ quoted s ++ ")"
  | .bytes b => bytesText b
  | .list items => "[" ++ ", ".intercalate (shownItems names items) ++ "]"
  | .tuple [item] => "(" ++ shown names item ++ ",)"
  | .tuple items => "(" ++ ", ".intercalate (shownItems names items) ++ ")"
  | .row _ written _ _ => written
  | .map entries => "\x7b" ++ ", ".intercalate (shownEntries names entries) ++ "\x7d"
  | .set [] => "set()"
  | .set items => "\x7b" ++ ", ".intercalate (shownItems names items) ++ "\x7d"
  | .stream _ => "<generator object>"
  | .action _ => "<function>"
  | .record _ r => "<" ++ r.label ++ ">"
  | .fragment handle => names handle
  | .method handle _ => "<bound method of " ++ names handle ++ ">"
  | .part (.compiler _) => "<ViewCompiler>"
  | .part (.site _) => "<Environment>"
  | .absent _ => "Undefined"
  | .foreign _ written => written

/-- Values shown one by one. -/
def shownItems (names : Handle → String) : List Value → List String
  | [] => []
  | v :: vs => shown names v :: shownItems names vs

/-- The entries of a map shown one by one. -/
def shownEntries (names : Handle → String) : List (Value × Value) → List String
  | [] => []
  | (key, value) :: entries =>
    (shown names key ++ ": " ++ shown names value) :: shownEntries names entries

end

end Stencil.Value
