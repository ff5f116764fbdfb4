import Stencil.Number.Numeral
import Stencil.Text.Quoted

/-! # JSON — documents and how they are written

    A document is written on one line with a space behind every comma and colon,
    or on several lines with two spaces of indentation a level.  Texts are
    written in their own characters; only the quote, the backslash and the
    controls are escaped. -/

namespace Stencil

open Stencil.Text

/-- A JSON document; the members of an object are in their order. -/
inductive Json where
  | null
  | bool (b : Bool)
  | int (i : Int)
  | real (x : Binary64)
  | text (s : String)
  | array (items : List Json)
  | object (members : List (String × Json))

instance : Inhabited Json := ⟨.null⟩

namespace Json

/-- A character inside a JSON text. -/
def escapedChar (c : Char) : List Char :=
  match c with
  | '"' => ['\\', '"']
  | '\\' => ['\\', '\\']
  | '\n' => ['\\', 'n']
  | '\r' => ['\\', 'r']
  | '\t' => ['\\', 't']
  | c =>
    if c.toNat == 8 then ['\\', 'b']
    else if c.toNat == 12 then ['\\', 'f']
    else if c.toNat < 32 then '\\' :: 'u' :: hexDigits 4 c.toNat
    else [c]

/-- A JSON text with its quotes. -/
def writeText (s : String) : List Char :=
  '"' :: (s.toList.flatMap escapedChar ++ ['"'])

/-- A floating-point number of a document. -/
def writeReal : Binary64 → List Char
  | .nan => "NaN".toList
  | .infinite negative => (if negative then "-Infinity" else "Infinity").toList
  | x => (Numeral.realText x).toList

mutual

/-- A document on one line. -/
def write : Json → List Char
  | .null => "null".toList
  | .bool b => (if b then "true" else "false").toList
  | .int i => (Numeral.intText i).toList
  | .real x => writeReal x
  | .text s => writeText s
  | .array items => '[' :: (writeItems items ++ [']'])
  | .object members => '\x7b' :: (writeMembers members ++ ['\x7d'])

/-- Documents with a comma and a space between any two neighbours. -/
def writeItems : List Json → List Char
  | [] => []
  | [item] => write item
  | item :: items => write item ++ ',' :: ' ' :: writeItems items

/-- Members with a comma and a space between any two neighbours. -/
def writeMembers : List (String × Json) → List Char
  | [] => []
  | [(key, value)] => writeText key ++ ':' :: ' ' :: write value
  | (key, value) :: members =>
    writeText key ++ ':' :: ' ' :: (write value ++ ',' :: ' ' :: writeMembers members)

end

/-- A line end and the indentation of a level. -/
def newLine (level : Nat) : List Char :=
  '\n' :: List.replicate (2 * level) ' '

mutual

/-- A document on several lines, at a level of indentation. -/
def layOut (level : Nat) : Json → List Char
  | .array [] => ['[', ']']
  | .array items =>
    '[' :: (newLine (level + 1) ++ layOutItems (level + 1) items ++ newLine level ++ [']'])
  | .object [] => ['\x7b', '\x7d']
  | .object members =>
    '\x7b' ::
      (newLine (level + 1) ++ layOutMembers (level + 1) members ++ newLine level ++ ['\x7d'])
  | leaf => write leaf

/-- Documents with a comma and a line end between any two neighbours. -/
def layOutItems (level : Nat) : List Json → List Char
  | [] => []
  | [item] => layOut level item
  | item :: items => layOut level item ++ ',' :: (newLine level ++ layOutItems level items)

/-- Members with a comma and a line end between any two neighbours. -/
def layOutMembers (level : Nat) : List (String × Json) → List Char
  | [] => []
  | [(key, value)] => writeText key ++ ':' :: ' ' :: layOut level value
  | (key, value) :: members =>
    writeText key ++ ':' :: ' ' :: (layOut level value ++
      ',' :: (newLine level ++ layOutMembers level members))

end

/-- The member of an object under a key; of several the last. -/
def member? (key : String) : Json → Option Json
  | .object members => members.reverse.lookup key
  | _ => none

/-- A document on one line, as a string. -/
def line (doc : Json) : String :=
  String.ofList (write doc)

/-- A document on several lines, as a string. -/
def pretty (doc : Json) : String :=
  String.ofList (layOut 0 doc)

end Json

end Stencil
