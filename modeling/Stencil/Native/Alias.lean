import Stencil.Native.Segment

/-! # Aliases — names that are one variable

    Two names that differ in the form of their letters only, as in a ligature or in
    letters of full width, are one variable: the one that the last of them names.
    Names of members, which stand behind a point, are none of these. -/

namespace Stencil.Native

/-- The plain letters of a letter of another form. -/
def plainLetters (c : Char) : List Char :=
  let n := c.toNat
  let fullWidth := (0xff21 ≤ n && n ≤ 0xff3a) || (0xff41 ≤ n && n ≤ 0xff5a)
  if fullWidth || (0xff10 ≤ n && n ≤ 0xff19) then [Char.ofNat (n - 0xfee0)]
  else
    match n with
    | 0x17f => ['s']
    | 0xfb00 => ['f', 'f']
    | 0xfb01 => ['f', 'i']
    | 0xfb02 => ['f', 'l']
    | 0xfb03 => ['f', 'f', 'i']
    | 0xfb04 => ['f', 'f', 'l']
    | 0xfb05 => ['s', 't']
    | 0xfb06 => ['s', 't']
    | _ => [c]

/-- A name in plain letters. -/
def plainName (name : String) : String :=
  String.ofList (name.toList.flatMap plainLetters)

/-- The words of the native language itself, which name no variables. -/
def keywords : List String :=
  ["if", "elif", "else", "endif", "for", "in", "endfor", "set", "and", "or", "not", "is"]

/-- The names of variables among words, in their order. -/
def namesFrom : Bool → List Word → List String
  | _, [] => []
  | afterPoint, .name name :: words =>
    if afterPoint || keywords.contains name then namesFrom false words
    else name :: namesFrom false words
  | _, word :: words => namesFrom (word == .mark ".") words

/-- The words with the names of variables replaced. -/
def renameFrom (rename : String → String) : Bool → List Word → List Word
  | _, [] => []
  | afterPoint, .name name :: words =>
    .name (if afterPoint || keywords.contains name then name else rename name)
      :: renameFrom rename false words
  | _, word :: words => word :: renameFrom rename (word == .mark ".") words

/-- The words of a segment. -/
def Segment.words : Segment → List Word
  | .text _ => []
  | .expression words _ => words
  | .statement words _ => words

/-- A segment with the names of variables replaced. -/
def Segment.rename (rename : String → String) : Segment → Segment
  | .text run => .text run
  | .expression words line => .expression (renameFrom rename false words) line
  | .statement words line => .statement (renameFrom rename false words) line

/-- The name that stands for a name among others: the one of the same variable that occurs first
    after all the others have occurred. -/
def leader (names : List String) (name : String) : String :=
  (names.eraseDups.reverse.find? fun other => plainName other == plainName name).getD name

/-- The segments with one name for each variable. -/
def unified (segments : List Segment) : List Segment :=
  let names := segments.flatMap fun segment => namesFrom false segment.words
  segments.map (Segment.rename (leader names))

end Stencil.Native
