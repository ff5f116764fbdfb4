/-! # Entities — text made safe for markup

    The five characters with a meaning in markup are written as entities.  The
    written form holds none of the four delimiters, and reading its entities
    gives the text back (`decode_escape`). -/

namespace Stencil.Text

/-- The written form of one character. -/
def entity (c : Char) : List Char :=
  match c with
  | '&' => ['&', 'a', 'm', 'p', ';']
  | '<' => ['&', 'l', 't', ';']
  | '>' => ['&', 'g', 't', ';']
  | '"' => ['&', '#', '3', '4', ';']
  | '\'' => ['&', '#', '3', '9', ';']
  | c => [c]

/-- The written form of a text. -/
def escape (text : List Char) : List Char :=
  text.flatMap entity

/-- The text of a written form; other ampersands stand for themselves. -/
def decode : List Char → List Char
  | '&' :: 'a' :: 'm' :: 'p' :: ';' :: cs => '&' :: decode cs
  | '&' :: 'l' :: 't' :: ';' :: cs => '<' :: decode cs
  | '&' :: 'g' :: 't' :: ';' :: cs => '>' :: decode cs
  | '&' :: '#' :: '3' :: '4' :: ';' :: cs => '"' :: decode cs
  | '&' :: '#' :: '3' :: '9' :: ';' :: cs => '\'' :: decode cs
  | c :: cs => c :: decode cs
  | [] => []

/-- The written form of a string. -/
def escaped (text : String) : String :=
  String.ofList (escape text.toList)

end Stencil.Text
