/-! # Places — lines and columns of a text

    Lines and columns count from one; only the line feed ends a line.  Two
    places of one text are ordered as their offsets. -/

namespace Stencil.Text

/-- A place in a text, as a line and a column, both from one. -/
structure Place where
  line : Nat
  column : Nat
deriving DecidableEq, Repr, Inhabited

/-- The place of the first character. -/
def Place.first : Place := ⟨1, 1⟩

/-- The place after one more character. -/
def Place.step (place : Place) (c : Char) : Place :=
  if c == '\n' then ⟨place.line + 1, 1⟩ else ⟨place.line, place.column + 1⟩

/-- The place after some more text. -/
def Place.after (place : Place) (text : List Char) : Place :=
  text.foldl Place.step place

/-- Passing two texts is passing one and then the other. -/
theorem Place.after_append (place : Place) (before text : List Char) :
    place.after (before ++ text) = (place.after before).after text :=
  List.foldl_append

/-- A place as `line:column`. -/
def Place.shown (place : Place) : String :=
  s!"{place.line}:{place.column}"

/-- The text with every line end (a carriage return, a line feed or both in this order) written
    as one line feed. -/
def unifyLines : List Char → List Char
  | [] => []
  | '\r' :: '\n' :: cs => '\n' :: unifyLines cs
  | c :: cs => (if c == '\r' then '\n' else c) :: unifyLines cs

end Stencil.Text
