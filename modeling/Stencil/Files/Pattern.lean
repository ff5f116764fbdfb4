/-! # Name patterns — file names with wildcards

    In a pattern a star stands for any text, a question mark for one character,
    and brackets for one character of a set, whose ranges are written with a
    hyphen and which an exclamation mark turns around.  Every other character
    stands for itself, an opening bracket without a closing one too. -/

namespace Stencil.Pattern

/-- One part of a pattern. -/
inductive Part where
  | star
  | one
  | set (turned : Bool) (ranges : List (Char × Char))
  | char (c : Char)
deriving DecidableEq, Repr

/-- The ranges written between brackets. -/
def ranges : List Char → List (Char × Char)
  | low :: '-' :: high :: cs => (low, high) :: ranges cs
  | c :: cs => (c, c) :: ranges cs
  | [] => []

/-- The content of brackets up to the closing one, which does not close when it stands first, and
    the rest. -/
def setAndRest? (cs : List Char) : Option (Part × List Char) :=
  let (turned, body) :=
    match cs with
    | '!' :: ds => (true, ds)
    | ds => (false, ds)
  let (first, more) :=
    match body with
    | ']' :: ds => ([']'], ds)
    | ds => ([], ds)
  if more.contains ']' then
    let content := first ++ more.takeWhile (· != ']')
    some (.set turned (ranges content), (more.dropWhile (· != ']')).drop 1)
  else none

/-- The parts of a pattern; `fuel` bounds their number. -/
def partsOf : Nat → List Char → List Part
  | 0, _ => []
  | _, [] => []
  | fuel + 1, c :: cs =>
    if c == '*' then .star :: partsOf fuel cs
    else if c == '?' then .one :: partsOf fuel cs
    else if c == '[' then
      match setAndRest? cs with
      | some (part, rest) => part :: partsOf fuel rest
      | none => .char c :: partsOf fuel cs
    else .char c :: partsOf fuel cs

/-- Whether a part other than the star stands for a character. -/
def Part.holds (part : Part) (c : Char) : Bool :=
  match part with
  | .char d => c == d
  | .one => true
  | .set turned ranges => turned != ranges.any fun (low, high) => low ≤ c && c ≤ high
  | .star => false

/-- Whether a test holds of some end of a text, the whole text and the empty one included. -/
def someEnd (test : List Char → Bool) : List Char → Bool
  | [] => test []
  | c :: cs => test (c :: cs) || someEnd test cs

/-- Whether parts stand for a text. -/
def holdParts : List Part → List Char → Bool
  | [], text => text.isEmpty
  | .star :: parts, text => someEnd (holdParts parts) text
  | part :: parts, c :: cs => part.holds c && holdParts parts cs
  | _ :: _, [] => false

/-- Whether a pattern stands for a name. -/
def holds (pattern name : String) : Bool :=
  holdParts (partsOf (pattern.length + 1) pattern.toList) name.toList

/-- Whether patterns stand for the last of some names, one for each. -/
def holdLast (patterns names : List String) : Bool :=
  let last := names.drop (names.length - patterns.length)
  decide (patterns.length ≤ names.length) &&
    (List.zipWith holds patterns last).all id

end Stencil.Pattern
