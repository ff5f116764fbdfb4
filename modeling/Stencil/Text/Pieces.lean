/-! # Pieces of a text — cutting and replacing

    A text is cut at the first separating character, is told what follows a
    beginning, and has every occurrence of a pattern replaced from left to right. -/

namespace Stencil.Text

/-- The text before and the text after the first occurrence of a separator. -/
def cutAt? (separator : Char) : List Char → Option (List Char × List Char)
  | [] => none
  | c :: cs =>
    if c == separator then some ([], cs)
    else (cutAt? separator cs).map fun (before, after) => (c :: before, after)

/-- What follows a given beginning of a text. -/
def rest? : List Char → List Char → Option (List Char)
  | [], text => some text
  | _ :: _, [] => none
  | c :: start, d :: text => if c == d then rest? start text else none

/-- The text with every occurrence of a pattern replaced, where `skip` more characters of the
    occurrence just replaced are still to be passed. -/
def replaceFrom (pattern replacement : List Char) : Nat → List Char → List Char
  | _, [] => []
  | skip + 1, _ :: cs => replaceFrom pattern replacement skip cs
  | 0, c :: cs =>
    if pattern.isPrefixOf (c :: cs) then
      replacement ++ replaceFrom pattern replacement (pattern.length - 1) cs
    else c :: replaceFrom pattern replacement 0 cs

/-- The text with every occurrence of a pattern replaced, from left to right. -/
def replaceAll (pattern replacement text : List Char) : List Char :=
  replaceFrom pattern replacement 0 text

/-- What follows a beginning, put behind it, is the text. -/
theorem eq_append_of_rest? {start text rest : List Char} (h : rest? start text = some rest) :
    text = start ++ rest := by
  induction start generalizing text with
  | nil => simpa [rest?] using h
  | cons c start ih =>
    cases text with
    | nil => simp [rest?] at h
    | cons d text =>
      simp only [rest?] at h
      split at h
      · next hcd => rw [ih h, beq_iff_eq.mp hcd, List.cons_append]
      · exact absurd h (by simp)

end Stencil.Text
