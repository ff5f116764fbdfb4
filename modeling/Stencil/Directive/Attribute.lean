import Stencil.Text.Blank
import Stencil.Text.Word

/-! # Attributes — what the body of an opening tag says

    A body is a list of attributes, each a blank, a key, `=` and a quoted value,
    and may end with a slash.  Blanks are free around the `=` and at the end.  A
    key stands once. -/

namespace Stencil.Directive

open Stencil.Text

/-- An attribute: a key and the text between its quotes. -/
abbrev Attribute := List Char × List Char

/-- Characters of a key after its first. -/
def isKeyChar (c : Char) : Bool :=
  isWord c || c == ':' || c == '.' || c == '-'

/-- The text up to a closing quote and what follows that quote. -/
def valueAndRest? (q : Char) : List Char → Option (List Char × List Char)
  | [] => none
  | c :: cs =>
    if c == q then some ([], cs)
    else (valueAndRest? q cs).map fun (value, rest) => (c :: value, rest)

/-- The value behind an equals sign, and what follows it. -/
def assignedAndRest? (body : List Char) : Option (List Char × List Char) :=
  match stripStart body with
  | '=' :: cs =>
    match stripStart cs with
    | '"' :: cs => valueAndRest? '"' cs
    | '\'' :: cs => valueAndRest? '\'' cs
    | _ => none
  | _ => none

/-- The attribute with which a body begins, and what follows it. -/
def attributeAndRest? (body : List Char) : Option (Attribute × List Char) :=
  match body with
  | [] => none
  | c :: _ =>
    if isBlank c then
      match stripStart body with
      | [] => none
      | first :: cs =>
        if isNameStart first then
          (assignedAndRest? (cs.dropWhile isKeyChar)).map fun (value, rest) =>
            ((first :: cs.takeWhile isKeyChar, value), rest)
        else none
    else none

/-- What a body may hold behind its attributes: blanks and at most one slash, whose presence is
    the answer. -/
def selfClosing? (body : List Char) : Option Bool :=
  match stripStart body with
  | '/' :: cs => if allBlank cs then some true else none
  | cs => if cs.isEmpty then some false else none

/-- What can be wrong with the body of an opening tag. -/
inductive BodyFault where
  | duplicate (key : List Char)
  | malformed
deriving DecidableEq, Repr

/-! ## Attributes shorten the body -/

/-- Dropping characters makes a text no longer. -/
theorem length_dropWhile_le (p : Char → Bool) (text : List Char) :
    (text.dropWhile p).length ≤ text.length :=
  (List.dropWhile_sublist p).length_le

/-- What follows a quoted value is shorter. -/
theorem length_lt_of_valueAndRest? {q : Char} {text value rest : List Char}
    (h : valueAndRest? q text = some (value, rest)) : rest.length < text.length := by
  induction text generalizing value with
  | nil => simp [valueAndRest?] at h
  | cons c cs ih =>
    simp only [valueAndRest?] at h
    split at h
    · simp only [Option.some.injEq, Prod.mk.injEq] at h
      simp [← h.2]
    · simp only [Option.map_eq_some_iff, Prod.mk.injEq, Prod.exists] at h
      obtain ⟨_, _, hrest, _, rfl⟩ := h
      have := ih hrest
      simp only [List.length_cons]
      omega

/-- What follows an assigned value is shorter. -/
theorem length_lt_of_assignedAndRest? {body value rest : List Char}
    (h : assignedAndRest? body = some (value, rest)) : rest.length < body.length := by
  have hbody := length_dropWhile_le isBlank body
  simp only [assignedAndRest?, stripStart] at h
  split at h
  · next cs heq =>
    have hcs := length_dropWhile_le isBlank cs
    rw [heq] at hbody
    split at h
    · next ds hds =>
      have := length_lt_of_valueAndRest? h
      rw [hds] at hcs
      simp only [List.length_cons] at hbody hcs
      omega
    · next ds hds =>
      have := length_lt_of_valueAndRest? h
      rw [hds] at hcs
      simp only [List.length_cons] at hbody hcs
      omega
    · exact absurd h (by simp)
  · exact absurd h (by simp)

/-- What follows an attribute is shorter. -/
theorem length_lt_of_attributeAndRest? {body rest : List Char} {entry : Attribute}
    (h : attributeAndRest? body = some (entry, rest)) : rest.length < body.length := by
  simp only [attributeAndRest?] at h
  split at h
  · exact absurd h (by simp)
  · next c cs =>
    split at h
    · split at h
      · exact absurd h (by simp)
      · next first ds hds =>
        split at h
        · simp only [Option.map_eq_some_iff, Prod.mk.injEq, Prod.exists] at h
          obtain ⟨_, _, hrest, _, rfl⟩ := h
          have hlt := length_lt_of_assignedAndRest? hrest
          have hkey := length_dropWhile_le isKeyChar ds
          have hstart := length_dropWhile_le isBlank (c :: cs)
          rw [show (c :: cs).dropWhile isBlank = first :: ds from hds] at hstart
          simp only [List.length_cons] at hstart ⊢
          omega
        · exact absurd h (by simp)
    · exact absurd h (by simp)

/-! ## Reading a body -/

/-- The attributes of a body in their order and whether a slash ends it, given the keys that
    stand before it. -/
def readBody (keys : List (List Char)) (body : List Char) :
    Except BodyFault (List Attribute × Bool) :=
  match _h : attributeAndRest? body with
  | some (entry, rest) =>
    if keys.contains entry.1 then .error (.duplicate entry.1)
    else (readBody (entry.1 :: keys) rest).map fun (entries, slash) => (entry :: entries, slash)
  | none =>
    match selfClosing? body with
    | some slash => .ok ([], slash)
    | none => .error .malformed
termination_by body.length
decreasing_by exact length_lt_of_attributeAndRest? (by assumption)

end Stencil.Directive
