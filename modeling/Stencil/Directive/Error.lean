import Stencil.Text.Place
import Stencil.Text.Quoted

/-! # Directive errors — what can be wrong with the tags of a source

    An error names its cause, the tag it is about and the tag's place.  Causes
    fall into three families: tags that are badly written, tags of no known
    directive, and tags that do not pair up. -/

namespace Stencil.Directive

open Stencil.Text

/-- Why a source cannot be lowered. -/
inductive Cause where
  | closingAttributes
  | duplicateAttribute (key : List Char)
  | malformedAttributes
  | unknown (name : List Char)
  | unopened
  | mismatched (opener : List Char) (openedAt : Place)
  | unclosed
  | noBody (directive : List Char)
  | unexpectedAttributes (keys : List (List Char)) (directive : List Char)
  | noExpression (directive key : List Char)
deriving DecidableEq, Repr

/-- The three families of causes. -/
inductive Family where
  | malformed
  | unknown
  | unbalanced
deriving DecidableEq, Repr

/-- The family of a cause. -/
def Cause.family : Cause → Family
  | .unknown _ => .unknown
  | .unopened => .unbalanced
  | .mismatched _ _ => .unbalanced
  | .unclosed => .unbalanced
  | _ => .malformed

/-- A faulty tag: the cause, the tag's source text and its place. -/
structure Error where
  cause : Cause
  tag : List Char
  place : Place
deriving DecidableEq, Repr

/-- Names with a comma and a space between any two neighbours. -/
def listed (names : List (List Char)) : String :=
  ", ".intercalate (names.map String.ofList)

/-- What is wrong, without the place. -/
def Error.complaint (error : Error) : String :=
  let tag := String.ofList error.tag
  let shown := quoted tag
  match error.cause with
  | .closingAttributes => s!"Closing tag {shown} cannot carry attributes"
  | .duplicateAttribute key => s!"Duplicate attribute '{String.ofList key}' in {shown}"
  | .malformedAttributes => s!"Malformed attributes in {shown}"
  | .unknown name => s!"Unknown directive '{String.ofList name}' in {shown}"
  | .unopened => s!"Closing tag '{tag}' without opening tag"
  | .mismatched opener openedAt =>
    s!"Closing tag '{tag}' does not match '{String.ofList opener}' opened at {openedAt.shown}"
  | .unclosed => s!"Directive '{tag}' is never closed"
  | .noBody directive => s!"Directive '{String.ofList directive}' requires a body"
  | .unexpectedAttributes keys directive =>
    s!"Unexpected attribute(s) {listed keys} on '{String.ofList directive}'"
  | .noExpression directive key =>
    s!"Directive '{String.ofList directive}' requires a non-empty '{String.ofList key}' attribute"

/-- The message of an error, with its place. -/
def Error.message (error : Error) : String :=
  s!"{error.complaint} at {error.place.shown}"

end Stencil.Directive
