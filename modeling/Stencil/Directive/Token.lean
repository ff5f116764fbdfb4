import Stencil.Directive.Attribute
import Stencil.Directive.Error
import Stencil.Directive.Tag

/-! # Tokens — a source as runs of text and directive tags, with their places

    The tokens of a source are its pieces in order, each with its offset and its
    place, and one end token behind them.  Every tag must be well written: a
    closing tag carries nothing behind its name, and the body of an opening tag
    is a list of attributes. -/

namespace Stencil.Directive

open Stencil.Text

/-- What a token stands for. -/
inductive TokenKind where
  | text
  | opening (name : List Char) (attributes : List Attribute) (selfClosing : Bool)
  | closing (name : List Char)
  | finish
deriving DecidableEq, Repr

/-- A token: its kind, its source text, its offset and its place. -/
structure Token where
  kind : TokenKind
  text : List Char
  offset : Nat
  place : Place
deriving DecidableEq, Repr

/-- The kind of a well-written tag. -/
def Tag.kind (tag : Tag) : Except Cause TokenKind :=
  if tag.closing then
    if allBlank tag.body then .ok (.closing tag.name) else .error .closingAttributes
  else
    match readBody [] tag.body with
    | .ok (attributes, selfClosing) => .ok (.opening tag.name attributes selfClosing)
    | .error (.duplicate key) => .error (.duplicateAttribute key)
    | .error .malformed => .error .malformedAttributes

/-- The kind of a piece. -/
def Piece.kind : Piece → Except Cause TokenKind
  | .text _ => .ok .text
  | .tag found => found.kind

/-- The tokens of the pieces behind a given offset and place; the first faulty tag is the error. -/
def tokensFrom (ns : List Char) (offset : Nat) (place : Place) :
    List Piece → Except Error (List Token)
  | [] => .ok [⟨.finish, [], offset, place⟩]
  | piece :: pieces =>
    let text := piece.source ns
    match piece.kind with
    | .error cause => .error ⟨cause, text, place⟩
    | .ok kind =>
      (tokensFrom ns (offset + text.length) (place.after text) pieces).map
        (⟨kind, text, offset, place⟩ :: ·)

/-- The tokens of a source. -/
def tokenize (ns text : List Char) : Except Error (List Token) :=
  tokensFrom ns 0 .first (pieces ns text)

/-- The name of a token's kind. -/
def TokenKind.label : TokenKind → String
  | .text => "TEXT"
  | .opening _ _ _ => "OPEN"
  | .closing _ => "CLOSE"
  | .finish => "EOF"

/-- A token shown on one line. -/
def Token.shown (token : Token) : String :=
  s!"Token({token.kind.label}, {quoted (String.ofList token.text)}, {token.place.shown})"

/-! ## Namespaces -/

/-- A namespace of directives: a letter or underscore, then word characters and hyphens, then at
    most one line feed. -/
def isNamespace (ns : List Char) : Bool :=
  match ns with
  | [] => false
  | c :: cs =>
    let body := if cs.getLast? == some '\n' then cs.dropLast else cs
    isNameStart c && body.all fun d => isWord d || d == '-'

end Stencil.Directive
