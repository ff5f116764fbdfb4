import Stencil.Directive.Token

/-! # Lowering — directive tags replaced by native blocks

    A directive gives a native opener for its opening tag, with the tag's
    expression put in, and a native closer for its closing tag; all other text
    stays as it is.  Tags must be of known directives, carry exactly the one
    attribute of their directive, and pair up like brackets. -/

namespace Stencil.Directive

open Stencil.Text

/-- How one kind of directive is lowered. -/
structure Rule where
  name : List Char
  key : List Char
  opener : List Char
  closer : List Char
deriving DecidableEq, Repr

/-- The mark in an opener at which the expression is put in. -/
def expressionMark : List Char :=
  "\x7bexpr\x7d".toList

/-- The native opener of an expression. -/
def Rule.openerFor (rule : Rule) (expression : List Char) : List Char :=
  replaceAll expressionMark expression rule.opener

/-- The conditional directive. -/
def conditional : Rule where
  name := "if".toList
  key := "cond".toList
  opener := "\x7b% if \x7bexpr\x7d %\x7d".toList
  closer := "\x7b% endif %\x7d".toList

/-- Directives by the name of their tags; of two entries under one name the later counts. -/
abbrev RuleSet := List (List Char × Rule)

/-- The rule of a name. -/
def RuleSet.find? (rules : RuleSet) (name : List Char) : Option Rule :=
  rules.reverse.lookup name

/-- The directives every engine knows. -/
def standardRules : RuleSet :=
  [(conditional.name, conditional)]

/-- The qualified name of a directive. -/
def qualified (ns name : List Char) : List Char :=
  ns ++ ':' :: name

/-- The error of a cause at a token. -/
def Token.fault (token : Token) (cause : Cause) : Error :=
  ⟨cause, token.text, token.place⟩

/-- The rule of a tag's name. -/
def ruleFor (ns : List Char) (rules : RuleSet) (token : Token) (name : List Char) :
    Except Error Rule :=
  match rules.find? name with
  | some rule => .ok rule
  | none => .error (token.fault (.unknown (qualified ns name)))

/-- Whether a key comes before another: at the first code point in which they differ, or as the
    shorter of the two. -/
def comesBefore (a b : List Char) : Bool :=
  List.lex a b fun c d => decide (c.toNat < d.toNat)

/-- Keys in ascending order of their code points. -/
def sortedKeys (keys : List (List Char)) : List (List Char) :=
  keys.mergeSort fun a b => !comesBefore b a

/-- The expression an opening tag gives to its directive. -/
def expressionOf (rule : Rule) (token : Token) (attributes : List Attribute)
    (selfClosing : Bool) : Except Error (List Char) :=
  let extra := (attributes.map (·.1)).filter (· != rule.key)
  let expression := strip ((attributes.lookup rule.key).getD [])
  if selfClosing then .error (token.fault (.noBody rule.name))
  else if !extra.isEmpty then
    .error (token.fault (.unexpectedAttributes (sortedKeys extra) rule.name))
  else if expression.isEmpty then .error (token.fault (.noExpression rule.name rule.key))
  else .ok expression

/-- An opening tag that is still to be closed. -/
structure Opener where
  name : List Char
  token : Token
deriving DecidableEq, Repr

/-- Checks that a closing tag closes the last opener, and gives the openers that remain. -/
def closeLast (stack : List Opener) (token : Token) (name : List Char) :
    Except Error (List Opener) :=
  match stack with
  | [] => .error (token.fault .unopened)
  | opener :: openers =>
    if opener.name == name then .ok openers
    else .error (token.fault (.mismatched opener.token.text opener.token.place))

/-- The native text of tokens, given the openers that are still to be closed. -/
def lowerFrom (ns : List Char) (rules : RuleSet) :
    List Opener → List Token → Except Error (List Char)
  | _, [] => .ok []
  | stack, token :: tokens =>
    match token.kind with
    | .text => return token.text ++ (← lowerFrom ns rules stack tokens)
    | .opening name attributes selfClosing => do
      let rule ← ruleFor ns rules token name
      let expression ← expressionOf rule token attributes selfClosing
      return rule.openerFor expression ++ (← lowerFrom ns rules (⟨name, token⟩ :: stack) tokens)
    | .closing name => do
      let rule ← ruleFor ns rules token name
      let openers ← closeLast stack token name
      return rule.closer ++ (← lowerFrom ns rules openers tokens)
    | .finish =>
      match stack with
      | [] => lowerFrom ns rules stack tokens
      | opener :: _ => .error (opener.token.fault .unclosed)

/-- The native text of a source. -/
def compile (ns : List Char) (rules : RuleSet) (source : List Char) : Except Error (List Char) := do
  lowerFrom ns rules [] (← tokenize ns source)

end Stencil.Directive
