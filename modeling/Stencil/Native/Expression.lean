import Stencil.Value.Operators

/-! # Native templates — expressions and blocks

    The native form of a template is text with blocks: expressions whose value
    is put in, conditionals, loops and assignments.  Expressions are the usual
    ones over values, with filters and tests behind them.  A call without named
    arguments of a member, and an update of the member `variables`, stand apart:
    what is called there may be none of the value's own members. -/

namespace Stencil.Native

/-- A comparison inside a chain. -/
inductive Comparison where
  | same
  | different
  | ordered (op : Value.Ordered)
  | inside
  | outside
deriving DecidableEq, Repr

/-- An expression. -/
inductive Expr where
  | const (v : Value)
  | name (name : String)
  | list (items : List Expr)
  | tuple (items : List Expr)
  | map (entries : List (Expr × Expr))
  | member (subject : Expr) (name : String)
  | item (subject index : Expr)
  | call (callee : Expr) (arguments : List Expr) (named : List (String × Expr))
  | invoke (subject : Expr) (name : String) (arguments : List Expr)
  | update (subject entries : Expr)
  | filter (subject : Expr) (name : String) (arguments : List Expr) (named : List (String × Expr))
  | test (subject : Expr) (name : String) (arguments : List Expr)
  | signed (turned : Bool) (operand : Expr)
  | negation (operand : Expr)
  | binary (op : Value.Operator) (left right : Expr)
  | chain (first : Expr) (links : List (Comparison × Expr))
  | concat (parts : List Expr)
  | both (left right : Expr)
  | either (left right : Expr)
  | choice (condition yes no : Expr)
  | guarded (condition yes : Expr) (line : Nat)

instance : Inhabited Expr := ⟨.const .null⟩

/-- What a loop or an assignment binds: one name, or several targets that share out a sequence. -/
inductive Target where
  | one (name : String)
  | several (targets : List Target)
deriving Repr

/-- A part of a template. -/
inductive Node where
  | text (run : String)
  | output (e : Expr)
  | branch (condition : Expr) (body otherwise : List Node)
  | loop (target : Target) (items : Expr) (test : Option Expr) (body otherwise : List Node)
  | assign (target : Target) (e : Expr)

instance : Inhabited Node := ⟨.text ""⟩

/-- A template in its native form. -/
abbrev Program := List Node

/-! ## Filters and tests -/

/-- The filters there are. -/
inductive Filter where
  | default
  | length
  | upper
deriving DecidableEq, Repr

/-- The filter of a name. -/
def filter? (name : String) : Option Filter :=
  [("default", .default), ("d", .default), ("length", .length), ("count", .length),
    ("upper", .upper)].lookup name

/-- The tests there are. -/
inductive Test where
  | defined
  | undefined
  | none
deriving DecidableEq, Repr

/-- The test of a name. -/
def test? (name : String) : Option Test :=
  [("defined", .defined), ("undefined", .undefined), ("none", Test.none)].lookup name

/-! ## Unknown filters and tests

Outside of conditionals an unknown filter or test is refused before anything is rendered. -/

mutual

/-- Whether an expression uses only known filters and tests where it must. -/
def Expr.isKnown (soft : Bool) : Expr → Bool
  | .const _ => true
  | .name _ => true
  | .list items => areKnown soft items
  | .tuple items => areKnown soft items
  | .map entries => arePairsKnown soft entries
  | .member subject _ => subject.isKnown soft
  | .item subject index => subject.isKnown soft && index.isKnown soft
  | .call callee arguments named =>
    callee.isKnown soft && areKnown soft arguments && areNamedKnown soft named
  | .invoke subject _ arguments => subject.isKnown soft && areKnown soft arguments
  | .update subject entries => subject.isKnown soft && entries.isKnown soft
  | .filter subject name arguments named =>
    (soft || (filter? name).isSome) && subject.isKnown soft && areKnown soft arguments &&
      areNamedKnown soft named
  | .test subject name arguments =>
    (soft || (test? name).isSome) && subject.isKnown soft && areKnown soft arguments
  | .signed _ operand => operand.isKnown soft
  | .negation operand => operand.isKnown soft
  | .binary _ left right => left.isKnown soft && right.isKnown soft
  | .chain first links => first.isKnown soft && areLinksKnown soft links
  | .concat parts => areKnown soft parts
  | .both left right => left.isKnown soft && right.isKnown soft
  | .either left right => left.isKnown soft && right.isKnown soft
  | .choice condition yes no => condition.isKnown true && yes.isKnown true && no.isKnown true
  | .guarded condition yes _ => condition.isKnown true && yes.isKnown true

/-- Whether expressions use only known filters and tests where they must. -/
def areKnown (soft : Bool) : List Expr → Bool
  | [] => true
  | e :: es => e.isKnown soft && areKnown soft es

/-- Whether the entries of a map use only known filters and tests where they must. -/
def arePairsKnown (soft : Bool) : List (Expr × Expr) → Bool
  | [] => true
  | (key, value) :: entries => key.isKnown soft && value.isKnown soft && arePairsKnown soft entries

/-- Whether named arguments use only known filters and tests where they must. -/
def areNamedKnown (soft : Bool) : List (String × Expr) → Bool
  | [] => true
  | (_, e) :: named => e.isKnown soft && areNamedKnown soft named

/-- Whether the links of a chain use only known filters and tests where they must. -/
def areLinksKnown (soft : Bool) : List (Comparison × Expr) → Bool
  | [] => true
  | (_, e) :: links => e.isKnown soft && areLinksKnown soft links

end

mutual

/-- Whether a part of a template uses only known filters and tests where it must. -/
def Node.isKnown (soft : Bool) : Node → Bool
  | .text _ => true
  | .output e => e.isKnown soft
  | .branch condition body otherwise =>
    condition.isKnown true && areNodesKnown true body && areNodesKnown true otherwise
  | .loop _ items none body otherwise =>
    items.isKnown soft && areNodesKnown false body && areNodesKnown false otherwise
  | .loop _ items (some test) body otherwise =>
    items.isKnown soft && test.isKnown false && areNodesKnown false body &&
      areNodesKnown false otherwise
  | .assign _ e => e.isKnown soft

/-- Whether the parts of a template use only known filters and tests where they must. -/
def areNodesKnown (soft : Bool) : List Node → Bool
  | [] => true
  | node :: nodes => node.isKnown soft && areNodesKnown soft nodes

end

end Stencil.Native
