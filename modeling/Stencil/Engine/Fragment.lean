import Stencil.Value.Basic

/-! # Fragments — components and views

    A fragment has a template, a scope of variables and, if it is a component,
    settings of when and how often it is rendered.  A component is repeated by a
    count, with a closure that prepares the scope of each pass and has no effect
    besides. -/

namespace Stencil

/-- The variables of a fragment in the order in which they were bound. -/
abbrev Scope := List (Value × Value)

/-- What preparing a pass comes to: the scope as it was changed in place, and a scope to take its
    place if there is one. -/
structure Prepared where
  scope : Scope
  replacement : Except Failure (Option Scope)

/-- How the scope of a pass is prepared: by paths into the item for some names, by a name for the
    whole item, by a function of the scope and the pass, by one that sees the data too, or by
    calling a value, which can only fail. -/
inductive Closure where
  | paths (targets : List (Value × Value))
  | name (target : String)
  | counted (prepare : Scope → Nat → Prepared)
  | itemwise (prepare : Scope → Nat → Value → Prepared)
  | called (callee : Value)

/-- A component: a template for a part of a page. -/
structure Component where
  site : Nat
  template : String
  vars : Scope
  count : Nat
  closure : Option Closure
  gate : Option Bool
  data : Value
  other : Option String
deriving Inhabited

/-- A view: a template for a page, which may be put into a layout. -/
structure View where
  site : Nat
  template : String
  vars : Scope
  layout : Option String
deriving Inhabited

namespace Component

/-- A new component. -/
def new (site : Nat) (template : String) : Component where
  site := site
  template := template
  vars := []
  count := 0
  closure := none
  gate := none
  data := .list []
  other := some ""

/-- The template that a component without passes falls back on. -/
def fallback? (c : Component) : Option String :=
  c.other.filter (· != "")

end Component

/-- A new view. -/
def View.new (site : Nat) (template : String) : View :=
  ⟨site, template, [], none⟩

namespace Closure

/-- A closure as a value. -/
def value : Closure → Value
  | .called callee => callee
  | _ => .action (.fails .badType)

end Closure

end Stencil
