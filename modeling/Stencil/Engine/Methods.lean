import Stencil.Engine.Parameter
import Stencil.Engine.Settings

/-! # Methods — what templates ask of fragments

    Most methods of a fragment set something on it and give the fragment back, so
    that they can be chained.  A dialogue is carried out by answering its requests
    one after the other. -/

namespace Stencil.Engine

/-- The parameters of a method. -/
def parametersOf : Method → List Parameter
  | .bind => [⟨"name", true⟩, ⟨"value", true⟩]
  | .multipleBind => [⟨"variables", true⟩]
  | .gate => [⟨"condition", true⟩]
  | .repeated => [⟨"count", true⟩, ⟨"closure", false⟩]
  | .each => [⟨"data", true⟩, ⟨"binds", false⟩, ⟨"other_view", false⟩]
  | .extend => [⟨"layout", true⟩]
  | .component => [⟨"name", true⟩]
  | .redirect => [⟨"environment", true⟩, ⟨"component", true⟩]
  | .render => []
  | .getView => []

/-- The name of the template to fall back on; an empty name or none is no template. -/
def fallbackOf (v : Option Value) : Engine (Option String) := do
  match v with
  | none => return some ""
  | some .null => return none
  | some v => if v.isTrue then return some (← nameOf v) else return some ""

/-- Sets something on a component and gives it back; a view has no such method. -/
def onComponent (handle : Handle) (setting : Nat → Engine Unit) : Engine Value :=
  match handle with
  | .component i => do
    setting i
    return .fragment handle
  | .view _ => fail .noMember

/-- Calls a method of a fragment with the values of its parameters. -/
def callWith (render : Handle → Engine String) (handle : Handle) (method : Method)
    (values : List (Option Value)) :
    Engine Value := do
  match method, values with
  | .bind, [some name, some value] =>
    bind handle name value
    return .fragment handle
  | .multipleBind, [some scope] =>
    bindAll handle scope
    return .fragment handle
  | .gate, [some condition] => onComponent handle fun i => gate i condition
  | .repeated, [some count, closure] =>
    onComponent handle fun i => repeatBy i count (closure.bind countedClosure?)
  | .each, [some data, binds, other] =>
    let other ← fallbackOf other
    onComponent handle fun i => each i data (closureOf (binds.getD .null)) other
  | .extend, [some layout] =>
    match handle with
    | .view i =>
      extend i layout
      return .fragment handle
    | .component _ => fail .noMember
  | .component, [some name] =>
    let template ← nameOf name
    return .fragment (← newComponent ((← get).siteOf handle) template)
  | .redirect, [some environment, some name] =>
    onComponent handle fun i => redirect i environment name
  | .render, [] => return .text (← render handle)
  | .getView, [] => return .text ((← get).templateOf handle)
  | _, _ => fail .badType

/-- Calls a method of a fragment. -/
def callMethod (render : Handle → Engine String) (handle : Handle) (method : Method)
    (plain : List Value) (named : List (String × Value)) : Engine Value :=
  match fill? (parametersOf method) plain named with
  | some values => callWith render handle method values
  | none => fail .badType

/-! ## Requests -/

/-- Answers a request. -/
def answer [Substrate] (render : Handle → Engine String) : (r : Request) → Engine r.Answer
  | .look => do return (← get).surroundings
  | .next stream => next stream
  | .render handle => render handle
  | .call handle method plain named => callMethod render handle method plain named
  | .alterScope handle change => changeVars handle change
  | .alterData i change => changeComponent i fun c => { c with data := change c.data }
  | .files => do return (← get).host.files

/-- Carries a dialogue out. -/
def play [Substrate] {α : Type} (render : Handle → Engine String) : Dialogue α → Engine α
  | .done a => pure a
  | .stop cause => trouble cause
  | .ask r next => do
    let a ← answer render r
    play render (next a)

end Stencil.Engine
