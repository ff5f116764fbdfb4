import Stencil.Engine.Methods

/-! # Rendering — templates executed for fragments

    An artifact is executed against a scope: its script is built once and held
    until its code changes.  A component whose gate is shut renders to nothing;
    one with a count is executed once for each pass, with its closure preparing
    the scope; one without items falls back on its other template or, if it has a
    closure, renders to nothing.  A view is executed and then put into its
    layout.  Faults that have no template yet become the executed template's. -/

namespace Stencil.Engine

/-- The name under which a template sees the fragment it is rendered for. -/
def callerName : String := "this"

/-- The name under which a layout sees what its view rendered to. -/
def contentName : String := "content"

/-- The code of an artifact; one that is no text cannot be executed. -/
def codeOf (artifact : Artifact) : Engine String :=
  match artifact.code.text? with
  | some code => pure code
  | none => fail .noMember

/-- The script of an artifact at a site: the one held, if its code is the same, else a new one. -/
def scriptOf [Substrate] (site : Nat) (artifact : Artifact) : Engine Script := do
  let code ← codeOf artifact
  let world ← get
  let s := world.site site
  let held := (s.held.get? artifact.template).filter fun found => found.1 == code
  match held with
  | some (_, script) => return script
  | none =>
    match Substrate.build code with
    | .error cause => throw (.unrenderable artifact.template cause)
    | .ok script =>
      set (world.setSite site { s with held := s.held.put artifact.template (code, script) })
      return script

/-- The variables of a scope, whose keys must be texts. -/
def variablesOf : Scope → Engine Variables
  | [] => pure []
  | (name, v) :: scope =>
    match name.text? with
    | some name => do return (name, v) :: (← variablesOf scope)
    | none => fail .badType

/-- Runs a computation for a template, whose own faults keep no other name. -/
def within {α : Type} (template : TemplateId) (x : Engine α) : Engine α :=
  tryCatch x fun fault => throw (fault.within template)

/-- The output of an artifact at a site for a scope and a caller. -/
def execute [Substrate] (render : Handle → Engine String) (site : Nat) (artifact : Artifact)
    (scope : Scope) (caller : Option Value) : Engine String := do
  let script ← scriptOf site artifact
  within artifact.template do
    let vars ← variablesOf scope
    let vars :=
      match caller with
      | some v => (callerName, v) :: vars
      | none => vars
    play render (script ((← get).site site).strict vars)

section Rendering

variable [Substrate] [FileSystem]

/-- The output of a template for a fragment's scope. -/
def executeFor (render : Handle → Engine String) (handle : Handle) (role : Role) (name : String)
    (scope : Scope) : Engine String := do
  let site := (← get).siteOf handle
  let artifact ← resolve site ⟨role, name⟩
  execute render site artifact scope (some (.fragment handle))

/-! ## Components -/

/-- One execution of a component with its present template and scope. -/
def executeComponent (render : Handle → Engine String) (i : Nat) : Engine String := do
  let c := (← get).component i
  executeFor render (.component i) .component c.template c.vars

/-- The passes of a component from a number on, each prepared by the closure if there is one. -/
def passesFrom (render : Handle → Engine String) (i : Nat) (closure : Option Closure) :
    Nat → Nat → Engine String
  | _, 0 => pure ""
  | index, count + 1 => do
    match closure with
    | some closure => prepare i closure index
    | none => pure ()
    let out ← executeComponent render i
    return out ++ (← passesFrom render i closure (index + 1) count)

/-- A component rendered. -/
def renderComponent (render : Handle → Engine String) (i : Nat) : Engine String := do
  let c := (← get).component i
  if c.gate == some false then return ""
  else if c.count != 0 then passesFrom render i c.closure 0 c.count
  else
    match c.fallback? with
    | some other =>
      changeComponent i fun c => { c with template := other }
      executeComponent render i
    | none => if c.closure.isSome then return "" else executeComponent render i

/-! ## Views -/

/-- A view rendered. -/
def renderView (render : Handle → Engine String) (i : Nat) : Engine String := do
  let v := (← get).view i
  let content ← executeFor render (.view i) .view v.template v.vars
  let v := (← get).view i
  match v.layout with
  | none => return content
  | some layout =>
    executeFor render (.view i) .layout layout
      (Value.setEntry (.text contentName) (.text content) v.vars)

/-! ## Fragments inside fragments -/

/-- A fragment rendered, with at most `depth` fragments inside one another. -/
def renderUpTo : Nat → Handle → Engine String
  | 0, _ => trouble .tooDeep
  | depth + 1, .component i => renderComponent (renderUpTo depth) i
  | depth + 1, .view i => renderView (renderUpTo depth) i

/-- A fragment rendered. -/
def render (handle : Handle) : Engine String :=
  renderUpTo (Substrate.depth + 1) handle

end Rendering

end Stencil.Engine
