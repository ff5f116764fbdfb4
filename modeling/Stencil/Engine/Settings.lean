import Stencil.Engine.World
import Stencil.Value.Operators

/-! # Settings — what is set on fragments before they are rendered

    Values are bound under names, a text escaped on the way.  A component has a
    gate, a count with a closure, the data of its last repetition over items,
    and a template to fall back on, and can be given another template; a view has
    a layout.  Settings are checked
    where they are made: what went before a failing check stays set. -/

namespace Stencil.Engine

/-- Changes a component. -/
def changeComponent (i : Nat) (change : Component → Component) : Engine Unit :=
  modify fun world => world.setComponent i (change (world.component i))

/-- Changes a view. -/
def changeView (i : Nat) (change : View → View) : Engine Unit :=
  modify fun world => world.setView i (change (world.view i))

/-- Changes the variables of a fragment. -/
def changeVars (handle : Handle) (change : Scope → Scope) : Engine Unit :=
  match handle with
  | .component i => changeComponent i fun c => { c with vars := change c.vars }
  | .view i => changeView i fun v => { v with vars := change v.vars }

/-- Refuses a value that cannot be a key. -/
def checkKey (v : Value) : Engine Unit :=
  match v with
  | .absent absence => if absence.strict then trouble (.absent absence.message) else pure ()
  | v => if v.isKey then pure () else fail .badType

/-- Binds a value under a name. -/
def bind (handle : Handle) (name value : Value) : Engine Unit := do
  checkKey name
  changeVars handle (Value.setEntry name value.bound)

/-- Binds the values of entries under their keys, one after the other. -/
def bindEntries (handle : Handle) : List (Value × Value) → Engine Unit
  | [] => pure ()
  | (name, value) :: entries => do
    bind handle name value
    bindEntries handle entries

/-- Binds the values of a map under their keys. -/
def bindAll (handle : Handle) (scope : Value) : Engine Unit :=
  match scope with
  | .map entries => bindEntries handle entries
  | .absent absence => trouble (.absent absence.message)
  | _ => fail .noMember

/-- Opens or shuts the gate of a component. -/
def gate (i : Nat) (condition : Value) : Engine Unit := do
  let isOpen ← ofTrouble condition.truth
  changeComponent i fun c => { c with gate := some isOpen }

/-- The closure that a value given for a count stands for. -/
def countedClosure? (v : Value) : Option Closure :=
  match v with
  | .null => none
  | v => some (.called v)

/-- Repeats a component by a count; a negative count is no repetition. -/
def repeatBy (i : Nat) (count : Value) (closure : Option Closure) : Engine Unit := do
  let n ← ofTrouble count.toInt
  changeComponent i fun c => { c with count := n.toNat, closure }

/-- The data of a repetition over items: maps and sequences as they are, other collections as
    lists. -/
def itemsOf (data : Value) : Engine Value := do
  match data with
  | .set items => return .list items
  | .stream id => return .list (← drain id)
  | .absent absence =>
    if absence.strict then trouble (.absent absence.message) else return .list []
  | data => if data.items?.isSome then return data else fail .badType

/-- The closure that the binds of a repetition over items stand for. -/
def closureOf (binds : Value) : Except Trouble (Option Closure) :=
  match binds with
  | .null => .ok none
  | .map targets => .ok (some (.paths targets))
  | .text name => .ok (some (.name name))
  | .safe name => .ok (some (.name name))
  | .absent _ => .ok (some (.called binds))
  | binds =>
    if binds.isCallable then .ok (some (.called binds)) else .error (.badBinds binds.typeName)

/-- Repeats a component over the items of data, or falls back on another template when there are
    none. -/
def each (i : Nat) (data : Value) (closure : Except Trouble (Option Closure))
    (other : Option String) : Engine Unit := do
  let data ← itemsOf data
  changeComponent i fun c => { c with other, data }
  let count ← ofTrouble data.count
  changeComponent i fun c => { c with count }
  let closure ← ofTrouble closure
  changeComponent i fun c => { c with closure }

/-- The text of a name given as a value, which is looked up as soon as it is needed. -/
def nameOf (v : Value) : Engine String :=
  match v, v.text? with
  | .absent absence, _ => trouble (.absent absence.message)
  | _, some s => pure s
  | _, none => fail .noMember

/-- Gives a component another template, of the site that a part of the engine is. -/
def redirect (i : Nat) (environment template : Value) : Engine Unit :=
  match environment with
  | .part (.site site) => do
    let name ← nameOf template
    changeComponent i fun c => { c with site, template := name }
  | .absent absence => trouble (.absent absence.message)
  | _ => fail .noMember

/-- Puts a view into a layout, or takes it out. -/
def extend (i : Nat) (layout : Value) : Engine Unit := do
  if ← ofTrouble layout.truth then
    let name ← nameOf layout
    changeView i fun v => { v with layout := some name }
  else changeView i fun v => { v with layout := none }

/-! ## Preparing a pass -/

/-- The item of a component's data for a pass. -/
def itemAt (i index : Nat) : Engine Value := do
  let data := ((← get).component i).data
  match (data.items?.getD [])[index]? with
  | some item => return item
  | none => fail .noIndex

/-- The text of a path, which bytes cannot be. -/
def pathOf (v : Value) : Engine String :=
  match v with
  | .bytes _ => fail .badType
  | v => nameOf v

/-- Binds what paths lead to in an item. -/
def bindPaths [Substrate] (i : Nat) (item : Value) : List (Value × Value) → Engine Unit
  | [] => pure ()
  | (target, path) :: targets => do
    let way ← pathOf path
    let world ← get
    let found ← ofFault (BindPath.resolve world.surroundings item way (world.component i).template)
    changeVars (.component i) (Value.setEntry target found.bound)
    bindPaths i item targets

/-- The scope that a function of the scope has prepared. -/
def takeScope (i : Nat) (prepared : Prepared) : Engine Unit := do
  changeVars (.component i) fun _ => prepared.scope
  match prepared.replacement with
  | .ok none => pure ()
  | .ok (some scope) => changeVars (.component i) fun _ => scope
  | .error failure => fail failure

/-- Prepares the scope of a component for a pass. -/
def prepare [Substrate] (i : Nat) (closure : Closure) (index : Nat) : Engine Unit := do
  match closure with
  | .paths targets => bindPaths i (← itemAt i index) targets
  | .name target =>
    let item ← itemAt i index
    changeVars (.component i) (Value.setEntry (.text target) item.bound)
  | .counted f => takeScope i (f ((← get).component i).vars index)
  | .itemwise f =>
    let c := (← get).component i
    takeScope i (f c.vars index c.data)
  | .called (.absent absence) => trouble (.absent absence.message)
  | .called _ => fail .badType

end Stencil.Engine
