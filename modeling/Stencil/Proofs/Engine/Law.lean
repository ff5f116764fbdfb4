import Stencil.Engine.Rendering

/-! # Laws — what holds of computations taken together

    A law is about families of computations, one for each index: what a run does
    to its world, what two runs have in common, what many runs agree on.  One that
    holds of every answer to the requests of a kind, and of one computation after
    another, holds of every dialogue that asks requests of that kind, by recursion
    on the dialogue, and so of every render.  The computations of a family differ
    only in how they render fragments.

    Headlines: `Law.Holds.play`, `Law.Keeps.renderUpTo`. -/

namespace Stencil

/-- A site with the sources of another one, the way they are compiled, and nothing else. -/
def Site.bare (site : Site) : Site :=
  { (default : Site) with sources := site.sources, ns := site.ns, strict := site.strict }

namespace World

/-- A world with the fragments of another one, what its sites are, and nothing else. -/
def bare (world : World) : World :=
  ⟨⟨.empty, .zero false, 0, 0⟩, none, world.sites.map Site.bare, world.components, world.views, []⟩

variable (world : World)

@[simp] theorem component_bare (i : Nat) : world.bare.component i = world.component i := rfl

@[simp] theorem site_bare (i : Nat) : world.bare.site i = (world.site i).bare := by
  rw [site, site, bare, List.getElem?_map]
  cases world.sites[i]? <;> rfl

@[simp] theorem siteOf_bare (handle : Handle) : world.bare.siteOf handle = world.siteOf handle := by
  cases handle <;> rfl

@[simp] theorem templateOf_bare (handle : Handle) :
    world.bare.templateOf handle = world.templateOf handle := by
  cases handle <;> rfl

@[simp] theorem name_bare : world.bare.name = world.name := by
  funext handle
  cases handle <;> rfl

theorem members_bare : world.bare.members = world.members := by
  funext handle
  cases handle <;> rfl

theorem rootsOf_bare : world.bare.rootsOf = world.rootsOf := by
  funext i
  rw [rootsOf, rootsOf, site_bare]
  rfl

theorem partState_bare : world.bare.partState = world.partState := by
  funext part
  cases part with
  | compiler handle => simp only [partState, siteOf_bare, templateOf_bare]
  | site i =>
      rw [partState, partState, rootsOf_bare, site_bare]
      rfl

theorem partKind_bare : world.bare.partKind = world.partKind := by
  funext part
  cases part with
  | compiler handle => simp only [partKind, siteOf_bare, templateOf_bare]
  | site i => rw [partKind, partKind, rootsOf_bare]

/-- What paths and templates see of a world are its fragments and what its sites are. -/
@[simp] theorem surroundings_bare [Substrate] : world.bare.surroundings = world.surroundings := by
  have hfacets : world.bare.facets = world.facets := by
    funext v
    unfold facets
    rw [members_bare, partState_bare, partKind_bare]
  have hcall : world.bare.call = world.call := by
    funext v
    unfold call
    simp only [templateOf_bare]
  rw [surroundings, surroundings, hfacets, hcall, name_bare]

/-- Calling a value ends with a trouble if it does not give a value. -/
theorem exists_trouble_of_call {v : Value} {fault : Fault} (h : world.call v = .error fault) :
    ∃ cause, fault = .trouble cause := by
  unfold call at h
  split at h
  · next outcome =>
    cases hrun : BindPath.run outcome with
    | ok found =>
        rw [hrun] at h
        cases h
    | error failure =>
        rw [hrun] at h
        cases h
        exact ⟨_, rfl⟩
  · cases h
  · cases h
    exact ⟨_, rfl⟩

/-- Looking up a segment ends with a trouble if it does not give a value. -/
theorem exists_trouble_of_valueAt [Substrate] {v : Value} {segment : String} {fault : Fault}
    (h : BindPath.valueAt world.surroundings v segment = .error fault) :
    ∃ cause, fault = .trouble cause := by
  rw [BindPath.valueAt] at h
  cases hfound : BindPath.lookup world.surroundings v segment with
  | error cause =>
      rw [hfound] at h
      cases h
      exact ⟨cause, rfl⟩
  | ok found =>
      rw [hfound] at h
      cases found with
      | missing => cases h
      | value v => cases h
      | calling callee =>
          cases hcall : world.call callee with
          | error other =>
              have hother : fault = other := by
                change (world.call callee).map some = _ at h
                rw [hcall] at h
                cases h
                rfl
              exact hother ▸ world.exists_trouble_of_call hcall
          | ok v =>
              change (world.call callee).map some = _ at h
              rw [hcall] at h
              cases h

end World

namespace Engine

/-! ## Executions -/

/-- The output of a script at a site for a scope and a caller. -/
def runFor [Substrate] (render : Handle → Engine String) (site : Nat) (scope : Scope)
    (caller : Option Value) (script : Script) : Engine String := do
  let vars ← variablesOf scope
  let vars :=
    match caller with
    | some v => (callerName, v) :: vars
    | none => vars
  play render (script ((← get).site site).strict vars)

theorem execute_eq_bind [Substrate] (render : Handle → Engine String) (site : Nat)
    (artifact : Artifact) (scope : Scope) (caller : Option Value) :
    execute render site artifact scope caller = scriptOf site artifact >>= fun script =>
      within artifact.template (runFor render site scope caller script) :=
  rfl

/-! ## Laws -/

/-- A law of families of computations, one for each index. -/
structure Law (ι : Type) where
  Holds {α : Type} (family : ι → Engine α) : Prop

namespace Law

variable {ι α β : Type} {K : Law ι}

/-- A law holds of a computation that is the same at every index. -/
def Keeps (K : Law ι) (x : Engine α) : Prop := K.Holds fun _ => x

/-- A law that holds of nothing done, of troubles, of one computation after another, and of a
    computation that reads the fragments of the world. -/
class Flow (K : Law ι) : Prop where
  pure {α : Type} (a : α) : K.Keeps (pure a)
  bind {α β : Type} {x : ι → Engine α} {f : ι → α → Engine β} (hx : K.Holds x)
    (hf : ∀ a, K.Holds fun j => f j a) : K.Holds fun j => x j >>= f j
  stop {α : Type} (cause : Trouble) : K.Keeps (trouble cause : Engine α)
  read {β : Type} {f : World → Engine β} (hbare : ∀ world, f world.bare = f world)
    (h : ∀ world, K.Keeps (f world)) : K.Keeps (get >>= f)

/-- A law that holds of each step that changes a stream or a component but no scope: streams are
    taken from, components made, and gates, counts, closures that no function is, data, other
    templates and the templates themselves are set. -/
class Shaping (K : Law ι) : Prop extends Flow K where
  drain (id : Nat) : K.Keeps (drain id)
  next (id : Nat) : K.Keeps (next id)
  newComponent (site : Nat) (template : String) : K.Keeps (newComponent site template)
  setGate (i : Nat) (isOpen : Bool) :
    K.Keeps (changeComponent i fun c => { c with gate := some isOpen })
  setCount (i count : Nat) (callee : Option Value) :
    K.Keeps (changeComponent i fun c => { c with count, closure := callee.bind countedClosure? })
  setItems (i : Nat) (other : Option String) (data : Value) :
    K.Keeps (changeComponent i fun c => { c with other, data })
  setLength (i count : Nat) : K.Keeps (changeComponent i fun c => { c with count })
  setBinds (i : Nat) {binds : Value} {closure : Option Closure}
    (hbinds : closureOf binds = .ok closure) :
    K.Keeps (changeComponent i fun c => { c with closure })
  alterData (i : Nat) (change : Value → Value) :
    K.Keeps (changeComponent i fun c => { c with data := change c.data })
  redirect (i site : Nat) (template : String) :
    K.Keeps (changeComponent i fun c => { c with site, template })

/-- A law that holds of setting layouts too. -/
class Settling (K : Law ι) : Prop extends Shaping K where
  setLayout (i : Nat) (layout : Option String) : K.Keeps (changeView i fun v => { v with layout })

/-- A law that holds of each step that a template can ask for, but for the rendering of fragments,
    changes of scopes in place and the reading of files. -/
class Evaluating (K : Law ι) : Prop extends Settling K where
  bindValue (handle : Handle) (name value : Value) : K.Keeps (Engine.bind handle name value)

/-- A law that holds of each step that a template can ask for, the rendering of fragments apart. -/
class Asking (K : Law ι) : Prop extends Evaluating K where
  alterScope (handle : Handle) (change : Scope → Scope) : K.Keeps (changeVars handle change)
  files : K.Keeps (do return (← get).host.files)

/-! ## Computations put together -/

section Flowing

variable [K.Flow]

/-- One computation after another. -/
theorem Holds.bind {x : ι → Engine α} {f : ι → α → Engine β} (hx : K.Holds x)
    (hf : ∀ a, K.Holds fun j => f j a) : K.Holds fun j => x j >>= f j :=
  Flow.bind hx hf

namespace Keeps

theorem pure (a : α) : K.Keeps (pure a) := Flow.pure a

theorem bind {x : Engine α} {f : α → Engine β} (hx : K.Keeps x) (hf : ∀ a, K.Keeps (f a)) :
    K.Keeps (x >>= f) :=
  Flow.bind hx hf

theorem map {x : Engine α} (f : α → β) (hx : K.Keeps x) : K.Keeps (f <$> x) := by
  rw [map_eq_pure_bind]
  exact hx.bind fun a => pure (f a)

/-- A computation that reads the fragments of the world. -/
theorem read {f : World → Engine β} (hbare : ∀ world, f world.bare = f world)
    (h : ∀ world, K.Keeps (f world)) : K.Keeps (get >>= f) :=
  Flow.read hbare h

theorem mapRead {f : World → β} (hbare : ∀ world, f world.bare = f world) :
    K.Keeps (f <$> get) := by
  rw [map_eq_pure_bind]
  exact read (fun world => congrArg Pure.pure (hbare world)) fun world => pure (f world)

theorem trouble (cause : Trouble) : K.Keeps (trouble cause : Engine α) := Flow.stop cause

theorem fail (failure : Failure) : K.Keeps (fail failure : Engine α) :=
  trouble (.failure failure)

theorem ofTrouble (result : Except Trouble α) : K.Keeps (ofTrouble result) := by
  cases result with
  | ok a => exact pure a
  | error cause => exact trouble cause

attribute [simp] pure bind map read mapRead trouble fail ofTrouble

/-! ## Names, keys and paths -/

theorem checkKey (v : Value) : K.Keeps (checkKey v) := by
  unfold Engine.checkKey
  split
  · split <;> simp
  · split <;> simp

theorem nameOf (v : Value) : K.Keeps (nameOf v) := by
  unfold Engine.nameOf
  split <;> simp

theorem pathOf (v : Value) : K.Keeps (pathOf v) := by
  unfold Engine.pathOf
  split
  · simp
  · exact nameOf _

attribute [simp] checkKey nameOf pathOf

theorem itemAt (i index : Nat) : K.Keeps (itemAt i index) := by
  rw [Engine.itemAt]
  refine read (fun _ => rfl) fun world => ?_
  simp only
  split <;> simp

theorem fallbackOf (v : Option Value) : K.Keeps (fallbackOf v) := by
  unfold Engine.fallbackOf
  split
  · simp
  · simp
  · split <;> simp

/-- What holds of a change of a fragment's variables holds of a binding. -/
theorem bindIn {handle : Handle} (hvars : ∀ change, K.Keeps (changeVars handle change))
    (name value : Value) : K.Keeps (Engine.bind handle name value) :=
  (checkKey name).bind fun _ => hvars _

end Keeps

end Flowing

/-! ## Preparing a pass -/

section Preparing

variable [K.Flow] {i : Nat} (hvars : ∀ change, K.Keeps (changeVars (.component i) change))
  (hmissing : ∀ shape segment template, K.Keeps (throw (.noVariable shape segment template)
    : Engine Value))

namespace Keeps

include hmissing in
/-- Following a path ends at a value, with a trouble, or for a variable that is not there. -/
theorem follow [Substrate] (world : World) (template : String) (v : Value)
    (segments : List String) :
    K.Keeps (ofFault (BindPath.follow world.surroundings template v segments)) := by
  induction segments generalizing v with
  | nil => exact pure v
  | cons segment segments ih =>
      rw [BindPath.follow]
      split
      · exact pure v
      · split
        · next fault hfault =>
          obtain ⟨cause, rfl⟩ := world.exists_trouble_of_valueAt hfault
          exact trouble cause
        · exact hmissing _ _ _
        · exact ih _

include hvars hmissing in
theorem bindPaths [Substrate] (item : Value) (targets : List (Value × Value)) :
    K.Keeps (bindPaths i item targets) := by
  induction targets with
  | nil => exact pure ()
  | cons target targets ih =>
      refine (pathOf target.2).bind fun way => read (fun world => ?_) fun world => ?_
      · simp only [World.surroundings_bare, World.component_bare]
      · exact (follow hmissing _ _ _ _).bind fun found => (hvars _).bind fun _ => ih

include hvars in
theorem takeScope (prepared : Prepared) : K.Keeps (takeScope i prepared) := by
  refine (hvars _).bind fun _ => ?_
  split
  · exact pure ()
  · exact hvars _
  · exact fail _

include hvars hmissing in
/-- Preparing a pass only changes the variables of its component. -/
theorem prepare [Substrate] (closure : Closure) (index : Nat) :
    K.Keeps (prepare i closure index) := by
  unfold Engine.prepare
  split
  · exact (itemAt i index).bind fun item => bindPaths hvars hmissing item _
  · exact (itemAt i index).bind fun item => hvars _
  · exact read (fun _ => rfl) fun world => takeScope hvars _
  · exact read (fun _ => rfl) fun world => takeScope hvars _
  · exact trouble _
  · exact fail _

end Keeps

end Preparing

/-! ## Settings -/

namespace Keeps

section Settings

variable [K.Shaping]

theorem drain (id : Nat) : K.Keeps (drain id) := Shaping.drain id

attribute [simp] drain

theorem gate (i : Nat) (condition : Value) : K.Keeps (gate i condition) :=
  (ofTrouble condition.truth).bind fun isOpen => Shaping.setGate i isOpen

/-- What holds of setting any count with a closure holds of repeating by a value. -/
theorem repeatWith {i : Nat} {closure : Option Closure}
    (hset : ∀ count : Nat, K.Keeps (changeComponent i fun c => { c with count, closure }))
    (count : Value) : K.Keeps (Engine.repeatBy i count closure) :=
  (ofTrouble count.toInt).bind fun n => hset n.toNat

theorem repeatBy (i : Nat) (count : Value) (callee : Option Value) :
    K.Keeps (repeatBy i count (callee.bind countedClosure?)) :=
  repeatWith (fun n => Shaping.setCount i n callee) count

theorem itemsOf (data : Value) : K.Keeps (itemsOf data) := by
  unfold Engine.itemsOf
  split
  · simp
  · simp
  · split <;> simp
  · split <;> simp

/-- What holds of setting the closure that the binds stand for holds of repeating over data. -/
theorem eachWith {i : Nat} {closure : Except Trouble (Option Closure)}
    (hset : ∀ made, closure = .ok made →
      K.Keeps (changeComponent i fun c => { c with closure := made }))
    (data : Value) (other : Option String) : K.Keeps (Engine.each i data closure other) := by
  refine (itemsOf data).bind fun data => Keeps.bind (Shaping.setItems i _ _) fun _ =>
    (ofTrouble data.count).bind fun count => Keeps.bind (Shaping.setLength i count) fun _ => ?_
  cases closure with
  | error cause => exact trouble cause
  | ok made => exact hset made rfl

theorem each (i : Nat) (data binds : Value) (other : Option String) :
    K.Keeps (each i data (closureOf binds) other) :=
  eachWith (fun _ hbinds => Shaping.setBinds i hbinds) data other

theorem redirect (i : Nat) (environment template : Value) :
    K.Keeps (redirect i environment template) := by
  unfold Engine.redirect
  split
  · exact (nameOf template).bind fun name => Shaping.redirect i _ name
  · simp
  · simp

omit [K.Shaping] in
theorem extend [K.Settling] (i : Nat) (layout : Value) : K.Keeps (extend i layout) := by
  rw [Engine.extend]
  refine (ofTrouble _).bind fun b => ?_
  split
  · exact (nameOf layout).bind fun name => Settling.setLayout i (some name)
  · exact Settling.setLayout i none

/-! ## Methods -/

theorem onComponent (handle : Handle) {setting : Nat → Engine Unit}
    (h : ∀ i, K.Keeps (setting i)) : K.Keeps (onComponent handle setting) := by
  unfold Engine.onComponent
  split
  · exact (h _).bind fun _ => pure _
  · simp

/-- What holds of a binding holds of several. -/
theorem bindEntriesWith {handle : Handle}
    (hbind : ∀ name value, K.Keeps (Engine.bind handle name value))
    (entries : List (Value × Value)) : K.Keeps (bindEntries handle entries) := by
  induction entries with
  | nil => exact pure ()
  | cons entry entries ih => exact (hbind entry.1 entry.2).bind fun _ => ih

/-- What holds of a binding holds of all that are in a map. -/
theorem bindAllWith {handle : Handle}
    (hbind : ∀ name value, K.Keeps (Engine.bind handle name value)) (scope : Value) :
    K.Keeps (bindAll handle scope) := by
  unfold Engine.bindAll
  split
  · exact bindEntriesWith hbind _
  · simp
  · simp

end Settings

end Keeps

/-! ## Families of answers -/

section Families

variable {render : ι → Handle → Engine String}

/-- Calling a method of a fragment, if what the method binds or what layout it sets is kept. -/
theorem callWith [K.Shaping] (hrender : ∀ handle, K.Holds fun j => render j handle)
    {handle : Handle} {method : Method}
    (hbind : method = .bind ∨ method = .multipleBind →
      ∀ name value, K.Keeps (Engine.bind handle name value))
    (hextend : method = .extend → ∀ i, handle = .view i → ∀ layout, K.Keeps (extend i layout))
    (values : List (Option Value)) :
    K.Holds fun j => callWith (render j) handle method values := by
  unfold Engine.callWith
  split
  · exact Keeps.bind (hbind (.inl rfl) _ _) fun _ => Keeps.pure _
  · exact Keeps.bind (Keeps.bindAllWith (hbind (.inr rfl)) _) fun _ => Keeps.pure _
  · exact Keeps.onComponent handle fun i => Keeps.gate i _
  · exact Keeps.onComponent handle fun i => Keeps.repeatBy i _ _
  · exact Keeps.bind (Keeps.fallbackOf _) fun other =>
      Keeps.onComponent handle fun i => Keeps.each i _ _ _
  · cases handle with
    | component i => exact Keeps.fail _
    | view i => exact Keeps.bind (hextend rfl i rfl _) fun _ => Keeps.pure _
  · refine Keeps.bind (Keeps.nameOf _) fun template =>
      Keeps.read (fun world => ?_) fun world => ?_
    · simp only [World.siteOf_bare]
    · exact Keeps.bind (Shaping.newComponent _ template) fun other => Keeps.pure _
  · exact Keeps.onComponent handle fun i => Keeps.redirect i _ _
  · exact (hrender handle).bind fun out => Keeps.pure _
  · exact Keeps.read (fun world => by simp only [World.templateOf_bare]) fun world =>
      Keeps.pure _
  · exact Keeps.fail _

theorem callMethod [K.Shaping] (hrender : ∀ handle, K.Holds fun j => render j handle)
    {handle : Handle} {method : Method}
    (hbind : method = .bind ∨ method = .multipleBind →
      ∀ name value, K.Keeps (Engine.bind handle name value))
    (hextend : method = .extend → ∀ i, handle = .view i → ∀ layout, K.Keeps (extend i layout))
    (plain : List Value) (named : List (String × Value)) :
    K.Holds fun j => callMethod (render j) handle method plain named := by
  unfold Engine.callMethod
  cases fill? (parametersOf method) plain named with
  | some values => exact callWith hrender hbind hextend values
  | none => exact Keeps.fail _

end Families

/-! ## Dialogues -/

/-- A law that holds of every answer to the requests of a kind, if it holds of the rendering of
    fragments. -/
class Answering [Substrate] (K : Law ι) (kind : outParam (Request → Prop)) : Prop
    extends Flow K where
  answer {render : ι → Handle → Engine String}
    (hrender : ∀ handle, K.Holds fun j => render j handle)
    {r : Request} (hr : kind r) : K.Holds fun j => answer (render j) r

variable [Substrate] {kind : Request → Prop}

/-- **Every dialogue**: a law that holds of every answer to the requests of a kind, and of the
    rendering of every fragment, holds of carrying out any dialogue that asks such requests. -/
theorem Holds.play [K.Answering kind] {render : ι → Handle → Engine String}
    (hrender : ∀ handle, K.Holds fun j => render j handle) {d : Dialogue α} (h : d.Asks kind) :
    K.Holds fun j => play (render j) d := by
  induction d with
  | done a => exact Keeps.pure a
  | stop cause => exact Keeps.trouble cause
  | ask r next ih =>
      exact (Answering.answer hrender h.1).bind fun a => ih a (h.2 a)

/-- A law that holds of each step that changes no scope holds of the answers to requests, as far as
    it holds of calls of methods, of changes of scopes in place and of the reading of files. -/
theorem Shaping.answer [K.Shaping] {render : ι → Handle → Engine String}
    (hrender : ∀ handle, K.Holds fun j => render j handle) {r : Request}
    (hcall : ∀ handle method plain named, r = .call handle method plain named →
      K.Holds fun j => Engine.callMethod (render j) handle method plain named)
    (hscope : ∀ handle change, r = .alterScope handle change → K.Keeps (changeVars handle change))
    (hfiles : r = .files → K.Keeps (do return (← get).host.files)) :
    K.Holds fun j => Engine.answer (render j) r := by
  cases r with
  | look =>
      exact Keeps.read (fun world => by simp only [World.surroundings_bare]) fun world =>
        Keeps.pure _
  | next stream => exact Shaping.next stream
  | render handle => exact hrender handle
  | call handle method plain named => exact hcall handle method plain named rfl
  | alterScope handle change => exact hscope handle change rfl
  | alterData i change => exact Shaping.alterData i change
  | files => exact hfiles rfl

/-- A law that holds of most steps that a template can ask for holds of the answers to requests,
    as far as it holds of changes of scopes in place and of the reading of files. -/
theorem Evaluating.answer [K.Evaluating] {render : ι → Handle → Engine String}
    (hrender : ∀ handle, K.Holds fun j => render j handle) {r : Request}
    (hscope : ∀ handle change, r = .alterScope handle change → K.Keeps (changeVars handle change))
    (hfiles : r = .files → K.Keeps (do return (← get).host.files)) :
    K.Holds fun j => Engine.answer (render j) r :=
  Shaping.answer hrender (fun handle _ plain named _ => callMethod hrender
    (fun _ => Evaluating.bindValue handle) (fun _ i _ => Keeps.extend i) plain named) hscope hfiles

/-- A law that holds of each step that a template can ask for holds of the answers to all
    requests. -/
instance [K.Asking] : K.Answering fun _ => True where
  answer hrender _ _ :=
    Evaluating.answer hrender (fun handle change _ => Asking.alterScope handle change)
      fun _ => Asking.files

/-! ## Renders -/

/-- A law that holds of each step of a render too: of answers to the requests of a kind, of changes
    of scopes and of templates that are fallen back on, of what a missing variable comes to, of
    reading whether a site is strict, of resolving, and of what comes behind a script and stands
    inside a template.  What comes behind a script may be taken to ask requests of the kind only. -/
class Executing [FileSystem] (K : Law ι) (kind : outParam (Request → Prop)) : Prop
    extends Answering K kind where
  changeVars (handle : Handle) (change : Scope → Scope) : K.Keeps (changeVars handle change)
  setTemplate (i : Nat) (template : String) :
    K.Keeps (changeComponent i fun c => { c with template })
  noVariable (shape : Shape) (segment template : String) :
    K.Keeps (throw (.noVariable shape segment template) : Engine Value)
  resolve (site : Nat) (template : TemplateId) : K.Keeps (resolve site template)
  script {β : Type} (site : Nat) (artifact : Artifact) {f : Script → Engine β}
    (h : ∀ script : Script, script.Asks kind → K.Keeps (f script)) :
    K.Keeps (scriptOf site artifact >>= f)
  within {α : Type} (template : TemplateId) {x : Engine α} (hx : K.Keeps x) :
    K.Keeps (within template x)

namespace Keeps

omit [Substrate] in
theorem codeOf [K.Flow] (artifact : Artifact) : K.Keeps (codeOf artifact) := by
  unfold Engine.codeOf
  split <;> simp

omit [Substrate] in
theorem variablesOf [K.Flow] (scope : Scope) : K.Keeps (variablesOf scope) := by
  induction scope with
  | nil => exact pure []
  | cons entry scope ih =>
      rw [Engine.variablesOf]
      split
      · exact ih.bind fun vars => pure _
      · exact fail _

theorem runFor [K.Answering kind] {render : Handle → Engine String}
    (hrender : ∀ handle, K.Keeps (render handle)) (site : Nat) (scope : Scope)
    (caller : Option Value) {script : Script} (h : script.Asks kind) :
    K.Keeps (runFor render site scope caller script) :=
  (variablesOf scope).bind fun vars =>
    read (fun world => by rw [World.site_bare]; rfl) fun world =>
      Holds.play (K := K) hrender (h _ _)

section Renders

variable [FileSystem] [hK : K.Executing kind] {render : Handle → Engine String}
  (hrender : ∀ handle, K.Keeps (render handle))
include hK hrender

theorem execute (site : Nat) (artifact : Artifact) (scope : Scope) (caller : Option Value) :
    K.Keeps (execute render site artifact scope caller) :=
  Executing.script site artifact fun _ h =>
    Executing.within artifact.template (runFor hrender site scope caller h)

theorem executeFor (handle : Handle) (role : Role) (name : String) (scope : Scope) :
    K.Keeps (executeFor render handle role name scope) := by
  refine read (fun world => ?_) fun world => ?_
  · simp only [World.siteOf_bare]
  · exact Keeps.bind (Executing.resolve _ _) fun artifact => execute hrender _ artifact scope _

theorem executeComponent (i : Nat) : K.Keeps (executeComponent render i) :=
  read (fun _ => rfl) fun _ => executeFor hrender _ _ _ _

theorem passesFrom (i : Nat) (closure : Option Closure) (index count : Nat) :
    K.Keeps (passesFrom render i closure index count) := by
  induction count generalizing index with
  | zero => exact pure ""
  | succ count ih =>
      have hpass : K.Keeps (Engine.executeComponent render i >>= fun out => do
          return out ++ (← Engine.passesFrom render i closure (index + 1) count)) :=
        (executeComponent hrender i).bind fun out => (ih (index + 1)).bind fun more => pure _
      unfold Engine.passesFrom
      cases closure with
      | none => exact hpass
      | some closure =>
          exact (prepare (Executing.changeVars _) Executing.noVariable closure index).bind
            fun _ => hpass

theorem renderComponent (i : Nat) : K.Keeps (renderComponent render i) := by
  have hwhole : K.Keeps (Engine.executeComponent render i) := executeComponent hrender i
  refine read (fun _ => rfl) fun world => ?_
  simp only
  split
  · exact pure ""
  · split
    · exact passesFrom hrender i _ 0 _
    · split
      · exact Keeps.bind (Executing.setTemplate i _) fun _ => hwhole
      · split
        · exact pure ""
        · exact hwhole

theorem renderView (i : Nat) : K.Keeps (renderView render i) := by
  refine read (fun _ => rfl) fun world => (executeFor hrender _ _ _ _).bind fun content => ?_
  refine read (fun _ => rfl) fun next => ?_
  simp only
  split
  · exact pure content
  · exact executeFor hrender _ _ _ _

omit hrender

/-- **Every render**: a law that holds of each step of a render holds of every render. -/
theorem renderUpTo (depth : Nat) (handle : Handle) : K.Keeps (renderUpTo depth handle) := by
  induction depth generalizing handle with
  | zero => exact trouble _
  | succ depth ih =>
      cases handle with
      | component i => exact renderComponent ih i
      | view i => exact renderView ih i

end Renders

end Keeps

end Law

end Engine

end Stencil
