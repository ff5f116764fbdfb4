import Stencil.Proofs.Engine.Law

/-! # Courses — relations that hold along every run

    A computation takes a world to a world and may end with a fault.  A relation
    between the world before, the fault if there is one, and the world after
    respects a computation if it holds whatever world the computation is run in.
    A relation that respects each step that a template can ask for, or that a
    render makes by itself, and that can be composed, respects every render, by
    recursion on the template.

    Headline: `render_respects`. -/

namespace Stencil.Engine

/-! ## Running computations -/

/-- What a computation comes to in a world, and the world after it. -/
def on {α : Type} (x : Engine α) (world : World) : Except Fault α × World :=
  StateT.run (ExceptT.run x) world

variable {α β : Type}

theorem on_get (world : World) : on get world = (.ok world, world) := rfl

theorem on_set (next world : World) : on (set next) world = (.ok (), next) := rfl

theorem on_bind (x : Engine α) (f : α → Engine β) (world : World) :
    on (x >>= f) world = StateT.run (ExceptT.bindCont f (on x world).1) (on x world).2 := rfl

theorem on_bind_ok {x : Engine α} {f : α → Engine β} {world next : World} {a : α}
    (h : on x world = (.ok a, next)) : on (x >>= f) world = on (f a) next := by
  rw [on_bind, h]
  rfl

theorem on_bind_error {x : Engine α} {f : α → Engine β} {world next : World} {fault : Fault}
    (h : on x world = (.error fault, next)) : on (x >>= f) world = (.error fault, next) := by
  rw [on_bind, h]
  rfl

theorem on_changeComponent (i : Nat) (change : Component → Component) (world : World) :
    on (changeComponent i change) world
      = (.ok (), world.setComponent i (change (world.component i))) := rfl

/-- A fault inside a template becomes the template's, and the world is the same. -/
theorem on_within (template : TemplateId) (x : Engine α) (world : World) :
    on (within template x) world
      = ((on x world).1.mapError (Fault.within template), (on x world).2) := by
  rcases hrun : on x world with ⟨outcome, next⟩
  rw [on] at hrun ⊢
  rw [within]
  simp only [tryCatch, tryCatchThe, MonadExceptOf.tryCatch, ExceptT.tryCatch, ExceptT.run_mk,
    StateT.run_bind]
  rw [show @StateT.run World Id _ x world = (outcome, next) from hrun]
  cases outcome <;> rfl

/-! ## Relations along runs -/

/-- A relation between the world before a run, the fault it ends with, and the world after it. -/
abbrev Passage := World → Option Fault → World → Prop

/-- The fault that a computation ended with. -/
def faultOf : Except Fault α → Option Fault
  | .ok _ => none
  | .error fault => some fault

theorem error_of_faultOf {outcome : Except Fault α} {fault : Fault}
    (h : faultOf outcome = some fault) : outcome = .error fault := by
  cases outcome with
  | ok a => cases h
  | error other => rw [Option.some.inj h]

/-- A relation holds along a computation, whatever world it is run in. -/
def Respects (R : Passage) (x : Engine α) : Prop :=
  ∀ world, R world (faultOf (on x world).1) (on x world).2

/-- A relation holds along a computation behind a run from a world. -/
def RespectsFrom (R : Passage) (start : World) (x : Engine α) : Prop :=
  ∀ world, R start none world → R start (faultOf (on x world).1) (on x world).2

/-- A relation holds along the rendering of every fragment. -/
def RendersRespect (R : Passage) (render : Handle → Engine String) : Prop :=
  ∀ handle, Respects R (render handle)

/-- A relation along which runs can be put one after another, and can stop with a trouble or for a
    variable that is not there. -/
class Walk (R : Passage) : Prop where
  refl (world : World) : R world none world
  trans {start middle last : World} {fault? : Option Fault} (h : R start none middle)
    (h' : R middle fault? last) : R start fault? last
  trouble (cause : Trouble) (world : World) : R world (some (.trouble cause)) world
  noVariable (shape : Shape) (segment template : String) (world : World) :
    R world (some (.noVariable shape segment template)) world

/-- The law that a relation holds along a computation. -/
def Law.along (R : Passage) : Law Unit where
  Holds x := Respects R (x ())

variable {R : Passage}

/-! ## Computations put together -/

namespace RespectsFrom

variable {start : World}

/-- One computation after another. -/
theorem bind {x : Engine α} {f : α → Engine β} (hx : RespectsFrom R start x)
    (hf : ∀ a, RespectsFrom R start (f a)) : RespectsFrom R start (x >>= f) := by
  intro world h
  have hfirst := hx world h
  rcases hrun : on x world with ⟨outcome, next⟩
  rw [hrun] at hfirst
  cases outcome with
  | ok a =>
      rw [on_bind_ok hrun]
      exact hf a next hfirst
  | error fault =>
      -- the second computation is not run, and the first one's fault is the fault of both
      rw [on_bind_error hrun]
      exact hfirst

end RespectsFrom

namespace Respects

section Walking

variable [Walk R]

theorem respectsFrom {x : Engine α} (h : Respects R x) (start : World) : RespectsFrom R start x :=
  fun world hworld => Walk.trans hworld (h world)

theorem of_forall {x : Engine α} (h : ∀ start, RespectsFrom R start x) : Respects R x :=
  fun world => h world world (Walk.refl world)

theorem pure (a : α) : Respects R (pure a : Engine α) := fun world => Walk.refl world

theorem get : Respects R (get : Engine World) := fun world => Walk.refl world

theorem trouble (cause : Trouble) : Respects R (trouble cause : Engine α) :=
  fun world => Walk.trouble cause world

/-- One computation after another. -/
theorem bind {x : Engine α} {f : α → Engine β} (hx : Respects R x) (hf : ∀ a, Respects R (f a)) :
    Respects R (x >>= f) :=
  of_forall fun start => (hx.respectsFrom start).bind fun a => (hf a).respectsFrom start

end Walking

end Respects

instance [Walk R] : (Law.along R).Flow where
  pure := Respects.pure
  bind hx hf := Respects.bind hx hf
  stop := Respects.trouble
  read _ h := Respects.get.bind h

/-! ## Relations that follow -/

section Following

variable {S T : Passage} (h : ∀ {start fault? last}, S start fault? last →
  T start fault? last → R start fault? last)
include h

/-- Where two relations hold along each change of streams and components, so does one that follows
    from both. -/
theorem Law.Shaping.along_both [Walk R] [(Law.along S).Shaping] [(Law.along T).Shaping] :
    (Law.along R).Shaping where
  drain id world :=
    h (Shaping.drain (K := Law.along S) id world) (Shaping.drain (K := Law.along T) id world)
  next id world :=
    h (Shaping.next (K := Law.along S) id world) (Shaping.next (K := Law.along T) id world)
  newComponent site template world :=
    h (Shaping.newComponent (K := Law.along S) site template world)
    (Shaping.newComponent (K := Law.along T) site template world)
  setGate i isOpen world := h (Shaping.setGate (K := Law.along S) i isOpen world)
    (Shaping.setGate (K := Law.along T) i isOpen world)
  setCount i count callee world := h (Shaping.setCount (K := Law.along S) i count callee world)
    (Shaping.setCount (K := Law.along T) i count callee world)
  setItems i other data world := h (Shaping.setItems (K := Law.along S) i other data world)
    (Shaping.setItems (K := Law.along T) i other data world)
  setLength i count world := h (Shaping.setLength (K := Law.along S) i count world)
    (Shaping.setLength (K := Law.along T) i count world)
  setBinds i {_ _} hbinds world := h (Shaping.setBinds (K := Law.along S) i hbinds world)
    (Shaping.setBinds (K := Law.along T) i hbinds world)
  alterData i change world := h (Shaping.alterData (K := Law.along S) i change world)
    (Shaping.alterData (K := Law.along T) i change world)
  redirect i site template world := h (Shaping.redirect (K := Law.along S) i site template world)
    (Shaping.redirect (K := Law.along T) i site template world)

/-- Where two relations hold along each setting, so does one that follows from both. -/
theorem Law.Settling.along_both [Walk R] [(Law.along S).Settling] [(Law.along T).Settling] :
    (Law.along R).Settling where
  toShaping := Law.Shaping.along_both h
  setLayout i layout world := h (Settling.setLayout (K := Law.along S) i layout world)
    (Settling.setLayout (K := Law.along T) i layout world)

/-- Where two relations hold along what a template can ask for but renders, changes of scopes in
    place and files, so does one that follows from both. -/
theorem Law.Evaluating.along_both [Walk R] [(Law.along S).Evaluating]
    [(Law.along T).Evaluating] : (Law.along R).Evaluating where
  toSettling := Law.Settling.along_both h
  bindValue handle name value world :=
    h (Evaluating.bindValue (K := Law.along S) handle name value world)
      (Evaluating.bindValue (K := Law.along T) handle name value world)

end Following

variable [Substrate] {kind : Request → Prop}

/-- A relation that holds along each step of a render, the requests of scripts apart: along what
    building and holding scripts, resolving, preparing passes and falling back do to the world. -/
class Course [FileSystem] (R : Passage) : Prop extends Walk R where
  hold {world : World} (site : Nat) (template : TemplateId) {code : String} {script : Script}
    (hscript : Substrate.build code = .ok script) :
    R world none (world.setSite site { world.site site with
      held := (world.site site).held.put template (code, script) })
  unrenderable (template : TemplateId) (cause : Trouble) (world : World) :
    R world (some (.unrenderable template cause)) world
  /-- A component without passes that has another template is rendered from that, for good. -/
  fallBack {world : World} {i : Nat} {other : String}
    (hgate : (world.component i).gate ≠ some false) (hcount : (world.component i).count = 0)
    (hother : (world.component i).fallback? = some other) :
    R world none (world.setComponent i { world.component i with template := other })
  /-- The closure of a pass is the one that its component had when the render began. -/
  prepare {start : World} {i : Nat} {closure : Closure}
    (hclosure : (start.component i).closure = some closure) (index : Nat) :
    RespectsFrom R start (prepare i closure index)
  resolve (site : Nat) (template : TemplateId) : Respects R (resolve site template)
  within (template : TemplateId) {start last : World} {fault : Fault}
    (h : R start (some fault) last) : R start (some (fault.within template)) last

/-- A course that scripts run along as far as they ask requests of a kind. -/
class Running [FileSystem] (R : Passage) (kind : outParam (Request → Prop)) : Prop
    extends Course R, Law.Answering (Law.along R) kind where
  script {β : Type} (site : Nat) (artifact : Artifact) {f : Script → Engine β}
    (h : ∀ script : Script, script.Asks kind → Respects R (f script)) :
    Respects R (scriptOf site artifact >>= f)

namespace Respects

/-! ## Steps of the evaluator -/

omit [Substrate] in
theorem checkKey [Walk R] (v : Value) : Respects R (checkKey v) :=
  Law.Keeps.checkKey (K := Law.along R) v

omit [Substrate] in
/-- What respects a change of a fragment's variables respects a binding. -/
theorem bindIn [Walk R] {handle : Handle} (hvars : ∀ change, Respects R (changeVars handle change))
    (name value : Value) : Respects R (Engine.bind handle name value) :=
  Law.Keeps.bindIn (K := Law.along R) hvars name value

/-- Preparing a pass only changes the variables of its component. -/
theorem prepare [Walk R] {i : Nat}
    (hvars : ∀ change, Respects R (changeVars (.component i) change)) (closure : Closure)
    (index : Nat) : Respects R (prepare i closure index) :=
  Law.Keeps.prepare (K := Law.along R) hvars
    (fun shape segment template world => Walk.noVariable shape segment template world) closure index

omit [Substrate] in
theorem each [(Law.along R).Shaping] (i : Nat) (data binds : Value) (other : Option String) :
    Respects R (each i data (closureOf binds) other) :=
  Law.Keeps.each (K := Law.along R) i data binds other

omit [Substrate] in
theorem extend [(Law.along R).Settling] (i : Nat) (layout : Value) :
    Respects R (extend i layout) :=
  Law.Keeps.extend (K := Law.along R) i layout

/-! ## Scripts -/

omit [Substrate] in
theorem codeOf [Walk R] (artifact : Artifact) : Respects R (codeOf artifact) :=
  Law.Keeps.codeOf (K := Law.along R) artifact

/-- A script is held only after it was built from its code. -/
theorem scriptOf [FileSystem] [Course R] (site : Nat) (artifact : Artifact) :
    Respects R (scriptOf site artifact) := by
  refine (codeOf artifact).bind fun code => ?_
  intro world
  rw [on_bind_ok (on_get world)]
  simp only
  split
  · -- the script that is held is taken
    exact pure _ world
  · split
    · exact Course.unrenderable _ _ world
    · next script hscript =>
      rw [on_bind_ok (on_set _ world)]
      exact Course.hold site artifact.template hscript

omit [Substrate] in
theorem variablesOf [Walk R] (scope : Scope) : Respects R (variablesOf scope) :=
  Law.Keeps.variablesOf (K := Law.along R) scope

/-- Carrying out a dialogue respects what all its answers respect. -/
theorem play [Law.Answering (Law.along R) kind] {render : Handle → Engine String}
    (hrender : RendersRespect R render) {d : Dialogue α} (h : d.Asks kind) :
    Respects R (play render d) := by
  have hfamily : ∀ handle, (Law.along R).Holds fun _ => render handle := hrender
  exact Law.Holds.play hfamily h

variable [FileSystem] [hR : Running R kind] {render : Handle → Engine String}
include hR

/-! ## Rendering -/

/-- What goes wrong inside a template becomes the template's fault. -/
theorem within (template : TemplateId) {x : Engine α} (hx : Respects R x) :
    Respects R (within template x) := by
  intro world
  have hrun := hx world
  rw [on_within]
  cases hx : (on x world).1 with
  | ok a =>
      rw [hx] at hrun
      exact hrun
  | error fault =>
      rw [hx] at hrun
      exact Course.within template hrun

theorem execute (hrender : RendersRespect R render) (site : Nat)
    (artifact : Artifact) (scope : Scope) (caller : Option Value) :
    Respects R (execute render site artifact scope caller) :=
  Running.script site artifact fun _ h => within _ <|
    (variablesOf scope).bind fun _ => get.bind fun _ => play hrender (h _ _)

theorem executeFor (hrender : RendersRespect R render) (handle : Handle)
    (role : Role) (name : String) (scope : Scope) :
    Respects R (executeFor render handle role name scope) :=
  get.bind fun _ => bind (Course.resolve _ _) fun artifact => execute hrender _ artifact scope _

theorem executeComponent (hrender : RendersRespect R render) (i : Nat) :
    Respects R (executeComponent render i) :=
  get.bind fun _ => executeFor hrender _ _ _ _

/-- The passes of a component are prepared by the closure that it had when the render began. -/
theorem passesFrom (hrender : RendersRespect R render) {start : World} {i : Nat}
    {closure : Option Closure} (hclosure : (start.component i).closure = closure)
    (index count : Nat) : RespectsFrom R start (passesFrom render i closure index count) := by
  induction count generalizing index with
  | zero => exact (pure "").respectsFrom start
  | succ count ih =>
      have hpass : RespectsFrom R start (Engine.executeComponent render i >>= fun out => do
          return out ++ (← Engine.passesFrom render i closure (index + 1) count)) :=
        ((executeComponent hrender i).respectsFrom start).bind fun out =>
          (ih (index + 1)).bind fun more => (pure (out ++ more)).respectsFrom start
      unfold Engine.passesFrom
      cases closure with
      | none => exact hpass
      | some closure => exact (Course.prepare hclosure index).bind fun _ => hpass

theorem renderComponent (hrender : RendersRespect R render) (i : Nat) :
    Respects R (renderComponent render i) := by
  intro world
  have hwhole : Respects R (Engine.executeComponent render i) := executeComponent hrender i
  rw [Engine.renderComponent, on_bind_ok (on_get world)]
  simp only
  split
  · exact pure "" world
  case isFalse hgate =>
    split
    case isTrue => exact passesFrom hrender rfl 0 _ world (Walk.refl world)
    case isFalse hcount =>
      split
      case h_1 other hother =>
        -- the execution starts from the world in which the component has fallen back
        rw [on_bind_ok (on_changeComponent i _ world)]
        exact Walk.trans (Course.fallBack (by simpa using hgate) (by simpa using hcount) hother)
          (hwhole _)
      case h_2 =>
        split
        · exact pure "" world
        · exact hwhole world

theorem renderView (hrender : RendersRespect R render) (i : Nat) :
    Respects R (renderView render i) := by
  refine get.bind fun world => (executeFor hrender _ _ _ _).bind fun content =>
    get.bind fun next => ?_
  simp only
  split
  · exact pure content
  · exact executeFor hrender _ _ _ _

theorem renderUpTo (depth : Nat) (handle : Handle) : Respects R (renderUpTo depth handle) := by
  induction depth generalizing handle with
  | zero => exact trouble _
  | succ depth ih =>
      cases handle with
      | component i => exact renderComponent ih i
      | view i => exact renderView ih i

end Respects

/-- Along a course that holds along the answers to all requests every script runs. -/
instance [FileSystem] [Course R] [Law.Answering (Law.along R) fun _ => True] :
    Running R fun _ => True where
  script site artifact _ h :=
    (Respects.scriptOf site artifact).bind fun script => h script fun _ _ => .any _

/-- **Every run**: a relation that holds along each step of a render holds along every render. -/
theorem render_respects [FileSystem] [hR : Running R kind] (handle : Handle) :
    Respects R (render handle) :=
  Respects.renderUpTo _ handle

end Stencil.Engine
