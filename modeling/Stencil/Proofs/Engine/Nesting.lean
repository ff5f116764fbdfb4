import Stencil.Proofs.Engine.Passes

/-! # Nesting — faults of fragments that are rendered inside templates

    While a template is executed it can ask for the render of another fragment,
    whose template can do the same, and so on.  A fault stands under the templates
    that were in execution when it was raised.  Those that execute a template do
    not look at the faults of the renders that it asks for: whatever such a fault
    is, it ends the execution as it is.  So a fault keeps its identity on the way
    up; a mere trouble becomes the fault of the innermost template and from then
    on is none.

    Headline: `render_raises`. -/

namespace Stencil

/-- The fault with which a render ends when one was raised under some templates, the innermost of
    them last: a trouble becomes the fault of that one, and any other fault stays what it is. -/
def Fault.through (templates : List TemplateId) : Fault → Fault
  | .trouble cause => (templates.getLast?.map (.unrenderable · cause)).getD (.trouble cause)
  | fault => fault

/-- A fault that has passed some templates passes another one around them. -/
theorem Fault.within_through (template : TemplateId) (templates : List TemplateId) (fault : Fault) :
    (fault.through templates).within template = fault.through (template :: templates) := by
  cases fault with
  | trouble cause =>
      simp only [through, List.getLast?_cons]
      cases templates.getLast? with
      | none => rfl
      | some last => rfl
  | _ => rfl

namespace Engine

variable {α : Type}

/-! ## Where a fault comes from -/

/-- Labels for the faults of renders, each by the fragment and the world that it was rendered in. -/
abbrev Labels := Handle → World → Fault → Fault

/-- The rendering of fragments, with labels for its faults. -/
def labelled (render : Handle → Engine String) (label : Labels) (handle : Handle) : Engine String :=
  ExceptT.mk do
    let world ← get
    return (← (render handle).run).mapError (label handle world)

theorem on_labelled (render : Handle → Engine String) (label : Labels) (handle : Handle)
    (world : World) :
    on (labelled render label handle) world
      = ((on (render handle) world).1.mapError (label handle world),
        (on (render handle) world).2) := rfl

theorem labelled_id (render : Handle → Engine String) :
    labelled render (fun _ _ fault => fault) = render := by
  funext handle
  have hrun (world : World) : on (labelled render (fun _ _ fault => fault) handle) world
      = on (render handle) world := by
    rw [on_labelled]
    refine Prod.ext ?_ rfl
    cases (on (render handle) world).1 with
    | ok out => rfl
    | error fault => rfl
  exact funext hrun

/-- A computation ends with a trouble of its own: with that trouble whatever the labels of renders
    are. -/
def EndsItself (x : Labels → Engine α) (world : World) (cause : Trouble) (last : World) : Prop :=
  ∀ label, on (x label) world = (.error (.trouble cause), last)

/-- A computation ends in the render of a fragment in a world: with that render's fault, and with
    the label of that render. -/
def EndsIn (render : Handle → Engine String) (x : Labels → Engine α) (world : World)
    (handle : Handle) (begun last : World) : Prop :=
  ∃ fault, on (render handle) begun = (.error fault, last)
    ∧ ∀ label, on (x label) world = (.error (label handle begun fault), last)

/-- The law that faults come from somewhere: a computation gives a value whatever the labels are, or
    ends with a trouble of its own, or in a render. -/
def Law.sourced (render : Handle → Engine String) : Law Labels where
  Holds x := ∀ world, (∃ a last, ∀ label, on (x label) world = (.ok a, last))
    ∨ (∃ cause last, EndsItself x world cause last)
    ∨ ∃ handle begun last, EndsIn render x world handle begun last

section Sourced

variable {render : Handle → Engine String}

/-- A computation that asks for no render and gives a value. -/
theorem sourced_of_ok {x : Engine α} (h : ∀ world, ∃ a last, on x world = (.ok a, last)) :
    (Law.sourced render).Keeps x := by
  intro world
  obtain ⟨a, last, hrun⟩ := h world
  exact .inl ⟨a, last, fun _ => hrun⟩

theorem sourced_get {β : Type} {f : Labels → World → Engine β}
    (h : ∀ world, (Law.sourced render).Holds fun label => f label world) :
    (Law.sourced render).Holds fun label => get >>= f label :=
  fun world => h world world

instance : (Law.sourced render).Flow where
  pure a := sourced_of_ok fun world => ⟨a, world, rfl⟩
  bind {_ _ x f} hx hf world := by
    rcases hx world with ⟨a, next, hrun⟩ | ⟨cause, last, hrun⟩
      | ⟨handle, begun, last, fault, hinner, hrun⟩
    · -- the second computation decides
      rcases hf a next with ⟨b, last, hmore⟩ | ⟨cause, last, hmore⟩
        | ⟨handle, begun, last, fault, hinner, hmore⟩
      · exact .inl ⟨b, last, fun label => (on_bind_ok (hrun label)).trans (hmore label)⟩
      · exact .inr (.inl ⟨cause, last, fun label => (on_bind_ok (hrun label)).trans (hmore label)⟩)
      · exact .inr (.inr ⟨handle, begun, last, fault, hinner,
          fun label => (on_bind_ok (hrun label)).trans (hmore label)⟩)
    · exact .inr (.inl ⟨cause, last, fun label => on_bind_error (hrun label)⟩)
    · exact .inr (.inr ⟨handle, begun, last, fault, hinner,
        fun label => on_bind_error (hrun label)⟩)
  stop cause world := .inr (.inl ⟨cause, world, fun _ => rfl⟩)
  read _ h := sourced_get h

theorem sourced_changeVars (handle : Handle) (change : Scope → Scope) :
    (Law.sourced render).Keeps (changeVars handle change) := by
  cases handle with
  | component i => exact sourced_of_ok fun world => ⟨_, _, rfl⟩
  | view i => exact sourced_of_ok fun world => ⟨_, _, rfl⟩

instance : (Law.sourced render).Asking where
  drain _ := sourced_of_ok fun _ => ⟨_, _, rfl⟩
  next id := sourced_of_ok fun world => by
    rw [next, on_bind_ok (on_get world)]
    split <;> exact ⟨_, _, rfl⟩
  newComponent _ _ := sourced_of_ok fun _ => ⟨_, _, rfl⟩
  setGate _ _ := sourced_of_ok fun _ => ⟨_, _, rfl⟩
  setCount _ _ _ := sourced_of_ok fun _ => ⟨_, _, rfl⟩
  setItems _ _ _ := sourced_of_ok fun _ => ⟨_, _, rfl⟩
  setLength _ _ := sourced_of_ok fun _ => ⟨_, _, rfl⟩
  setBinds _ {_ _} _ := sourced_of_ok fun _ => ⟨_, _, rfl⟩
  alterData _ _ := sourced_of_ok fun _ => ⟨_, _, rfl⟩
  redirect _ _ _ := sourced_of_ok fun _ => ⟨_, _, rfl⟩
  setLayout _ _ := sourced_of_ok fun _ => ⟨_, _, rfl⟩
  bindValue handle name value := Law.Keeps.bindIn (sourced_changeVars handle) name value
  alterScope := sourced_changeVars
  files := sourced_of_ok fun world => ⟨world.host.files, world, rfl⟩

/-- A render that a template asks for gives its output, or ends in itself. -/
theorem sourced_labelled (handle : Handle) :
    (Law.sourced render).Holds fun label => labelled render label handle := by
  intro world
  rcases hrun : on (render handle) world with ⟨fault | out, last⟩
  · refine .inr (.inr ⟨handle, world, last, fault, hrun, fun label => ?_⟩)
    rw [on_labelled, hrun]
    rfl
  · refine .inl ⟨out, last, fun label => ?_⟩
    rw [on_labelled, hrun]
    rfl

end Sourced

/-! ## Executions of templates -/

variable [Substrate]

/-- What executing a script comes to, apart from the name that its troubles are given. -/
def bodyOf (site : Nat) (handle : Handle) (scope : Scope) (script : Script)
    (render : Handle → Engine String) : Engine String :=
  runFor render site scope (some (.fragment handle)) script

theorem execute_eq (render : Handle → Engine String) (site : Nat) (artifact : Artifact)
    (scope : Scope) (handle : Handle) :
    execute render site artifact scope (some (.fragment handle))
      = scriptOf site artifact >>= fun script =>
        within artifact.template (bodyOf site handle scope script render) :=
  rfl

/-- An execution ends with a trouble of its own or in a render that the template asks for, unless it
    gives an output. -/
theorem sourced_bodyOf (render : Handle → Engine String) (site : Nat) (handle : Handle)
    (scope : Scope) (script : Script) : (Law.sourced render).Holds fun label =>
      bodyOf site handle scope script (labelled render label) :=
  Law.Holds.bind (Law.Keeps.variablesOf scope) fun _ => sourced_get fun _ =>
    Law.Holds.play sourced_labelled (.any _)

variable [FileSystem]

section Views

variable {render : Handle → Engine String} {i : Nat} {world after : World}

theorem on_renderView_error {fault : Fault}
    (hcontent : on (executeFor render (.view i) .view (world.view i).template
      (world.view i).vars) world = (.error fault, after)) :
    on (renderView render i) world = (.error fault, after) := by
  rw [renderView, on_bind_ok (on_get world), on_bind_error hcontent]

/-- A view whose template is executed is put into its layout, if it has one then. -/
theorem on_renderView_ok {content : String}
    (hcontent : on (executeFor render (.view i) .view (world.view i).template
      (world.view i).vars) world = (.ok content, after)) :
    on (renderView render i) world = match (after.view i).layout with
      | none => (.ok content, after)
      | some layout => on (executeFor render (.view i) .layout layout
          (Value.setEntry (.text contentName) (.text content) (after.view i).vars)) after := by
  rw [renderView, on_bind_ok (on_get world), on_bind_ok hcontent, on_bind_ok (on_get after)]
  cases hlayout : (after.view i).layout with
  | none =>
      simp only [hlayout]
      rfl
  | some layout => simp only [hlayout]

end Views

/-- The executions that the render of a fragment comes to: the fragment and the world in which it is
    rendered, the template's role and name, the scope, and the world in which it is executed.  A
    component is executed once, with its own or its other template, or in passes; a view is
    executed, and then its layout. -/
inductive Turn (render : Handle → Engine String) :
    Handle → World → Role → String → Scope → World → Prop
  | once {i : Nat} {world : World} (hgate : (world.component i).gate ≠ some false)
      (hcount : (world.component i).count = 0) (hother : (world.component i).fallback? = none)
      (hclosure : (world.component i).closure = none) :
      Turn render (.component i) world .component (world.component i).template
        (world.component i).vars world
  | fallBack {i : Nat} {world begun : World} {other : String}
      (hgate : (world.component i).gate ≠ some false) (hcount : (world.component i).count = 0)
      (hother : (world.component i).fallback? = some other)
      (hbegun : begun = world.setComponent i { world.component i with template := other }) :
      Turn render (.component i) world .component (begun.component i).template
        (begun.component i).vars begun
  | pass {i index : Nat} {world before begun : World} {out : String}
      (hgate : (world.component i).gate ≠ some false) (hindex : index < (world.component i).count)
      (hpassed : Passed render i (world.component i).closure world index out before)
      (hprepare : on (preparation i (world.component i).closure index) before = (.ok (), begun)) :
      Turn render (.component i) world .component (begun.component i).template
        (begun.component i).vars begun
  | view {i : Nat} {world : World} : Turn render (.view i) world .view (world.view i).template
      (world.view i).vars world
  | layout {i : Nat} {world after : World} {content layout : String}
      (hcontent : on (executeFor render (.view i) .view (world.view i).template
        (world.view i).vars) world = (.ok content, after))
      (hlayout : (after.view i).layout = some layout) :
      Turn render (.view i) world .layout layout
        (Value.setEntry (.text contentName) (.text content) (after.view i).vars) after

/-- A pass of a component cannot be prepared. -/
inductive Unprepared (render : Handle → Engine String) :
    Handle → World → Fault → World → Prop
  | intro {i index : Nat} {world before last : World} {out : String} {fault : Fault}
      (hgate : (world.component i).gate ≠ some false) (hindex : index < (world.component i).count)
      (hpassed : Passed render i (world.component i).closure world index out before)
      (hprepare : on (preparation i (world.component i).closure index) before
        = (.error fault, last)) :
      Unprepared render (.component i) world fault last

section Turns

variable {depth : Nat} {handle : Handle} {world begun last : World} {role : Role} {name : String}
  {scope : Scope} {fault : Fault}

theorem Unprepared.on_render (h : Unprepared (renderUpTo depth) handle world fault last) :
    on (renderUpTo (depth + 1) handle) world = (.error fault, last) := by
  cases h with
  | intro hgate hindex hpassed hprepare =>
      rw [renderUpTo]
      rw [on_renderComponent_passes hgate (by omega)]
      exact hpassed.on_passesFrom_stops hindex (.prepare hprepare)

theorem on_executeComponent_for (render : Handle → Engine String) (i : Nat) (world : World) :
    on (executeComponent render i) world = on (executeFor render (.component i) .component
      (world.component i).template (world.component i).vars) world := by
  rw [executeComponent, on_bind_ok (on_get world)]

/-- A fault of an execution is the fault of the render. -/
theorem Turn.on_render (h : Turn (renderUpTo depth) handle world role name scope begun)
    (hrun : on (executeFor (renderUpTo depth) handle role name scope) begun
      = (.error fault, last)) :
    on (renderUpTo (depth + 1) handle) world = (.error fault, last) := by
  cases h with
  | once hgate hcount hother hclosure =>
      rw [renderUpTo]
      rw [on_renderComponent_plain hgate hcount hother, hclosure, on_executeComponent_for]
      exact hrun
  | fallBack hgate hcount hother hbegun =>
      rw [renderUpTo]
      rw [on_renderComponent_fallBack hgate hcount hother, ← hbegun, on_executeComponent_for]
      exact hrun
  | pass hgate hindex hpassed hprepare =>
      rw [renderUpTo]
      rw [on_renderComponent_passes hgate (by omega)]
      rw [← on_executeComponent_for] at hrun
      exact hpassed.on_passesFrom_stops hindex (.execute hprepare hrun)
  | view =>
      rw [renderUpTo]
      exact on_renderView_error hrun
  | layout hcontent hlayout =>
      rw [renderUpTo, on_renderView_ok hcontent, hlayout]
      exact hrun

/-- A render that ends with a fault does so in the preparation of a pass or in an execution. -/
theorem unprepared_or_turn
    (hrun : on (renderUpTo (depth + 1) handle) world = (.error fault, last)) :
    Unprepared (renderUpTo depth) handle world fault last
    ∨ ∃ role name scope begun, Turn (renderUpTo depth) handle world role name scope begun
      ∧ on (executeFor (renderUpTo depth) handle role name scope) begun = (.error fault, last) := by
  cases handle with
  | component i =>
      rw [renderUpTo] at hrun
      by_cases hgate : (world.component i).gate = some false
      · cases (on_renderComponent_shut hgate).symm.trans hrun
      · rcases Nat.eq_zero_or_pos (world.component i).count with hcount | hcount
        · cases hother : (world.component i).fallback? with
          | some other =>
              rw [on_renderComponent_fallBack hgate hcount hother, on_executeComponent_for] at hrun
              exact .inr ⟨_, _, _, _, .fallBack hgate hcount hother rfl, hrun⟩
          | none =>
              rw [on_renderComponent_plain hgate hcount hother] at hrun
              cases hclosure : (world.component i).closure with
              | some closure =>
                  rw [hclosure] at hrun
                  cases hrun
              | none =>
                  rw [hclosure, on_executeComponent_for] at hrun
                  exact .inr ⟨_, _, _, _, .once hgate hcount hother hclosure, hrun⟩
        · rw [on_renderComponent_passes hgate hcount] at hrun
          rcases passed_or_stops (renderUpTo depth) i (world.component i).closure world
            (world.component i).count with ⟨_, _, _, hok⟩
              | ⟨index, out, before, other, next, hindex, hpassed, hstops, herror⟩
          · cases hok.symm.trans hrun
          · cases herror.symm.trans hrun
            cases hstops with
            | prepare hprepare => exact .inl (.intro hgate hindex hpassed hprepare)
            | execute hprepare hexecute =>
                rw [on_executeComponent_for] at hexecute
                exact .inr ⟨_, _, _, _, .pass hgate hindex hpassed hprepare, hexecute⟩
  | view i =>
      rw [renderUpTo] at hrun
      rcases hcontent : on (executeFor (renderUpTo depth) (.view i) .view (world.view i).template
        (world.view i).vars) world with ⟨other | content, after⟩
      · cases (on_renderView_error hcontent).symm.trans hrun
        exact .inr ⟨_, _, _, _, .view, hcontent⟩
      · rw [on_renderView_ok hcontent] at hrun
        cases hlayout : (after.view i).layout with
        | none =>
            rw [hlayout] at hrun
            cases hrun
        | some layout =>
            rw [hlayout] at hrun
            exact .inr ⟨_, _, _, _, .layout hcontent hlayout, hrun⟩

/-- An execution fails to find an artifact, or to build its script, or in the script, where a
    trouble becomes the template's. -/
theorem on_executeFor_error_iff {render : Handle → Engine String} :
    on (executeFor render handle role name scope) begun = (.error fault, last) ↔
      on (resolve (begun.siteOf handle) ⟨role, name⟩) begun = (.error fault, last)
      ∨ ∃ artifact resolved,
        on (resolve (begun.siteOf handle) ⟨role, name⟩) begun = (.ok artifact, resolved)
        ∧ (on (scriptOf (begun.siteOf handle) artifact) resolved = (.error fault, last)
          ∨ ∃ script ready raised,
            on (scriptOf (begun.siteOf handle) artifact) resolved = (.ok script, ready)
            ∧ on (bodyOf (begun.siteOf handle) handle scope script render) ready
              = (.error raised, last)
            ∧ fault = raised.within artifact.template) := by
  rw [executeFor, on_bind_ok (on_get begun)]
  constructor
  · intro hrun
    rcases hresolve : on (resolve (begun.siteOf handle) ⟨role, name⟩) begun with
      ⟨other | artifact, resolved⟩
    · rw [on_bind_error hresolve] at hrun
      cases hrun
      exact .inl rfl
    · refine .inr ⟨artifact, resolved, rfl, ?_⟩
      rw [on_bind_ok hresolve, execute_eq] at hrun
      rcases hbuild : on (scriptOf (begun.siteOf handle) artifact) resolved with
        ⟨other | script, ready⟩
      · rw [on_bind_error hbuild] at hrun
        cases hrun
        exact .inl rfl
      · rw [on_bind_ok hbuild, on_within] at hrun
        rcases hbody : on (bodyOf (begun.siteOf handle) handle scope script render) ready with
          ⟨raised | out, next⟩
        · rw [hbody] at hrun
          cases hrun
          exact .inr ⟨script, ready, raised, rfl, hbody, rfl⟩
        · rw [hbody] at hrun
          cases hrun
  · rintro (hresolve | ⟨artifact, resolved, hresolve,
      hbuild | ⟨script, ready, raised, hbuild, hbody, rfl⟩⟩)
    · rw [on_bind_error hresolve]
    · rw [on_bind_ok hresolve, execute_eq, on_bind_error hbuild]
    · rw [on_bind_ok hresolve, execute_eq, on_bind_ok hbuild, on_within, hbody]
      rfl

end Turns

/-! ## Faults under templates -/

/-- The render of a fragment in a world comes to execute a script for a template, in a world that
    is ready for it: what the script does is a computation of the renders that it asks for. -/
inductive Opens (render : Handle → Engine String) (handle : Handle) (world : World) :
    TemplateId → ((Handle → Engine String) → Engine String) → World → Prop
  | intro {begun resolved ready : World} {role : Role} {name : String} {scope : Scope}
      {artifact : Artifact} {script : Script}
      (hturn : Turn render handle world role name scope begun)
      (hresolve : on (resolve (begun.siteOf handle) ⟨role, name⟩) begun = (.ok artifact, resolved))
      (hbuild : on (scriptOf (begun.siteOf handle) artifact) resolved = (.ok script, ready)) :
      Opens render handle world artifact.template
        (bodyOf (begun.siteOf handle) handle scope script) ready

/-- The render of a fragment in a world raises a fault, under the templates that are in execution
    then, and leaves a world: for lack of depth, where a pass is prepared, where an artifact is
    resolved, where its script is built, in the script itself, or in a render that the script
    asks for. -/
inductive Raises : Nat → Handle → World → List TemplateId → Fault → World → Prop
  | tooDeep (handle : Handle) (world : World) :
      Raises 0 handle world [] (.trouble .tooDeep) world
  | prepare {depth : Nat} {handle : Handle} {world last : World} {fault : Fault}
      (hprepare : Unprepared (renderUpTo depth) handle world fault last) :
      Raises (depth + 1) handle world [] fault last
  | resolve {depth : Nat} {handle : Handle} {world begun last : World} {role : Role}
      {name : String} {scope : Scope} {fault : Fault}
      (hturn : Turn (renderUpTo depth) handle world role name scope begun)
      (hresolve : on (resolve (begun.siteOf handle) ⟨role, name⟩) begun = (.error fault, last)) :
      Raises (depth + 1) handle world [] fault last
  | build {depth : Nat} {handle : Handle} {world begun resolved last : World} {role : Role}
      {name : String} {scope : Scope} {artifact : Artifact} {fault : Fault}
      (hturn : Turn (renderUpTo depth) handle world role name scope begun)
      (hresolve : on (resolve (begun.siteOf handle) ⟨role, name⟩) begun = (.ok artifact, resolved))
      (hbuild : on (scriptOf (begun.siteOf handle) artifact) resolved = (.error fault, last)) :
      Raises (depth + 1) handle world [] fault last
  | itself {depth : Nat} {handle : Handle} {world ready last : World} {template : TemplateId}
      {body : (Handle → Engine String) → Engine String} {cause : Trouble}
      (hopens : Opens (renderUpTo depth) handle world template body ready)
      (hends : EndsItself (fun label => body (labelled (renderUpTo depth) label)) ready cause
        last) :
      Raises (depth + 1) handle world [template] (.trouble cause) last
  | nested {depth : Nat} {handle inner : Handle} {world ready begun last : World}
      {template : TemplateId} {body : (Handle → Engine String) → Engine String}
      {templates : List TemplateId} {fault : Fault}
      (hopens : Opens (renderUpTo depth) handle world template body ready)
      (hends : EndsIn (renderUpTo depth) (fun label => body (labelled (renderUpTo depth) label))
        ready inner begun last)
      (h : Raises depth inner begun templates fault last) :
      Raises (depth + 1) handle world (template :: templates) fault last

section Raising

variable {depth : Nat} {handle : Handle} {world ready last : World} {template : TemplateId}
  {body : (Handle → Engine String) → Engine String} {fault raised : Fault}

/-- A fault of a script is the fault of the render, as one inside the template. -/
theorem Opens.on_render (h : Opens (renderUpTo depth) handle world template body ready)
    (hrun : on (body (renderUpTo depth)) ready = (.error raised, last)) :
    on (renderUpTo (depth + 1) handle) world = (.error (raised.within template), last) := by
  cases h with
  | intro hturn hresolve hbuild =>
      refine hturn.on_render (on_executeFor_error_iff.mpr (.inr ⟨_, _, hresolve, .inr ?_⟩))
      exact ⟨_, _, _, hbuild, hrun, rfl⟩

/-- A fault that is raised under templates passes through them. -/
theorem Raises.on_render {templates : List TemplateId}
    (h : Raises depth handle world templates raised last) :
    on (renderUpTo depth handle) world = (.error (raised.through templates), last) := by
  have hnone (fault : Fault) : fault.through [] = fault := by cases fault <;> rfl
  induction h with
  | tooDeep handle world => rfl
  | prepare hprepare =>
      rw [hnone]
      exact hprepare.on_render
  | resolve hturn hresolve =>
      rw [hnone]
      exact hturn.on_render (on_executeFor_error_iff.mpr (.inl hresolve))
  | build hturn hresolve hbuild =>
      rw [hnone]
      exact hturn.on_render (on_executeFor_error_iff.mpr (.inr ⟨_, _, hresolve, .inl hbuild⟩))
  | itself hopens hends =>
      have hrun := hends fun _ _ fault => fault
      simp only [labelled_id] at hrun
      exact hopens.on_render hrun
  | nested hopens hends _ ih =>
      obtain ⟨fault, hinner, hends⟩ := hends
      have hrun := hends fun _ _ fault => fault
      simp only [labelled_id] at hrun
      -- the inner render ended with the fault that was raised in it, as it had passed its templates
      cases hinner.symm.trans ih
      rw [← Fault.within_through]
      exact hopens.on_render hrun

/-- A render that ends with a fault raises one under some templates, and it has passed them. -/
theorem exists_raises (hrun : on (renderUpTo depth handle) world = (.error fault, last)) :
    ∃ templates raised, Raises depth handle world templates raised last := by
  induction depth generalizing handle world fault with
  | zero =>
      cases hrun
      exact ⟨_, _, .tooDeep handle _⟩
  | succ depth ih =>
      rcases unprepared_or_turn hrun with hprepare | ⟨role, name, scope, begun, hturn, hexecute⟩
      · exact ⟨_, _, .prepare hprepare⟩
      · rcases on_executeFor_error_iff.mp hexecute with hresolve | ⟨artifact, resolved, hresolve,
          hbuild | ⟨script, ready, raised, hbuild, hbody, -⟩⟩
        · exact ⟨_, _, .resolve hturn hresolve⟩
        · exact ⟨_, _, .build hturn hresolve hbuild⟩
        · have hopens := Opens.intro hturn hresolve hbuild
          rcases sourced_bodyOf (renderUpTo depth) (begun.siteOf handle) handle scope script ready
            with ⟨out, next, hok⟩ | ⟨cause, next, hends⟩ | ⟨inner, begun', next, hends⟩
          · have hsame := hok fun _ _ fault => fault
            simp only [labelled_id] at hsame
            cases hsame.symm.trans hbody
          · have hsame := hends fun _ _ fault => fault
            simp only [labelled_id] at hsame
            cases hsame.symm.trans hbody
            exact ⟨_, _, .itself hopens hends⟩
          · obtain ⟨inside, hinner, hlabels⟩ := hends
            have hsame := hlabels fun _ _ fault => fault
            simp only [labelled_id] at hsame
            cases hsame.symm.trans hbody
            obtain ⟨templates, deepest, hraises⟩ := ih hinner
            exact ⟨_, _, .nested hopens ⟨_, hinner, hlabels⟩ hraises⟩

end Raising

end Engine

end Stencil
