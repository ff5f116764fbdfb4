import Stencil.Proofs.Engine.Course

/-! # Trails — all that rendering does to a world

    Whatever a template asks for, the world only changes by resolving templates,
    by holding scripts that were built from code, and by changes of fragments and
    streams.  A trail is a run of such steps; a computation follows trails if from
    every world it ends at the end of one.  Each step of a render is a trail, and
    trails can be put one after another.

    Headline: `render_follows`. -/

namespace Stencil.Engine

variable {α : Type} [Substrate] [FileSystem]

/-! ## Trails -/

/-- Whether a computation ended because a source did not compile. -/
def isRefused : Except Fault α → Bool
  | .error (.uncompilable _ _) => true
  | _ => false

/-- The worlds that steps of rendering lead to; a source that does not compile ends the trail. -/
inductive Trail (start : World) : Bool → World → Prop
  | refl : Trail start false start
  | arrange {world : World} (components : List Component) (views : List View)
      (streams : List (List Value)) (h : Trail start false world) :
      Trail start false { world with components, views, streams }
  | hold {world : World} (site : Nat) (template : TemplateId) {code : String} {script : Script}
      (hscript : Substrate.build code = .ok script) (h : Trail start false world) :
      Trail start false (world.setSite site { world.site site with
        held := (world.site site).held.put template (code, script) })
  | resolve {world : World} (site : Nat) (template : TemplateId) (h : Trail start false world) :
      Trail start (isRefused (on (resolve site template) world).1)
        (on (resolve site template) world).2

/-- One trail after another. -/
theorem Trail.trans {start middle last : World} {refused : Bool} (h : Trail start false middle)
    (h' : Trail middle refused last) : Trail start refused last := by
  induction h' with
  | refl => exact h
  | arrange components views streams _ ih => exact ih.arrange components views streams
  | hold site template hscript _ ih => exact ih.hold site template hscript
  | resolve site template _ ih => exact ih.resolve site template

/-- Whether a computation only ever goes along trails. -/
def Follows (x : Engine α) : Prop :=
  ∀ world, Trail world (isRefused (on x world).1) (on x world).2

theorem Follows.resolve (site : Nat) (template : TemplateId) : Follows (resolve site template) :=
  fun _ => Trail.refl.resolve site template

/-! ## Every step is a trail -/

/-- The passage along a trail. -/
def Trailing : Passage :=
  fun start fault? last => Trail start (isRefused (fault?.elim (.ok ()) .error)) last

omit [Substrate] [FileSystem] in
theorem isRefused_faultOf (outcome : Except Fault α) :
    isRefused ((faultOf outcome).elim (.ok ()) .error) = isRefused outcome := by
  cases outcome with
  | ok a => rfl
  | error fault => cases fault <;> rfl

theorem respects_trailing_iff {x : Engine α} : Respects Trailing x ↔ Follows x := by
  simp only [Respects, Trailing, isRefused_faultOf, Follows]

instance : Walk Trailing where
  refl _ := .refl
  trans h h' := h.trans h'
  trouble _ _ := .refl
  noVariable _ _ _ _ := .refl

namespace Trailing

/-- A computation that changes fragments and streams only. -/
theorem of_arrange {x : Engine α}
    (h : ∀ world, ∃ outcome components views streams,
      on x world = (.ok outcome, { world with components, views, streams })) :
    Respects Trailing x := by
  intro world
  obtain ⟨outcome, components, views, streams, hrun⟩ := h world
  rw [hrun]
  exact Trail.refl.arrange components views streams

theorem changeComponent (i : Nat) (change : Component → Component) :
    Respects Trailing (changeComponent i change) :=
  of_arrange fun world => ⟨_, world.components.set i (change (world.component i)), world.views,
    world.streams, rfl⟩

theorem changeView (i : Nat) (change : View → View) : Respects Trailing (changeView i change) :=
  of_arrange fun world => ⟨_, world.components, world.views.set i (change (world.view i)),
    world.streams, rfl⟩

theorem changeVars (handle : Handle) (change : Scope → Scope) :
    Respects Trailing (changeVars handle change) := by
  cases handle with
  | component i => exact changeComponent i _
  | view i => exact changeView i _

end Trailing

instance : (Law.along Trailing).Asking where
  drain id := Trailing.of_arrange fun world =>
    ⟨_, world.components, world.views, world.streams.set id [], rfl⟩
  next id := Trailing.of_arrange fun world => by
    rw [next, on_bind_ok (on_get world)]
    split
    · exact ⟨_, world.components, world.views, world.streams, rfl⟩
    · exact ⟨_, world.components, world.views, _, rfl⟩
  newComponent site template := Trailing.of_arrange fun world =>
    ⟨_, world.components ++ [Component.new site template], world.views, world.streams, rfl⟩
  setGate i _ := Trailing.changeComponent i _
  setCount i _ _ := Trailing.changeComponent i _
  setItems i _ _ := Trailing.changeComponent i _
  setLength i _ := Trailing.changeComponent i _
  setBinds i {_ _} _ := Trailing.changeComponent i _
  alterData i _ := Trailing.changeComponent i _
  redirect i _ _ := Trailing.changeComponent i _
  setLayout i _ := Trailing.changeView i _
  bindValue handle name value := Respects.bindIn (Trailing.changeVars handle) name value
  alterScope := Trailing.changeVars
  files := Respects.get.bind fun world => Respects.pure world.host.files

instance : Course Trailing where
  hold {_} site template {_ _} hscript := Trail.refl.hold site template hscript
  unrenderable _ _ _ := .refl
  fallBack {world i other} _ _ _ :=
    Trailing.changeComponent i (fun c => { c with template := other }) world
  prepare _ index := (Respects.prepare (Trailing.changeVars _) _ index).respectsFrom _
  resolve site template := respects_trailing_iff.mpr (Follows.resolve site template)
  -- a trouble becomes the template's fault, and no other fault changes
  within _ {_ _ fault} h := by cases fault <;> exact h

/-- Rendering a fragment goes along a trail. -/
theorem render_follows (handle : Handle) : Follows (render handle) :=
  respects_trailing_iff.mp (render_respects handle)

/-- An execution that has an output has gone along a trail. -/
theorem trail_of_executeFor {depth : Nat} {handle : Handle} {role : Role} {name content : String}
    {scope : Scope} {next : World}
    (hrun : on (executeFor (renderUpTo depth) handle role name scope) world = (.ok content, next)) :
    Trail world false next := by
  have hfollows := respects_trailing_iff.mp (Respects.executeFor (R := Trailing)
    (Respects.renderUpTo depth) handle role name scope) world
  rw [hrun] at hfollows
  exact hfollows

end Stencil.Engine
