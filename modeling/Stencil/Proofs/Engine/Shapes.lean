import Stencil.Proofs.Engine.Executions

/-! # Shapes — one row of items in different collections

    A repetition goes over the values of a map, the items of a sequence, or what a
    stream still holds.  Its passes read the data at an index, and the render reads
    how many items there are; so renders over collections with the same items go in
    lockstep, from execution to execution.  They part only where the data itself
    is seen: by a template, or by a path that leads through the component.

    Headline: `render_each_alike`. -/

namespace Stencil

open Engine

/-! ## Paths -/

namespace BindPath

/-- A path from a value comes to a fragment where it reads a member of it. -/
inductive Meets (surroundings : Surroundings) (handle : Handle) (name : String) :
    Value → List String → Prop
  | here (segments : List String) :
      Meets surroundings handle name (.fragment handle) (name :: segments)
  | further {v found : Value} {segment : String} {segments : List String}
      (hfound : valueAt surroundings v segment = .ok (some found))
      (h : Meets surroundings handle name found segments) :
      Meets surroundings handle name v (segment :: segments)

/-- Two objects show the same but for one member, which both declare or none does. -/
structure Facets.SameBut (name : String) (facets other : Facets) : Prop where
  declares : other.declares = facets.declares
  field? {segment : String} (h : segment ≠ name) : other.field? segment = facets.field? segment
  slot? {segment : String} (h : segment ≠ name) : other.slot? segment = facets.slot? segment
  read {segment : String} (h : segment ≠ name) : other.read segment = facets.read segment

/-- The same is known but for one member of one fragment. -/
structure SameBut (handle : Handle) (name : String) (surroundings other : Surroundings) :
    Prop where
  call : other.call = surroundings.call
  facets {v : Value} (h : v ≠ .fragment handle) : other.facets v = surroundings.facets v
  fragment : (surroundings.facets (.fragment handle)).SameBut name
    (other.facets (.fragment handle))

/-- An object that is the same but for a member which is no accessor's gives the same for every
    other segment. -/
theorem Facets.SameBut.member_eq {name : String} {facets other : Facets}
    (h : facets.SameBut name other) (hname : ∀ segment, accessorName? segment ≠ some name)
    {segment : String} (hsegment : segment ≠ name) :
    member other segment = member facets segment := by
  have haccessor : accessor? other segment = accessor? facets segment := by
    rw [accessor?, accessor?]
    cases haccessor : accessorName? segment with
    | none => rfl
    | some accessor =>
        have hother : accessor ≠ name := fun heq => hname segment (heq ▸ haccessor)
        simp only [h.declares, h.read hother]
  simp only [member, readLast, h.field? hsegment, h.slot? hsegment, haccessor, h.read hsegment]

variable {surroundings other : Surroundings} {handle : Handle} {name : String}

theorem valueAt_congr (h : SameBut handle name surroundings other)
    (hname : ∀ segment, accessorName? segment ≠ some name) {v : Value} {segment : String}
    (hsegment : ¬ (v = .fragment handle ∧ segment = name)) :
    valueAt other v segment = valueAt surroundings v segment := by
  have hmember : member (other.facets v) segment = member (surroundings.facets v) segment := by
    by_cases hv : v = .fragment handle
    · subst hv
      exact h.fragment.member_eq hname fun heq => hsegment ⟨rfl, heq⟩
    · rw [h.facets hv]
  have hlookup : lookup other v segment = lookup surroundings v segment := by
    cases v with
    | map | list | tuple | row => rfl
    | _ => exact hmember
  have hvalue (found : Found) : found.value? other = found.value? surroundings := by
    cases found with
    | calling callee => rw [Found.value?, Found.value?, h.call]
    | _ => rfl
  simp only [valueAt, hlookup, hvalue]

/-- A path that does not meet the member leads to the same. -/
theorem follow_congr (h : SameBut handle name surroundings other)
    (hname : ∀ segment, accessorName? segment ≠ some name) (template : String) {v : Value}
    {segments : List String} (hmeets : ¬ Meets surroundings handle name v segments) :
    follow other template v segments = follow surroundings template v segments := by
  induction segments generalizing v with
  | nil => rfl
  | cons segment segments ih =>
      have hvalue : valueAt other v segment = valueAt surroundings v segment := by
        refine valueAt_congr h hname ?_
        rintro ⟨rfl, rfl⟩
        exact hmeets (.here segments)
      rw [follow, follow, hvalue]
      cases shape? v with
      | none => rfl
      | some shape =>
          cases hfound : valueAt surroundings v segment with
          | error fault => rfl
          | ok found? =>
              cases found? with
              | none => rfl
              | some found => exact ih fun hmeets' => hmeets (.further hfound hmeets')

end BindPath

/-! ## Worlds that are alike -/

namespace World

/-- A world with other data in a component and other items in a stream. -/
def reshaped (world : World) (i id : Nat) (data : Value) (held : List Value) : World :=
  { world.setComponent i { world.component i with data } with streams := world.streams.set id held }

variable {world : World} {i : Nat}

theorem component_reshaped (hthere : i < world.components.length) (id : Nat) (data : Value)
    (held : List Value) :
    (world.reshaped i id data held).component i = { world.component i with data } :=
  component_setComponent_self hthere _

/-- The data of a component are no accessor's. -/
theorem accessorName?_ne_for_data (segment : String) :
    BindPath.accessorName? segment ≠ some "for_data" := by
  rw [BindPath.accessorName?]
  cases segment.toList with
  | nil => nofun
  | cons c cs =>
      intro heq
      have hfirst := congrArg String.toList (Option.some.inj heq)
      rw [String.toList_ofList] at hfirst
      exact absurd (List.cons.inj hfirst).1 (by decide)

theorem component_reshaped_of_ne (id : Nat) (data : Value) (held : List Value) {j : Nat}
    (hij : j ≠ i) : (world.reshaped i id data held).component j = world.component j :=
  component_setComponent_of_ne hij _

section Reshaped

variable (hthere : i < world.components.length) (id : Nat) (data : Value) (held : List Value)

include hthere

/-- What a component keeps with other data is the same for every component. -/
theorem fragment_reshaped {α : Type} (read : Component → α) {j : Nat}
    (hread : ∀ component : Component, read { component with data } = read component) :
    read ((world.reshaped i id data held).component j) = read (world.component j) := by
  by_cases hij : j = i
  · rw [hij, component_reshaped hthere id data held, hread]
  · rw [component_reshaped_of_ne id data held hij]

theorem templateOf_reshaped (handle : Handle) :
    (world.reshaped i id data held).templateOf handle = world.templateOf handle := by
  cases handle with
  | component j => exact fragment_reshaped hthere id data held Component.template fun _ => rfl
  | view j => rfl

theorem siteOf_reshaped (handle : Handle) :
    (world.reshaped i id data held).siteOf handle = world.siteOf handle := by
  cases handle with
  | component j => exact fragment_reshaped hthere id data held Component.site fun _ => rfl
  | view j => rfl

theorem call_reshaped (v : Value) : (world.reshaped i id data held).call v = world.call v := by
  unfold call
  split
  · rfl
  · rw [templateOf_reshaped hthere]
  · rfl

/-- All values but the component show the same. -/
theorem facets_reshaped [Substrate] {v : Value} (hv : v ≠ .fragment (.component i)) :
    (world.reshaped i id data held).facets v = world.facets v := by
  cases v with
  | fragment handle =>
      have hmembers : (world.reshaped i id data held).members handle = world.members handle := by
        cases handle with
        | view j => rfl
        | component j =>
            have hij : j ≠ i := fun heq => hv (heq ▸ rfl)
            rw [members, members, component_reshaped_of_ne id data held hij]
      rw [facets, facets, hmembers]
  | part part =>
      cases part with
      | compiler handle =>
          simp only [facets, partState, partKind, siteOf_reshaped hthere,
            templateOf_reshaped hthere]
      | site j => rfl
  | _ => rfl

/-- The members of the component but the data stand in the same order, with the same values. -/
theorem lookup_members_reshaped {segment : String} (hsegment : segment ≠ "for_data")
    (kind : List (String × Value)) :
    ((world.reshaped i id data held).members (.component i) ++ kind).lookup segment
      = (world.members (.component i) ++ kind).lookup segment := by
  have hne : (segment == "for_data") = false := beq_eq_false_iff_ne.mpr hsegment
  simp only [members, component_reshaped hthere, List.cons_append, List.lookup_cons, hne]

theorem surroundings_reshaped [Substrate] :
    BindPath.SameBut (.component i) "for_data" world.surroundings
      (world.reshaped i id data held).surroundings := by
  refine ⟨funext (call_reshaped hthere id data held),
    fun {_} hv => facets_reshaped hthere id data held hv, ?_⟩
  have hlookup {segment : String} (hsegment : segment ≠ "for_data")
      (kind : List (String × Value)) :=
    lookup_members_reshaped hthere id data held hsegment kind
  refine ⟨?_, fun {_} h => ?_, fun {_} _ => rfl, fun {_} h => ?_⟩
  · funext segment
    show (_ || _) = (_ || _)
    rw [members, members, component_reshaped hthere]
    by_cases hsegment : segment = "for_data"
    · subst hsegment
      rfl
    · have hne : (segment == "for_data") = false := beq_eq_false_iff_ne.mpr hsegment
      simp only [List.lookup_cons, hne]
  · have hstate := hlookup h []
    rw [List.append_nil, List.append_nil] at hstate
    exact hstate
  · simp only [surroundings, facets, BindPath.Facets.ofMembers, hlookup h]

end Reshaped

theorem setComponent_reshaped (hthere : i < world.components.length) (id : Nat) (data : Value)
    (held : List Value) (component : Component) :
    (world.reshaped i id data held).setComponent i { component with data }
      = (world.setComponent i component).reshaped i id data held := by
  rw [reshaped, reshaped, component_setComponent_self hthere, setComponent_setComponent]
  simp only [setComponent, List.set_set]

end World

namespace Engine

/-- Worlds that differ only in the data of a component, which have the same items, and in what a
    stream holds. -/
structure Alike (i id : Nat) (world other : World) : Prop where
  there : i < world.components.length
  shape : ∃ data held, data.items? = (world.component i).data.items?
    ∧ other = world.reshaped i id data held

variable {α β : Type} {i id index : Nat} {world other : World} {closure : Option Closure}

namespace Alike

theorem component (h : Alike i id world other) :
    ∃ data, data.items? = (world.component i).data.items?
      ∧ other.component i = { world.component i with data } := by
  obtain ⟨data, held, hitems, rfl⟩ := h.shape
  exact ⟨data, hitems, World.component_reshaped h.there id data held⟩

/-- A change of the component that does not look at its data leaves worlds alike. -/
theorem setComponent (h : Alike i id world other) (change : Component → Component)
    (hchange : ∀ c data, change { c with data } = { change c with data }) :
    Alike i id (world.setComponent i (change (world.component i)))
      (other.setComponent i (change (other.component i))) := by
  obtain ⟨data, held, hitems, rfl⟩ := h.shape
  have hdata : (change (world.component i)).data = (world.component i).data := by
    have hsame := congrArg Component.data (hchange (world.component i) (world.component i).data)
    exact hsame
  refine ⟨by rw [World.length_setComponent]; exact h.there, data, held, ?_, ?_⟩
  · rw [World.component_setComponent_self h.there, hdata]
    exact hitems
  · rw [World.component_reshaped h.there, hchange]
    exact World.setComponent_reshaped h.there id data held _

end Alike

/-- A computation comes to the same in two worlds, and leaves worlds that are alike. -/
structure Agrees (i id : Nat) (x : Engine α) (world other : World) : Prop where
  outcome : (on x other).1 = (on x world).1
  alike : Alike i id (on x world).2 (on x other).2

namespace Agrees

theorem exists_on {x : Engine α} (h : Agrees i id x world other) {outcome : Except Fault α}
    {next : World} (hrun : on x world = (outcome, next)) :
    ∃ next', on x other = (outcome, next') ∧ Alike i id next next' := by
  refine ⟨(on x other).2, Prod.ext ?_ rfl, ?_⟩
  · rw [h.outcome, hrun]
  · have halike := h.alike
    rw [hrun] at halike
    exact halike

/-- A computation that goes on as another one that comes to the same. -/
theorem of_on {x y : Engine α} {next next' : World} (hworld : on x world = on y next)
    (hother : on x other = on y next') (h : Agrees i id y next next') :
    Agrees i id x world other where
  outcome := by rw [hworld, hother, h.outcome]
  alike := by rw [hworld, hother]; exact h.alike

/-- One computation after another. -/
theorem bind {x : Engine α} {f : α → Engine β} (hx : Agrees i id x world other)
    (hf : ∀ a next next', on x world = (.ok a, next) → Alike i id next next' →
      Agrees i id (f a) next next') : Agrees i id (x >>= f) world other := by
  rcases hrun : on x world with ⟨fault | a, next⟩
  · obtain ⟨next', hrun', halike⟩ := hx.exists_on hrun
    have hstops : Agrees i id (throw fault : Engine β) next next' := ⟨rfl, halike⟩
    exact hstops.of_on (on_bind_error hrun) (on_bind_error hrun')
  · obtain ⟨next', hrun', halike⟩ := hx.exists_on hrun
    exact (hf a next next' hrun halike).of_on (on_bind_ok hrun) (on_bind_ok hrun')

end Agrees

/-! ## Passes in lockstep -/

section Theory

variable [Substrate] [FileSystem]

omit [Substrate] [FileSystem] in
/-- An item is read alike. -/
theorem Agrees.itemAt (h : Alike i id world other) (index : Nat) :
    Agrees i id (itemAt i index) world other := by
  obtain ⟨data, hitems, hcomponent⟩ := h.component
  have hread (world : World) : on (Engine.itemAt i index) world
      = ((((world.component i).data.items?.getD [])[index]?).elim
        (.error (.trouble (.failure .noIndex))) .ok, world) := by
    rw [Engine.itemAt, on_bind_ok (on_get world)]
    dsimp only
    cases ((world.component i).data.items?.getD [])[index]? <;> rfl
  constructor
  · rw [hread, hread, hcomponent, hitems]
  · rw [hread, hread]
    exact h

/-- No path that is bound from an item reads the data of the component on its way, each followed in
    the world that the binding before it has left. -/
def Unmet (i : Nat) (item : Value) : World → List (Value × Value) → Prop
  | _, [] => True
  | world, (target, path) :: targets => ∀ way, path.text? = some way →
      ¬ BindPath.Meets world.surroundings (.component i) "for_data" item (BindPath.segments way)
      ∧ ∀ found, BindPath.resolve world.surroundings item way (world.component i).template
        = .ok found →
        Unmet i item (world.rescope (.component i) (Value.setEntry target found.bound)) targets

omit [Substrate] [FileSystem] in
/-- A change of the scope leaves worlds alike. -/
theorem Alike.rescope (h : Alike i id world other) (change : Scope → Scope) :
    Alike i id (world.rescope (.component i) change) (other.rescope (.component i) change) := by
  exact h.setComponent (fun c => { c with vars := change c.vars }) fun _ _ => rfl

omit [FileSystem] in
/-- A path that does not read the data leads to the same. -/
theorem Alike.resolve_eq (h : Alike i id world other) {item : Value} {way : String}
    (hmeets : ¬ BindPath.Meets world.surroundings (.component i) "for_data" item
      (BindPath.segments way)) (template : String) :
    BindPath.resolve other.surroundings item way template
      = BindPath.resolve world.surroundings item way template := by
  obtain ⟨data, held, _, rfl⟩ := h.shape
  exact BindPath.follow_congr (World.surroundings_reshaped h.there id data held)
    World.accessorName?_ne_for_data template hmeets

omit [FileSystem] in
/-- Paths that do not read the data are bound alike. -/
theorem Agrees.bindPaths {item : Value} {targets : List (Value × Value)}
    (h : Alike i id world other) (hunmet : Unmet i item world targets) :
    Agrees i id (bindPaths i item targets) world other := by
  induction targets generalizing world other with
  | nil => exact ⟨rfl, h⟩
  | cons entry targets ih =>
      obtain ⟨target, path⟩ := entry
      have hpath : Agrees i id (pathOf path) world other := by
        cases path <;> exact ⟨rfl, h⟩
      rw [Engine.bindPaths]
      refine hpath.bind fun way next next' hrun halike => ?_
      obtain ⟨hway, rfl⟩ : path.text? = some way ∧ next = world := by
        rcases Rendering.on_pathOf_cases path world with ⟨_, herror⟩ | ⟨_, hway, hok⟩
        · cases herror.symm.trans hrun
        · cases hok.symm.trans hrun
          exact ⟨hway, rfl⟩
      obtain ⟨hmeets, hrest⟩ := hunmet way hway
      obtain ⟨data, _, hcomponent⟩ := halike.component
      -- what the path leads to is looked up in each of the worlds
      have hfound : BindPath.resolve next'.surroundings item way (next'.component i).template
          = BindPath.resolve next.surroundings item way (next.component i).template := by
        rw [hcomponent]
        exact halike.resolve_eq hmeets _
      cases hresolve : BindPath.resolve next.surroundings item way (next.component i).template with
      | error fault =>
          have hstops : Agrees i id (throw fault : Engine Unit) next next' := ⟨rfl, halike⟩
          refine hstops.of_on ?_ ?_
          · rw [on_bind_ok (on_get next), hresolve]
            rfl
          · rw [on_bind_ok (on_get next'), hfound, hresolve]
            rfl
      | ok found =>
          have hbound := halike.rescope (Value.setEntry target found.bound)
          refine (ih hbound (hrest found hresolve)).of_on ?_ ?_
          · rw [on_bind_ok (on_get next), hresolve]
            rfl
          · rw [on_bind_ok (on_get next'), hfound, hresolve]
            rfl

/-- Whether a closure, if there is one, binds what it finds in an item. -/
def bindsItems (closure : Option Closure) : Bool :=
  closure.all Closure.isOverItems

omit [FileSystem] in
/-- A pass is prepared alike by a closure whose paths do not read the data. -/
theorem Agrees.preparation (h : Alike i id world other) (hclosure : bindsItems closure = true)
    (hunmet : ∀ item targets, closure = some (.paths targets) →
      ((world.component i).data.items?.getD [])[index]? = some item → Unmet i item world targets) :
    Agrees i id (preparation i closure index) world other := by
  rcases closure with _ | closure
  · exact ⟨rfl, h⟩
  · cases closure with
    | paths targets =>
        refine (Agrees.itemAt h index).bind fun item next next' hrun halike => ?_
        rcases Rendering.on_itemAt_cases i index world with ⟨_, herror⟩ | ⟨found, hfound, hok⟩
        · cases herror.symm.trans hrun
        · cases hok.symm.trans hrun
          exact .bindPaths halike (hunmet item targets rfl hfound)
    | name target =>
        refine (Agrees.itemAt h index).bind fun item next next' _ halike => ?_
        exact ⟨rfl, halike.rescope _⟩
    | counted f => cases hclosure
    | itemwise f => cases hclosure
    | called callee => cases hclosure

/-- In the first executions of a plan nothing reads the data of the component: no path that is bound
    before an execution does, and the execution itself comes to the same in worlds that are
    alike. -/
structure Unread (render : Handle → Engine String) (i id : Nat) (plan : Plan) : Prop where
  paths {renditions : List Rendition} {world : World} {item : Value}
    {targets : List (Value × Value)}
    (h : Executed render i plan.closure plan.start renditions world)
    (hlength : renditions.length < plan.count) (hclosure : plan.closure = some (.paths targets))
    (hitem : ((world.component i).data.items?.getD [])[renditions.length]? = some item) :
    Unmet i item world targets
  template {renditions : List Rendition} {world prepared other : World}
    (h : Executed render i plan.closure plan.start renditions world)
    (hlength : renditions.length < plan.count)
    (hprepare : on (preparation i plan.closure renditions.length) world = (.ok (), prepared))
    (halike : Alike i id prepared other) : Agrees i id (executeComponent render i) prepared other

section Lockstep

variable {render : Handle → Engine String} {plan : Plan} {start : World}
  {renditions : List Rendition}

theorem Unread.preparation (hunread : Unread render i id plan)
    (hclosure : bindsItems plan.closure = true)
    (h : Executed render i plan.closure plan.start renditions world)
    (hlength : renditions.length < plan.count) (halike : Alike i id world other) :
    Agrees i id (Engine.preparation i plan.closure renditions.length) world other :=
  .preparation halike hclosure fun _ _ hpaths hitem => hunread.paths h hlength hpaths hitem

/-- The executions from one world are those from another that is alike. -/
theorem Unread.executed (hunread : Unread render i id plan)
    (hclosure : bindsItems plan.closure = true) (hstart : Alike i id plan.start start)
    (h : Executed render i plan.closure plan.start renditions world)
    (hlength : renditions.length ≤ plan.count) :
    ∃ world', Executed render i plan.closure start renditions world' ∧ Alike i id world world' := by
  -- the worlds are alike before each execution is prepared, and before it is made
  induction h with
  | start => exact ⟨start, .start, hstart⟩
  | @next renditions world prepared after out h hprepare hrun ih =>
      rw [List.length_append] at hlength
      have hbefore : renditions.length < plan.count := hlength
      obtain ⟨world', h', halike⟩ := ih (Nat.le_of_lt hbefore)
      obtain ⟨prepared', hprepare', hprepared⟩ :=
        (hunread.preparation hclosure h hbefore halike).exists_on hprepare
      obtain ⟨after', hrun', hafter⟩ :=
        (hunread.template h hbefore hprepare hprepared).exists_on hrun
      obtain ⟨data, _, hcomponent⟩ := hprepared.component
      have hnext := h'.next hprepare' hrun'
      rw [hcomponent] at hnext
      exact ⟨after', hnext, hafter⟩

/-- Passes from one world end as those from another that is alike. -/
theorem Unread.ends (hunread : Unread render i id plan)
    (hclosure : bindsItems plan.closure = true) (hstart : Alike i id plan.start start)
    {outcome : Except Fault String} {last : World}
    (h : Ends render i plan.closure plan.count plan.start renditions outcome last) :
    ∃ last', Ends render i plan.closure plan.count start renditions outcome last'
      ∧ Alike i id last last' := by
  cases h with
  | all h hlength =>
      obtain ⟨last', h', halike⟩ := hunread.executed hclosure hstart h (Nat.le_of_eq hlength)
      exact ⟨last', .all h' hlength, halike⟩
  | stop h hlength hstops =>
      obtain ⟨world', h', halike⟩ := hunread.executed hclosure hstart h (Nat.le_of_lt hlength)
      have hprepares := hunread.preparation hclosure h hlength halike
      cases hstops with
      | prepare hprepare =>
          obtain ⟨last', hprepare', hlast⟩ := hprepares.exists_on hprepare
          exact ⟨last', .stop h' hlength (.prepare hprepare'), hlast⟩
      | execute hprepare hrun =>
          obtain ⟨prepared', hprepare', hprepared⟩ := hprepares.exists_on hprepare
          obtain ⟨last', hrun', hlast⟩ :=
            (hunread.template h hlength hprepare hprepared).exists_on hrun
          exact ⟨last', .stop h' hlength (.execute hprepare' hrun'), hlast⟩

end Lockstep

/-! ## Repetitions over the same items -/

omit [Substrate] [FileSystem] in
/-- Renders in worlds that are alike have one plan. -/
theorem Alike.plan (h : Alike i id world other) : (other.plan i).closure = (world.plan i).closure
    ∧ (other.plan i).count = (world.plan i).count
    ∧ Alike i id (world.plan i).start (other.plan i).start := by
  obtain ⟨data, _, hcomponent⟩ := h.component
  have hfallback : (other.component i).fallback? = (world.component i).fallback? := by
    rw [hcomponent]
    rfl
  have hfallen (name : String) : Alike i id
      (world.setComponent i { world.component i with template := name })
      (other.setComponent i { other.component i with template := name }) :=
    h.setComponent (fun c => { c with template := name }) fun _ _ => rfl
  -- a plan reads the gate, the count, the closure and the other template, and no data
  simp only [World.plan, hfallback]
  rw [hcomponent] at hfallen ⊢
  dsimp only
  split
  · exact ⟨rfl, rfl, h⟩
  · split
    · exact ⟨rfl, rfl, h⟩
    · split
      · exact ⟨rfl, rfl, hfallen _⟩
      · split
        · exact ⟨rfl, rfl, h⟩
        · exact ⟨rfl, rfl, h⟩

omit [Substrate] [FileSystem] in
/-- The closure of a plan is the one of the component. -/
theorem bindsItems_plan (h : bindsItems (world.component i).closure = true) :
    bindsItems (world.plan i).closure = true := by
  rw [World.plan]
  split
  · rfl
  · split
    · exact h
    · split
      · rfl
      · split <;> rfl

/-- Values in another collection than a map: in a list, or in a stream that still holds them. -/
inductive Holding (world : World) (id : Nat) (values : List Value) : Value → Prop
  | list : Holding world id values (.list values)
  | stream (h : world.streams[id]? = some values) : Holding world id values (.stream id)

omit [Substrate] [FileSystem] in
/-- What a repetition over items makes of a component. -/
theorem on_each_items {data found : Value} {drained : World} (hthere : i < world.components.length)
    (hitems : on (itemsOf data) world = (.ok found, drained))
    (hcount : found.count = .ok (found.items?.getD []).length) (closure : Option Closure)
    (other : Option String) : on (each i data (.ok closure) other) world
      = (.ok (), drained.setComponent i { world.component i with
        other, data := found, count := (found.items?.getD []).length, closure }) := by
  have hdrained : i < drained.components.length := (on_itemsOf_ok hitems).2 ▸ hthere
  rw [on_each_counted hitems hcount]
  show on (changeComponent i fun c => { c with closure }) _ = _
  rw [on_changeComponent, World.component_setComponent_self hdrained,
    World.setComponent_setComponent]

omit [Substrate] [FileSystem] in
/-- Two changes of a component that only give it other data, with the same items. -/
theorem Alike.of_items (hthere : i < world.components.length) (component : Component)
    (data : Value) (hitems : data.items? = component.data.items?) (id : Nat) (held : List Value) :
    Alike i id (world.setComponent i component)
      ({ world with streams := world.streams.set id held }.setComponent i
        { component with data }) := by
  refine ⟨by rw [World.length_setComponent]; exact hthere, data, held, ?_, ?_⟩
  · rw [World.component_setComponent_self hthere]
    exact hitems
  · rw [← World.setComponent_reshaped hthere]
    simp only [World.reshaped, World.setComponent, List.set_set]

omit [Substrate] [FileSystem] in
/-- Repetitions over the values of a map and over these in another collection make of a component
    what is alike. -/
theorem Holding.alike {entries : List (Value × Value)} {data : Value}
    (hthere : i < world.components.length) (h : Holding world id (entries.map Prod.snd) data)
    (closure : Option Closure) (other : Option String) :
    ∃ start start', on (each i (.map entries) (.ok closure) other) world = (.ok (), start)
      ∧ on (each i data (.ok closure) other) world = (.ok (), start')
      ∧ (start.component i).data = .map entries ∧ (start.component i).closure = closure
      ∧ Alike i id start start' := by
  have hmap := on_each_items hthere (rfl : on (itemsOf (.map entries)) world = _) rfl closure other
  have hdata : ∃ held, on (itemsOf data) world = (.ok (.list (entries.map Prod.snd)),
      { world with streams := world.streams.set id held }) := by
    cases h with
    | list =>
        have hset : world.streams.set id (world.streams[id]?.getD []) = world.streams := by
          rcases Nat.lt_or_ge id world.streams.length with hinside | hbeyond
          · rw [List.getElem?_eq_getElem hinside, Option.getD_some, List.set_getElem_self]
          · exact List.set_eq_of_length_le hbeyond
        refine ⟨world.streams[id]?.getD [], ?_⟩
        rw [hset]
        rfl
    | stream hstream =>
        refine ⟨[], ?_⟩
        show (Except.ok (Value.list (world.streams[id]?.getD [])), _) = _
        rw [hstream]
        rfl
  obtain ⟨held, hdata⟩ := hdata
  refine ⟨_, _, hmap, on_each_items hthere hdata rfl closure other, ?_, ?_, ?_⟩
  · rw [World.component_setComponent_self hthere]
  · rw [World.component_setComponent_self hthere]
  · exact .of_items hthere { world.component i with
      other, data := .map entries, count := (entries.map Prod.snd).length, closure }
      (.list (entries.map Prod.snd)) rfl id held

/-- The keys of a map are different from those before them. -/
def KeysOnce (entries : List (Value × Value)) : Prop :=
  entries.Pairwise fun entry later => Value.same later.1 entry.1 = false

omit [Substrate] [FileSystem] in
/-- The value at an index is the one under the key at that index. -/
theorem KeysOnce.entry? {entries : List (Value × Value)} (h : KeysOnce entries) {key value : Value}
    (hentry : entries[index]? = some (key, value)) (hkey : Value.same key key = true) :
    Value.entry? entries key = some value := by
  induction entries generalizing index with
  | nil => cases hentry
  | cons entry entries ih =>
      obtain ⟨hfirst, hrest⟩ := List.pairwise_cons.mp h
      cases index with
      | zero =>
          cases Option.some.inj hentry
          simp [Value.entry?, hkey]
      | succ index =>
          have hmem : (key, value) ∈ entries := List.mem_of_getElem? hentry
          have hne : Value.same key entry.1 = false := hfirst _ hmem
          simpa [Value.entry?, hne] using ih hrest hentry

/-- **Repetitions over the same items** in a map, in a list and in a stream.  A repetition over a
    map takes at each index the value that the map has under its key there.  Over the values of the
    map in another collection the render makes the same executions, of the same templates with the
    same scopes in the same order, comes to the same output or fault, and leaves the same scope; as
    long as nothing in these executions reads the component's own data. -/
theorem render_each_alike {entries : List (Value × Value)} {data : Value}
    (hthere : i < world.components.length) (hdata : Holding world id (entries.map Prod.snd) data)
    (hclosure : bindsItems closure = true) (other : Option String) :
    ∃ start start' : World,
      on (each i (.map entries) (.ok closure) other) world = (.ok (), start)
      ∧ on (each i data (.ok closure) other) world = (.ok (), start')
      ∧ (KeysOnce entries → ∀ (index : Nat) (key : Value),
        (entries.map Prod.fst)[index]? = some key → Value.same key key = true →
        ((start.component i).data.items?.getD [])[index]? = Value.entry? entries key)
      ∧ ∀ depth, Unread (renderUpTo depth) i id (start.plan i) →
        ∃ renditions outcome last last',
          Ends (renderUpTo depth) i (start.plan i).closure (start.plan i).count (start.plan i).start
            renditions outcome last
          ∧ Ends (renderUpTo depth) i (start'.plan i).closure (start'.plan i).count
            (start'.plan i).start renditions outcome last'
          ∧ on (renderUpTo (depth + 1) (.component i)) start = (outcome, last)
          ∧ on (renderUpTo (depth + 1) (.component i)) start' = (outcome, last')
          ∧ (last'.component i).vars = (last.component i).vars := by
  obtain ⟨start, start', hmap, hother, hmapped, hbinds, halike⟩ := hdata.alike hthere closure other
  refine ⟨start, start', hmap, hother, ?_, ?_⟩
  · intro honce index key hkey hself
    rw [List.getElem?_map, Option.map_eq_some_iff] at hkey
    obtain ⟨⟨_, value⟩, hentry, rfl⟩ := hkey
    rw [hmapped, honce.entry? hentry hself]
    show (entries.map Prod.snd)[index]? = _
    rw [List.getElem?_map, hentry]
    rfl
  · intro depth hunread
    obtain ⟨hplan, hcount, hplanned⟩ := halike.plan
    have hplanned' : bindsItems (start.plan i).closure = true :=
      bindsItems_plan (hbinds ▸ hclosure)
    obtain ⟨renditions, hends⟩ := exists_ends (renderUpTo depth) i (start.plan i).closure
      (start.plan i).count (start.plan i).start
    obtain ⟨last', hends', hlast⟩ := hunread.ends hplanned' hplanned hends
    obtain ⟨_, _, hcomponent⟩ := hlast.component
    have hrender (start : World) : on (renderUpTo (depth + 1) (.component i)) start = _ :=
      on_renderComponent_plan (renderUpTo depth) i start
    refine ⟨renditions, _, _, last', hends, ?_, hrender start, ?_, ?_⟩
    · rw [hplan, hcount]
      exact hends'
    · rw [hrender start', hplan, hcount]
      exact hends'.on_passesFrom
    · rw [hcomponent]

end Theory

section Witness

attribute [local instance] Native.usual FileSystem.plain

section Witness

attribute [local instance] Native.usual FileSystem.plain

/-- The world of two items with other data, and with one stream. -/
def twoHeld (x : String) (count : Nat) (data : Value) (held : List Value) : World :=
  { twoItems x count with
    components := [{ (twoItems x count).component 0 with data }]
    streams := [held] }

/-- A map with two truth values as its keys. -/
def byTruth : Value :=
  .map [(.bool true, .text "a"), (.bool false, .text "b")]

theorem rescope_twoHeld (x y : String) (data : Value) (held : List Value) :
    (twoHeld x 2 data held).rescope (.component 0) (Value.setEntry (.text "x") (.text y))
      = twoHeld y 2 data held := by
  have hset : Value.setEntry (.text "x") (.text y) [(.text "x", .text x)]
      = [(.text "x", .text y)] := by
    rw [Value.setEntry, Value.same_text]
    rfl
  show (twoHeld x 2 data held).setComponent 0 { (twoHeld x 2 data held).component 0 with
    vars := Value.setEntry (.text "x") (.text y) [(.text "x", .text x)] } = _
  rw [hset]
  rfl

/-- The first pass over the values of the map binds its first value, the second pass its second
    one. -/
theorem on_preparation_twoHeld (x : String) (held : List Value) :
    on (preparation 0 (some (.name "x")) 0) (twoHeld x 2 byTruth held)
        = (.ok (), twoHeld "a" 2 byTruth held)
      ∧ on (preparation 0 (some (.name "x")) 1) (twoHeld x 2 byTruth held)
        = (.ok (), twoHeld "b" 2 byTruth held) :=
  ⟨congrArg _ (rescope_twoHeld x "a" byTruth held), congrArg _ (rescope_twoHeld x "b" byTruth held)⟩

/-- The template of the two items is served from memory, whatever the data are. -/
theorem on_resolve_twoHeld (x : String) (data : Value) (held : List Value) :
    on (resolve 0 ⟨.component, "c"⟩) (twoHeld x 2 data held)
      = (.ok ⟨⟨.component, "c"⟩, .text "\x7b\x7b x \x7d\x7d", .zero false, 0⟩,
        twoHeld x 2 data held) := by
  have hcache : ((twoItems "" 0).site 0).cache.resolve ((twoItems "" 0).site 0).sources
      ((twoItems "" 0).site 0).ns.toList ⟨.component, "c"⟩ (twoItems "" 0).host
        = (.ok ⟨⟨.component, "c"⟩, .text "\x7b\x7b x \x7d\x7d", .zero false, 0⟩,
          ((twoItems "" 0).site 0).cache, (twoItems "" 0).host) := by
    rfl
  have hsite : (twoHeld x 2 data held).site 0 = (twoItems "" 0).site 0 := rfl
  have hhost : (twoHeld x 2 data held).host = (twoItems "" 0).host := rfl
  simp only [on_resolve_eq, hsite, hhost, hcache]
  rfl

/-- An execution shows the value under the name, whatever the data are. -/
theorem on_executeComponent_twoHeld (data : Value) (held : List Value) :
    on (executeComponent (renderUpTo 0) 0) (twoHeld "a" 2 data held)
        = (.ok "a", twoHeld "a" 2 data held)
      ∧ on (executeComponent (renderUpTo 0) 0) (twoHeld "b" 2 data held)
        = (.ok "b", twoHeld "b" 2 data held) := by
  constructor <;>
  · rw [executeComponent, on_bind_ok (on_get _), executeFor, on_bind_ok (on_get _)]
    refine (on_bind_ok (on_resolve_twoHeld _ data held)).trans ?_
    rfl

/-- Before each of the two passes only the value under the name is another one. -/
theorem unread_twoHeld (held : List Value) :
    Unread (renderUpTo 0) 0 0 ⟨some (.name "x"), 2, twoHeld "old" 2 byTruth held⟩ := by
  have hpass {index : Nat} {y : String} {prepared : World} (hindex : index < 2)
      (hprepare : on (preparation 0 (some (.name "x")) index) (twoHeld y 2 byTruth held)
        = (.ok (), prepared)) :
      prepared = twoHeld "a" 2 byTruth held ∨ prepared = twoHeld "b" 2 byTruth held := by
    rcases index with _ | _ | index
    · cases (on_preparation_twoHeld y held).1.symm.trans hprepare
      exact .inl rfl
    · cases (on_preparation_twoHeld y held).2.symm.trans hprepare
      exact .inr rfl
    · omega
  have hworlds {renditions : List Rendition} {world : World}
      (h : Executed (renderUpTo 0) 0 (some (.name "x")) (twoHeld "old" 2 byTruth held)
        renditions world) (hlength : renditions.length ≤ 2) :
      ∃ y, world = twoHeld y 2 byTruth held := by
    induction h with
    | start => exact ⟨"old", rfl⟩
    | next h hprepare hrun ih =>
        rw [List.length_append] at hlength
        obtain ⟨y, rfl⟩ := ih (Nat.le_of_succ_le hlength)
        rcases hpass hlength hprepare with rfl | rfl
        · cases (on_executeComponent_twoHeld byTruth held).1.symm.trans hrun
          exact ⟨"a", rfl⟩
        · cases (on_executeComponent_twoHeld byTruth held).2.symm.trans hrun
          exact ⟨"b", rfl⟩
  constructor
  · intro _ _ _ _ _ _ hpaths
    cases hpaths
  · intro renditions world prepared other h hlength hprepare halike
    obtain ⟨y, rfl⟩ := hworlds h (Nat.le_of_lt hlength)
    obtain ⟨data, stream, -, hother⟩ := halike.shape
    -- what is alike is the same world with other data and another stream
    rcases hpass hlength hprepare with rfl | rfl
    · have hshown : other = twoHeld "a" 2 data stream := hother
      have hrun := on_executeComponent_twoHeld data stream
      have hrun' := on_executeComponent_twoHeld byTruth held
      rw [← hshown] at hrun
      exact ⟨by rw [hrun.1, hrun'.1], by rw [hrun.1, hrun'.1]; exact halike⟩
    · have hshown : other = twoHeld "b" 2 data stream := hother
      have hrun := on_executeComponent_twoHeld data stream
      have hrun' := on_executeComponent_twoHeld byTruth held
      rw [← hshown] at hrun
      exact ⟨by rw [hrun.2, hrun'.2], by rw [hrun.2, hrun'.2]; exact halike⟩

/-- Over a map with two truth values as its keys, and over a stream that holds the two values, a
    component is rendered to one value after the other. -/
theorem render_each_alike_stream : ∃ start start' last last',
    on (each 0 byTruth (closureOf (.text "x")) none)
        (twoHeld "old" 0 (.list []) [.text "a", .text "b"]) = (.ok (), start)
      ∧ on (each 0 (.stream 0) (closureOf (.text "x")) none)
        (twoHeld "old" 0 (.list []) [.text "a", .text "b"]) = (.ok (), start')
      ∧ on (renderUpTo 1 (.component 0)) start = (.ok "ab", last)
      ∧ on (renderUpTo 1 (.component 0)) start' = (.ok "ab", last')
      ∧ (last'.component 0).vars = (last.component 0).vars := by
  have hthere : 0 < (twoHeld "old" 0 (.list []) [.text "a", .text "b"]).components.length :=
    Nat.one_pos
  have hdata : Holding (twoHeld "old" 0 (.list []) [.text "a", .text "b"]) 0
      ([(Value.bool true, Value.text "a"), (.bool false, .text "b")].map Prod.snd) (.stream 0) :=
    .stream rfl
  have hclosure : bindsItems (some (.name "x")) = true := rfl
  obtain ⟨start, start', hmap, hstream, -, hrender⟩ :=
    render_each_alike hthere hdata hclosure none
  have hstart : start = twoHeld "old" 2 byTruth [.text "a", .text "b"] := by
    cases hmap
    rfl
  have hplan : start.plan 0 = ⟨some (.name "x"), 2, start⟩ := by
    subst hstart
    rfl
  have hunread : Unread (renderUpTo 0) 0 0 (start.plan 0) := by
    rw [hplan, hstart]
    exact unread_twoHeld _
  obtain ⟨_, outcome, last, last', -, -, hrun, hrun', hvars⟩ := hrender 0 hunread
  have hout : (on (renderUpTo 1 (.component 0)) start).1 = .ok "ab" := by
    subst hstart
    decide +kernel
  rw [hrun] at hout
  cases hout
  exact ⟨start, start', last, last', hmap, hstream, hrun, hrun', hvars⟩

/-- A template that shows the data of its component shows a map otherwise than a list. -/
theorem render_each_shown : ∃ start start' : World,
    on (each 0 (.map [(.text "a", .int 1)]) (closureOf .null) (some ""))
        (sourceOf "\x7b\x7b this.for_data \x7d\x7d" []) = (.ok (), start)
      ∧ on (each 0 (.list [.int 1]) (closureOf .null) (some ""))
        (sourceOf "\x7b\x7b this.for_data \x7d\x7d" []) = (.ok (), start')
      ∧ (on (render (.component 0)) start).1 = .ok "\x7b'a': 1\x7d"
      ∧ (on (render (.component 0)) start').1 = .ok "[1]" :=
  ⟨_, _, rfl, rfl, by decide +kernel, by decide +kernel⟩

end Witness

end Witness

end Engine

end Stencil
