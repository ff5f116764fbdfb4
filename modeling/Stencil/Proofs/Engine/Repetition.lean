import Stencil.Proofs.Engine.Bindings

/-! # Repetitions — passes over the items of data

    All passes of a component share one scope, and a render begins with the scope
    that the render before it left.  Before a pass the closure finds values in the
    item of the pass and binds them under its targets.  As it binds every target
    before every pass, what an earlier pass has left under a target is never seen:
    off the targets the scope stays what it was, and under them it holds what was
    found in the item of the pass.

    Headline: `passes_each`. -/

namespace Stencil

open Engine

/-! ## Scopes as maps -/

/-- Scopes that have the same values under all names. -/
def Agree (scope other : Scope) : Prop :=
  ∀ name : String, Value.entry? scope (.text name) = Value.entry? other (.text name)

/-- Scopes that have the same values under all names but some targets. -/
def AgreeOff (targets : List Value) (scope other : Scope) : Prop :=
  ∀ name : String, (∀ target ∈ targets, target.text? ≠ some name) →
    Value.entry? scope (.text name) = Value.entry? other (.text name)

namespace Bindings

theorem last?_eq_none_iff {bindings : Bindings} {name : String} :
    bindings.last? name = none ↔ ∀ target ∈ bindings.map Prod.fst, target.text? ≠ some name := by
  rw [last?, Option.map_eq_none_iff, List.getLast?_eq_none_iff, List.filter_eq_nil_iff,
    List.forall_mem_map]
  exact forall₂_congr fun entry _ => not_congr beq_iff_eq

/-- Bindings change nothing but the values of their targets. -/
theorem agreeOff_onto (bindings : Bindings) (scope : Scope) :
    AgreeOff (bindings.map Prod.fst) (bindings.onto scope) scope := by
  intro name hname
  rw [entry?_onto_scope, last?_eq_none_iff.mpr hname]
  rfl

/-- What bindings make of a scope does not depend on the values of their targets. -/
theorem agree_onto {bindings : Bindings} {scope other : Scope}
    (h : AgreeOff (bindings.map Prod.fst) scope other) :
    Agree (bindings.onto scope) (bindings.onto other) := by
  intro name
  rw [entry?_onto_scope, entry?_onto_scope]
  cases hlast : bindings.last? name with
  | some value => rfl
  | none => rw [h name (last?_eq_none_iff.mp hlast)]

end Bindings

namespace AgreeOff

variable {targets : List Value} {scope middle other : Scope}

theorem refl (targets : List Value) (scope : Scope) : AgreeOff targets scope scope :=
  fun _ _ => rfl

theorem trans (h : AgreeOff targets scope middle) (h' : AgreeOff targets middle other) :
    AgreeOff targets scope other :=
  fun name hname => (h name hname).trans (h' name hname)

/-- Scopes that agree off some targets agree off more of them. -/
theorem mono {more : List Value} (hmore : targets ⊆ more) (h : AgreeOff targets scope other) :
    AgreeOff more scope other :=
  fun name hname => h name fun target htarget => hname target (hmore htarget)

end AgreeOff

namespace Closure

/-- The targets under which a closure binds what it finds in an item. -/
def targets : Closure → List Value
  | .paths targets => targets.map Prod.fst
  | .name target => [.text target]
  | _ => []

/-- Whether a closure binds what it finds in an item: what paths lead to, or the item itself. -/
def isOverItems : Closure → Bool
  | .paths _ => true
  | .name _ => true
  | _ => false

end Closure

namespace World

variable {world : World} {i : Nat}

theorem component_rescope (h : i < world.components.length) (change : Scope → Scope) :
    (world.rescope (.component i) change).component i
      = { world.component i with vars := change (world.component i).vars } :=
  component_setComponent_self h _

theorem length_rescope (i : Nat) (change : Scope → Scope) :
    (world.rescope (.component i) change).components.length = world.components.length :=
  length_setComponent i _

end World

namespace Engine

section Theory

variable [Substrate]

/-! ## What a closure finds in an item -/

/-- What a closure binds for an item: the item under its name, or what its paths lead to, each
    followed in the world that the binding before it has left. -/
inductive Gathers (i : Nat) (item : Value) : Closure → World → Bindings → World → Prop
  | name (target : String) (world : World) :
      Gathers i item (.name target) world [(.text target, item)]
        (world.rescope (.component i) (Value.setEntry (.text target) item.bound))
  | done (world : World) : Gathers i item (.paths []) world [] world
  | path {target path found : Value} {way : String} {rest : List (Value × Value)}
      {bindings : Bindings} {world last : World} (hway : path.text? = some way)
      (hfound : BindPath.resolve world.surroundings item way (world.component i).template
        = .ok found)
      (h : Gathers i item (.paths rest)
        (world.rescope (.component i) (Value.setEntry target found.bound)) bindings last) :
      Gathers i item (.paths ((target, path) :: rest)) world ((target, found) :: bindings) last

/-- What a closure finds in an item whatever the fragments are: the item, or what its paths lead
    to. -/
inductive Leads (item : Value) : Closure → Bindings → Prop
  | name (target : String) : Leads item (.name target) [(.text target, item)]
  | done : Leads item (.paths []) []
  | path {target path found : Value} {way : String} {rest : List (Value × Value)}
      {bindings : Bindings} (hway : path.text? = some way)
      (hfound : ∀ (world : World) (template : String),
        BindPath.resolve world.surroundings item way template = .ok found)
      (h : Leads item (.paths rest) bindings) :
      Leads item (.paths ((target, path) :: rest)) ((target, found) :: bindings)

section Gathering

variable {i : Nat} {item : Value} {closure : Closure} {world next : World} {bindings : Bindings}

/-- Every target is bound, in the scope of the component, and nothing else changes. -/
theorem Gathers.component (h : Gathers i item closure world bindings next)
    (hthere : i < world.components.length) :
    bindings.map Prod.fst = closure.targets
      ∧ next.components.length = world.components.length
      ∧ next.component i
        = { world.component i with vars := bindings.onto (world.component i).vars } := by
  induction h with
  | name target world => exact ⟨rfl, World.length_rescope i _, World.component_rescope hthere _⟩
  | done world => exact ⟨rfl, rfl, rfl⟩
  | @path target path found way rest bindings world last hway hfound _ ih =>
      rw [World.length_rescope, World.component_rescope hthere] at ih
      obtain ⟨htargets, hlength, hcomponent⟩ := ih hthere
      exact ⟨congrArg (target :: ·) htargets, hlength, hcomponent⟩

/-- The paths of a closure are followed to the last one, or up to one that leads nowhere. -/
theorem on_bindPaths_cases (i : Nat) (item : Value) (targets : List (Value × Value))
    (world : World) :
    (∃ bindings next, Gathers i item (.paths targets) world bindings next
      ∧ on (bindPaths i item targets) world = (.ok (), next))
    ∨ ∃ first bindings next fault, first <+: targets
      ∧ Gathers i item (.paths first) world bindings next
      ∧ on (bindPaths i item targets) world = (.error fault, next) := by
  induction targets generalizing world with
  | nil => exact .inl ⟨[], world, .done world, rfl⟩
  | cons entry targets ih =>
      obtain ⟨target, path⟩ := entry
      rw [bindPaths]
      rcases Rendering.on_pathOf_cases path world with ⟨fault, hpath⟩ | ⟨way, hway, hpath⟩
      · rw [on_bind_error hpath]
        exact .inr ⟨[], [], world, fault, List.nil_prefix, .done world, rfl⟩
      · rw [on_bind_ok hpath, on_bind_ok (on_get world)]
        cases hfound : BindPath.resolve world.surroundings item way
          (world.component i).template with
        | error fault => exact .inr ⟨[], [], world, fault, List.nil_prefix, .done world, rfl⟩
        | ok found =>
            rcases ih (world.rescope (.component i) (Value.setEntry target found.bound)) with
              ⟨bindings, next, hgathers, hrun⟩
                | ⟨first, bindings, next, fault, hfirst, hgathers, hrun⟩
            · exact .inl ⟨_, next, .path hway hfound hgathers, hrun⟩
            · exact .inr ⟨_, _, next, fault, (List.prefix_cons_inj _).mpr hfirst,
                .path hway hfound hgathers, hrun⟩

/-- What a closure finds whatever the fragments are, it binds in every world. -/
theorem Leads.gathers (h : Leads item closure bindings) (i : Nat) (world : World) :
    ∃ next, Gathers i item closure world bindings next := by
  induction h generalizing world with
  | name target => exact ⟨_, .name target world⟩
  | done => exact ⟨world, .done world⟩
  | path hway hfound _ ih =>
      obtain ⟨next, hnext⟩ := ih (world.rescope (.component i) (Value.setEntry _ _))
      exact ⟨next, .path hway (hfound _ _) hnext⟩

/-- Followed to the last one, the paths of a closure bind what they lead to. -/
theorem Gathers.on_bindPaths {targets : List (Value × Value)}
    (h : Gathers i item (.paths targets) world bindings next) :
    on (bindPaths i item targets) world = (.ok (), next) := by
  generalize hclosure : Closure.paths targets = closure at h
  induction h generalizing targets with
  | name target world => cases hclosure
  | done world =>
      cases hclosure
      rfl
  | @path target path found way rest bindings world last hway hfound _ ih =>
      cases hclosure
      have hpath : on (pathOf path) world = (.ok way, world) := by
        cases path with
        | text s => cases hway; rfl
        | safe s => cases hway; rfl
        | _ => cases hway
      rw [bindPaths, on_bind_ok hpath, on_bind_ok (on_get world), hfound]
      exact ih rfl

end Gathering

/-! ## Components that repeat -/

/-- A component is there, has items to repeat over, and has a scope that is as it was off the
    targets of its closure. -/
structure Ready (i : Nat) (closure : Closure) (items : List Value) (scope : Scope) (world : World) :
    Prop where
  overItems : closure.isOverItems = true
  there : i < world.components.length
  items : (world.component i).data.items?.getD [] = items
  scope : AgreeOff closure.targets (world.component i).vars scope

/-- A component keeps its scope and its data. -/
structure Leaves (i : Nat) (world next : World) : Prop where
  there : i < world.components.length → i < next.components.length
  scope : (next.component i).vars = (world.component i).vars
  data : (next.component i).data = (world.component i).data

namespace Ready

variable {i index : Nat} {closure : Closure} {items : List Value} {scope : Scope}
  {world next : World}

omit [Substrate] in
theorem leaves (h : Ready i closure items scope world) (hleaves : Leaves i world next) :
    Ready i closure items scope next where
  overItems := h.overItems
  there := hleaves.there h.there
  items := by rw [hleaves.data]; exact h.items
  scope := by rw [hleaves.scope]; exact h.scope

/-- What a closure with no other targets binds leaves a component ready. -/
theorem gathers (h : Ready i closure items scope world) {item : Value} {other : Closure}
    {bindings : Bindings} (htargets : other.targets ⊆ closure.targets)
    (hgathers : Gathers i item other world bindings next) : Ready i closure items scope next := by
  obtain ⟨hnames, hlength, hcomponent⟩ := hgathers.component h.there
  have hbound := Bindings.agreeOff_onto bindings (world.component i).vars
  rw [hnames] at hbound
  refine ⟨h.overItems, hlength ▸ h.there, ?_, ?_⟩
  · rw [hcomponent]
    exact h.items
  · rw [hcomponent]
    exact (hbound.mono htargets).trans h.scope

/-- With what a closure finds bound in it, the scope is the one that was, with that bound onto
    it. -/
theorem agree (h : Ready i closure items scope world) {item : Value} {bindings : Bindings}
    (hgathers : Gathers i item closure world bindings next) :
    Agree (next.component i).vars (bindings.onto scope) := by
  obtain ⟨hnames, _, hcomponent⟩ := hgathers.component h.there
  rw [hcomponent]
  refine Bindings.agree_onto ?_
  rw [hnames]
  exact h.scope

/-- A pass whose item is there takes that item, and binds what the closure finds in it, or is
    stopped by a path that leads nowhere; without an item it is stopped too. -/
theorem prepare_cases (h : Ready i closure items scope world) (index : Nat) :
    (∃ item bindings next, items[index]? = some item
      ∧ Gathers i item closure world bindings next
      ∧ on (prepare i closure index) world = (.ok (), next))
    ∨ ∃ fault next, Ready i closure items scope next
      ∧ on (prepare i closure index) world = (.error fault, next) := by
  have hover := h.overItems
  cases closure with
  | paths targets =>
      rw [prepare]
      rcases Rendering.on_itemAt_cases i index world with ⟨fault, hrun⟩ | ⟨item, hitem, hrun⟩
      · rw [on_bind_error hrun]
        exact .inr ⟨fault, world, h, rfl⟩
      · rw [on_bind_ok hrun]
        rcases on_bindPaths_cases i item targets world with ⟨bindings, next, hgathers, hbind⟩
          | ⟨first, bindings, next, fault, hfirst, hgathers, hbind⟩
        · exact .inl ⟨item, bindings, next, h.items ▸ hitem, hgathers, hbind⟩
        · have htargets : (Closure.paths first).targets ⊆ (Closure.paths targets).targets :=
            List.map_subset _ hfirst.subset
          exact .inr ⟨fault, next, h.gathers htargets hgathers, hbind⟩
  | name target =>
      rw [prepare]
      rcases Rendering.on_itemAt_cases i index world with ⟨fault, hrun⟩ | ⟨item, hitem, hrun⟩
      · rw [on_bind_error hrun]
        exact .inr ⟨fault, world, h, rfl⟩
      · rw [on_bind_ok hrun]
        exact .inl ⟨item, _, _, h.items ▸ hitem, .name target world, rfl⟩
  | counted f => cases hover
  | itemwise f => cases hover
  | called callee => cases hover

/-- A pass binds what the closure finds in its item. -/
theorem on_prepare (h : Ready i closure items scope world) {item : Value} {bindings : Bindings}
    (hitem : items[index]? = some item) (hgathers : Gathers i item closure world bindings next) :
    on (prepare i closure index) world = (.ok (), next) := by
  have hthere : on (itemAt i index) world = (.ok item, world) := by
    rw [itemAt, on_bind_ok (on_get world)]
    simp only [h.items, hitem]
    rfl
  cases closure with
  | paths targets =>
      rw [prepare, on_bind_ok hthere]
      exact hgathers.on_bindPaths
  | name target =>
      rw [prepare, on_bind_ok hthere]
      cases hgathers
      rfl
  | _ => cases hgathers

end Ready

/-! ## Renders one after the other -/

variable [FileSystem]

/-- Whatever a template does, an execution in a pass leaves the component its scope and its data. -/
def Undisturbed (render : Handle → Engine String) (i : Nat) (closure : Closure) (start : World) :
    Prop :=
  ∀ {index : Nat} {out : String} {world prepared : World},
    Passed render i (some closure) start index out world →
    on (prepare i closure index) world = (.ok (), prepared) →
    Leaves i prepared (on (executeComponent render i) prepared).2

/-- A component that is rendered in as many passes as there are items, prepared by a closure. -/
structure IsSpread (i : Nat) (closure : Closure) (items : List Value) (world : World) : Prop where
  gate : (world.component i).gate ≠ some false
  closure : (world.component i).closure = some closure
  count : (world.component i).count = items.length

/-- The worlds that follow a repetition of a component over items, with the items and the scope
    that the component had when others last bound in it.  Renders that leave the component its scope
    and data, and whatever else leaves it them, are between. -/
inductive Repeating (i : Nat) (closure : Closure) : List Value → Scope → World → Prop
  | each {data : Value} {other : Option String} {world start : World}
      (hthere : i < world.components.length) (hover : closure.isOverItems = true)
      (hitems : world.heldBy data ≠ [])
      (hrun : on (each i data (.ok (some closure)) other) world = (.ok (), start)) :
      Repeating i closure (world.heldBy data) (start.component i).vars start
  | bound {items : List Value} {scope : Scope} {world next : World}
      (hthere : i < next.components.length)
      (hdata : (next.component i).data = (world.component i).data)
      (h : Repeating i closure items scope world) :
      Repeating i closure items (next.component i).vars next
  | render {items : List Value} {scope : Scope} {world : World} (depth : Nat)
      (hspread : IsSpread i closure items world)
      (hkept : Undisturbed (renderUpTo depth) i closure world)
      (h : Repeating i closure items scope world) :
      Repeating i closure items scope (on (renderUpTo (depth + 1) (.component i)) world).2
  | aside {items : List Value} {scope : Scope} {world next : World} (hleaves : Leaves i world next)
      (h : Repeating i closure items scope world) : Repeating i closure items scope next

omit [Substrate] [FileSystem] in
/-- A repetition over items spreads a component over them, unless its gate is shut. -/
theorem IsSpread.of_each {i : Nat} {data : Value} {closure : Closure} {other : Option String}
    {world start : World} (hthere : i < world.components.length)
    (hgate : (world.component i).gate ≠ some false)
    (hrun : on (each i data (.ok (some closure)) other) world = (.ok (), start)) :
    IsSpread i closure (world.heldBy data) start := by
  obtain ⟨found, _, _, hcomponent⟩ := on_each_ok hthere hrun
  constructor
  · rw [hcomponent]
    exact hgate
  · rw [hcomponent]
  · rw [hcomponent]

section Repeating

variable {render : Handle → Engine String} {i index : Nat} {closure : Closure}
  {items : List Value} {scope : Scope} {start world : World} {out : String}

/-- Each pass begins with a component that is ready. -/
theorem Ready.passed (h : Ready i closure items scope start)
    (hkept : Undisturbed render i closure start)
    (hpassed : Passed render i (some closure) start index out world) :
    Ready i closure items scope world := by
  induction hpassed with
  | start => exact h
  | @next index out more world prepared after hpassed hprepare hrun ih =>
      have hready : Ready i closure items scope prepared := by
        rcases ih.prepare_cases index with ⟨_, _, next, _, hgathers, hok⟩ | ⟨_, _, _, herror⟩
        · cases hok.symm.trans hprepare
          exact ih.gathers (List.Subset.refl _) hgathers
        · cases herror.symm.trans hprepare
      have hleaves := hkept hpassed hprepare
      rw [hrun] at hleaves
      exact hready.leaves hleaves

/-- A render that leaves a component its scope and data leaves it ready, however it ends. -/
theorem Ready.rendered (h : Ready i closure items scope start) (hitems : items ≠ [])
    (hspread : IsSpread i closure items start) (hkept : Undisturbed render i closure start) :
    Ready i closure items scope (on (renderComponent render i) start).2 := by
  have hcount : 0 < (start.component i).count :=
    hspread.count ▸ List.length_pos_iff.mpr hitems
  rw [on_renderComponent_passes hspread.gate hcount, hspread.closure]
  rcases passed_or_stops render i (some closure) start (start.component i).count with
    ⟨out, last, hpassed, hrun⟩ | ⟨index, out, world, fault, last, _, hpassed, hstops, hrun⟩
  · rw [hrun]
    exact h.passed hkept hpassed
  · rw [hrun]
    have hready := h.passed hkept hpassed
    cases hstops with
    | prepare hprepare =>
        rcases hready.prepare_cases index with ⟨_, _, _, _, _, hok⟩ | ⟨_, _, hnext, herror⟩
        · cases hok.symm.trans hprepare
        · cases herror.symm.trans hprepare
          exact hnext
    | @execute prepared hprepare hexecute =>
        rcases hready.prepare_cases index with ⟨_, _, _, _, hgathers, hok⟩ | ⟨_, _, _, herror⟩
        · cases hok.symm.trans hprepare
          have hleaves := hkept hpassed hprepare
          rw [hexecute] at hleaves
          exact (hready.gathers (List.Subset.refl _) hgathers).leaves hleaves
        · cases herror.symm.trans hprepare

/-- A component that repeats over items is ready for a render. -/
theorem Repeating.ready (h : Repeating i closure items scope world) :
    items ≠ [] ∧ Ready i closure items scope world := by
  induction h with
  | @each data other world start hthere hover hitems hrun =>
      obtain ⟨found, hheld, hthere, hcomponent⟩ := on_each_ok hthere hrun
      refine ⟨hitems, hover, hthere, ?_, .refl _ _⟩
      rw [hcomponent]
      exact hheld
  | bound hthere hdata _ ih =>
      refine ⟨ih.1, ih.2.overItems, hthere, ?_, .refl _ _⟩
      rw [hdata]
      exact ih.2.items
  | render depth hspread hkept _ ih => exact ⟨ih.1, ih.2.rendered ih.1 hspread hkept⟩
  | aside hleaves _ ih => exact ⟨ih.1, ih.2.leaves hleaves⟩

/-- **Passes over items** do not see one another, in the first render and in every later one.  The
    scope of a pass is, as a map of names to values, the scope that the component had before the
    render, with what the closure finds in the item of the pass bound onto it, and that is what it
    would be before the first render.  The items are taken in their order, each in one pass; only a
    pass that stops leaves items over.  If the closure finds the same whatever the fragments are,
    no pass stops while it is prepared, and all renders run passes with the same scopes. -/
theorem passes_each (h : Repeating i closure items scope start)
    (hspread : IsSpread i closure items start) (depth : Nat)
    (hkept : Undisturbed (renderUpTo depth) i closure start) :
    (∀ index out world prepared, Passed (renderUpTo depth) i (some closure) start index out world →
      on (prepare i closure index) world = (.ok (), prepared) →
      ∃ item bindings, items[index]? = some item
        ∧ Gathers i item closure world bindings prepared
        ∧ Agree (prepared.component i).vars (bindings.onto (start.component i).vars)
        ∧ Agree (prepared.component i).vars (bindings.onto scope))
    ∧ ((∃ out last, Passed (renderUpTo depth) i (some closure) start items.length out last
        ∧ on (renderUpTo (depth + 1) (.component i)) start = (.ok out, last))
      ∨ ∃ index out world fault last, index < items.length
        ∧ Passed (renderUpTo depth) i (some closure) start index out world
        ∧ Stops (renderUpTo depth) i (some closure) index world fault last
        ∧ on (renderUpTo (depth + 1) (.component i)) start = (.error fault, last))
    ∧ ∀ all, List.Forall₂ (Leads · closure) items all →
      ∀ index out world, index < items.length →
        Passed (renderUpTo depth) i (some closure) start index out world →
        ∃ bindings prepared, all[index]? = some bindings
          ∧ on (prepare i closure index) world = (.ok (), prepared)
          ∧ Agree (prepared.component i).vars (bindings.onto scope) := by
  obtain ⟨hitems, hready⟩ := h.ready
  have hown : Ready i closure items (start.component i).vars start :=
    ⟨hready.overItems, hready.there, hready.items, .refl _ _⟩
  have hcount : 0 < (start.component i).count :=
    hspread.count ▸ List.length_pos_iff.mpr hitems
  have hrun : on (renderUpTo (depth + 1) (.component i)) start
      = on (passesFrom (renderUpTo depth) i (some closure) 0 items.length) start := by
    show on (renderComponent (renderUpTo depth) i) start = _
    rw [on_renderComponent_passes hspread.gate hcount, hspread.closure, hspread.count]
  refine ⟨?_, ?_, ?_⟩
  · intro index out world prepared hpassed hprepare
    rcases (hready.passed hkept hpassed).prepare_cases index with
      ⟨item, bindings, next, hitem, hgathers, hok⟩ | ⟨_, _, _, herror⟩
    · cases hok.symm.trans hprepare
      exact ⟨item, bindings, hitem, hgathers, (hown.passed hkept hpassed).agree hgathers,
        (hready.passed hkept hpassed).agree hgathers⟩
    · cases herror.symm.trans hprepare
  · rw [hrun]
    exact passed_or_stops (renderUpTo depth) i (some closure) start items.length
  · intro all hall index out world hindex hpassed
    have hthere := hready.passed hkept hpassed
    have hlength : index < all.length := hall.length_eq ▸ hindex
    have hleads : Leads items[index] closure all[index] := hall.get hindex hlength
    obtain ⟨prepared, hgathers⟩ := hleads.gathers i world
    exact ⟨all[index], prepared, List.getElem?_eq_getElem hlength,
      hthere.on_prepare (List.getElem?_eq_getElem hindex) hgathers, hthere.agree hgathers⟩

end Repeating

end Theory

/-! ## Two items, and templates that disturb -/

section Witness

attribute [local instance] Native.usual FileSystem.plain

/-- The script that shows a variable. -/
def showing (name : String) : Script :=
  fun strict vars => do return (← Native.runNodes strict [.output (.name name)] vars).1

/-- A world with a component that has a value under a name and two items, and a site that holds the
    script of its template. -/
def twoItems (x : String) (count : Nat) : World where
  host := ⟨⟨[(["site", "c.html"], .file ⟨[], .zero false⟩)]⟩, .zero false, 0, 0⟩
  switch := none
  sites := [⟨⟨[(.component, ["site"])], ".html"⟩, "mky", false,
    ⟨⟨[(⟨.component, "c"⟩,
      ⟨⟨⟨.component, "c"⟩, .text "\x7b\x7b x \x7d\x7d", .zero false, 0⟩, .zero false⟩)]⟩, none⟩,
    ⟨[(⟨.component, "c"⟩, "\x7b\x7b x \x7d\x7d", showing "x")]⟩⟩]
  components := [⟨0, "c", [(.text "x", .text x)], count, some (.name "x"), none,
    .list [.text "a", .text "b"], none⟩]
  views := []
  streams := []

theorem on_prepare_twoItems (x : String) :
    on (prepare 0 (.name "x") 0) (twoItems x 2) = (.ok (), twoItems "a" 2)
      ∧ on (prepare 0 (.name "x") 1) (twoItems x 2) = (.ok (), twoItems "b" 2) := by
  have hset (y : Value) :
      Value.setEntry (.text "x") y [(.text "x", .text x)] = [(.text "x", y)] := by
    rw [Value.setEntry, Value.same_text]
    rfl
  have hprepared (item : String) : (twoItems x 2).rescope (.component 0)
      (Value.setEntry (.text "x") (.text item)) = twoItems item 2 := by
    show (twoItems x 2).setComponent 0 { (twoItems x 2).component 0 with
      vars := Value.setEntry (.text "x") (.text item) [(.text "x", .text x)] } = _
    rw [hset]
    rfl
  exact ⟨congrArg _ (hprepared "a"), congrArg _ (hprepared "b")⟩

/-- An execution shows the value under the name and changes nothing. -/
theorem on_executeComponent_twoItems :
    on (executeComponent (renderUpTo 0) 0) (twoItems "a" 2) = (.ok "a", twoItems "a" 2)
      ∧ on (executeComponent (renderUpTo 0) 0) (twoItems "b" 2) = (.ok "b", twoItems "b" 2) :=
  ⟨by rfl, by rfl⟩

/-- After any passes, only the value under the name is another one. -/
theorem undisturbed_twoItems (x : String) :
    Undisturbed (renderUpTo 0) 0 (.name "x") (twoItems x 2) := by
  -- a pass beyond the second one has no item
  have hpass {index : Nat} {y : String} {prepared : World}
      (hprepare : on (prepare 0 (.name "x") index) (twoItems y 2) = (.ok (), prepared)) :
      prepared = twoItems "a" 2 ∨ prepared = twoItems "b" 2 := by
    rcases index with _ | _ | index
    · cases (on_prepare_twoItems y).1.symm.trans hprepare
      exact .inl rfl
    · cases (on_prepare_twoItems y).2.symm.trans hprepare
      exact .inr rfl
    · cases hprepare
  have hexecute {prepared : World}
      (hprepared : prepared = twoItems "a" 2 ∨ prepared = twoItems "b" 2) :
      (on (executeComponent (renderUpTo 0) 0) prepared).2 = prepared := by
    rcases hprepared with rfl | rfl
    · exact congrArg Prod.snd on_executeComponent_twoItems.1
    · exact congrArg Prod.snd on_executeComponent_twoItems.2
  have hworlds {index : Nat} {out : String} {world : World}
      (h : Passed (renderUpTo 0) 0 (some (.name "x")) (twoItems x 2) index out world) :
      ∃ y, world = twoItems y 2 := by
    induction h with
    | start => exact ⟨x, rfl⟩
    | next _ hprepare hrun ih =>
        obtain ⟨y, rfl⟩ := ih
        have hprepared := hpass hprepare
        have hsame := hexecute hprepared
        rw [hrun] at hsame
        rcases hprepared with rfl | rfl
        · exact ⟨"a", hsame⟩
        · exact ⟨"b", hsame⟩
  intro index out world prepared hpassed hprepare
  obtain ⟨y, rfl⟩ := hworlds hpassed
  rw [hexecute (hpass hprepare)]
  exact ⟨id, rfl, rfl⟩

/-- The passes over the two items, whatever the name was bound to before. -/
theorem passed_twoItems (x : String) :
    Passed (renderUpTo 0) 0 (some (.name "x")) (twoItems x 2) 1 "a" (twoItems "a" 2)
      ∧ Passed (renderUpTo 0) 0 (some (.name "x")) (twoItems x 2) 2 "ab" (twoItems "b" 2) := by
  have hfirst : Passed (renderUpTo 0) 0 (some (.name "x")) (twoItems x 2) 1 ("" ++ "a")
      (twoItems "a" 2) := .next .start (on_prepare_twoItems x).1 on_executeComponent_twoItems.1
  have hsecond : Passed (renderUpTo 0) 0 (some (.name "x")) (twoItems x 2) 2 ("" ++ "a" ++ "b")
      (twoItems "b" 2) :=
    .next hfirst (on_prepare_twoItems "a").2 on_executeComponent_twoItems.2
  exact ⟨hfirst, hsecond⟩

theorem on_renderUpTo_twoItems (x : String) :
    on (renderUpTo 1 (.component 0)) (twoItems x 2) = (.ok "ab", twoItems "b" 2) := by
  show on (renderComponent (renderUpTo 0) 0) (twoItems x 2) = _
  have hgate : ((twoItems x 2).component 0).gate ≠ some false := by
    intro hshut
    cases hshut
  have hcount : 0 < ((twoItems x 2).component 0).count := Nat.two_pos
  rw [on_renderComponent_passes hgate hcount]
  exact (passed_twoItems x).2.on_passesFrom (Nat.le_refl 2)

/-- A second render of two items puts out what the first did, and its second pass sees the second
    item under the name, which was bound before. -/
theorem passes_each_twice : ∃ start,
    Repeating 0 (.name "x") [.text "a", .text "b"] [(.text "x", .text "old")] start
      ∧ (on (renderUpTo 1 (.component 0)) (twoItems "old" 2)).2 = start
      ∧ ∃ out world prepared,
        Passed (renderUpTo 0) 0 (some (.name "x")) start 1 out world
        ∧ on (prepare 0 (.name "x") 1) world = (.ok (), prepared)
        ∧ Value.entry? (prepared.component 0).vars (.text "x") = some (.text "b") := by
  have hrun : on (each 0 (.list [.text "a", .text "b"]) (.ok (some (.name "x"))) none)
      (twoItems "old" 0) = (.ok (), twoItems "old" 2) := rfl
  have hspread : IsSpread 0 (.name "x") [.text "a", .text "b"] (twoItems "old" 2) :=
    .of_each Nat.one_pos (by decide) hrun
  have hfirst : Repeating 0 (.name "x") [.text "a", .text "b"] [(.text "x", .text "old")]
      (twoItems "old" 2) := by
    have hitems : (twoItems "old" 0).heldBy (.list [.text "a", .text "b"]) ≠ [] :=
      List.cons_ne_nil _ _
    exact .each Nat.one_pos rfl hitems hrun
  have hsecond := hfirst.render 0 hspread (undisturbed_twoItems "old")
  rw [on_renderUpTo_twoItems] at hsecond
  have hpasses := passes_each hsecond ⟨nofun, rfl, rfl⟩ 0 (undisturbed_twoItems "b")
  have hall : List.Forall₂ (Leads · (.name "x")) [.text "a", .text "b"]
      [[(.text "x", .text "a")], [(.text "x", .text "b")]] :=
    .cons (.name "x") (.cons (.name "x") .nil)
  obtain ⟨bindings, prepared, hbindings, hprepare, hagree⟩ :=
    hpasses.2.2 _ hall 1 _ _ Nat.one_lt_two (passed_twoItems "b").1
  cases hbindings
  refine ⟨_, hsecond, congrArg Prod.snd (on_renderUpTo_twoItems "old"), _, _, prepared,
    (passed_twoItems "b").1, hprepare, ?_⟩
  rw [hagree "x", Bindings.entry?_onto_scope]
  rfl

/-- A template that gives its component other data takes the next item from that; and an item whose
    path leads to the component's own scope leads to another value in a second render. -/
theorem passes_each_disturbed :
    (∃ start, on (each 0 (.list [.int 1, .int 2]) (closureOf (.text "x")) none)
        (sourceOf "\x7b\x7b x \x7d\x7d\x7b% set a = this.each([9, 8], 'x') %\x7d" [])
          = (.ok (), start)
      ∧ (on (render (.component 0)) start).1 = .ok "18")
    ∧ ∃ start, on (each 0 (.list [.fragment (.component 0)])
        (closureOf (.map [(.text "x", .text "variables.x")])) none)
        (sourceOf "\x7b\x7b x \x7d\x7d;" [(.text "x", .text "&amp;")]) = (.ok (), start)
      ∧ (on (render (.component 0)) start).1 = .ok "&amp;amp;;"
      ∧ (on (render (.component 0)) (on (render (.component 0)) start).2).1
        = .ok "&amp;amp;amp;;" :=
  ⟨⟨_, rfl, by decide +kernel⟩, _, rfl, by decide +kernel, by decide +kernel⟩

end Witness

end Engine

end Stencil
