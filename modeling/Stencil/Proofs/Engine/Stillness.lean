import Stencil.Proofs.Engine.Bindings
import Stencil.Proofs.Engine.Nesting
import Stencil.Proofs.Engine.Rerun

/-! # Stillness — views that stay as they are when they are rendered

    A view is changed by nothing but bindings for it, layouts that are set on it
    and changes of its variables in place.  A render whose templates ask for none
    of these leaves the view as it is, whether it comes to an output or to a fault.
    So the layout is executed for the variables that the view was executed for,
    with the view's output over them, and only if there is such an output.  And
    since the next render finds the same view, and of the sources what the last one
    has found, it comes to the same, whenever it is.

    Headline: `render_still`. -/

namespace Stencil

open Engine

/-! ## Requests that leave a view as it is -/

/-- Whether a request leaves a view as it is: it binds nothing for it, sets no layout on it and
    does not change its variables in place. -/
def Request.SparesView (i : Nat) : Request → Prop
  | .call handle method _ _ =>
    handle = .view i → method ≠ .bind ∧ method ≠ .multipleBind ∧ method ≠ .extend
  | .alterScope handle _ => handle ≠ .view i
  | _ => True

instance (i : Nat) : DecidablePred (Request.SparesView i)
  | .call handle method _ _ =>
    inferInstanceAs (Decidable
      (handle = .view i → method ≠ .bind ∧ method ≠ .multipleBind ∧ method ≠ .extend))
  | .alterScope handle _ => inferInstanceAs (Decidable (handle ≠ .view i))
  | .look | .next _ | .render _ | .alterData _ _ | .files => .isTrue trivial

namespace Engine

variable {i : Nat}

/-- The passage that leaves a view as it is. -/
def Sparing (i : Nat) : Passage :=
  fun start _ last => last.views[i]? = start.views[i]?

instance : Walk (Sparing i) where
  refl _ := rfl
  trans h h' := h'.trans h
  trouble _ _ := rfl
  noVariable _ _ _ _ := rfl

namespace Sparing

theorem changeVars {handle : Handle} (hhandle : handle ≠ .view i) (change : Scope → Scope) :
    Respects (Sparing i) (changeVars handle change) := by
  intro world
  cases handle with
  | component j => rfl
  | view j => exact List.getElem?_set_ne fun heq => hhandle (congrArg Handle.view heq)

theorem changeView {j : Nat} (hj : j ≠ i) (change : View → View) :
    Respects (Sparing i) (changeView j change) :=
  fun _ => List.getElem?_set_ne hj

/-- Another view is put into a layout. -/
theorem extend {j : Nat} (hj : j ≠ i) (layout : Value) :
    Respects (Sparing i) (extend j layout) := by
  have hlaw : (Law.along (Sparing i)).Keeps (Engine.extend j layout) := by
    rw [Engine.extend]
    refine (Law.Keeps.ofTrouble _).bind fun isTrue => ?_
    split
    · exact (Law.Keeps.nameOf layout).bind fun name => changeView hj _
    · exact changeView hj _
  exact hlaw

end Sparing

instance : (Law.along (Sparing i)).Shaping where
  drain _ _ := rfl
  next id world := by
    show (on (next id) world).2.views[i]? = _
    rw [next, on_bind_ok (on_get world)]
    split <;> rfl
  newComponent _ _ _ := rfl
  setGate _ _ _ := rfl
  setCount _ _ _ _ := rfl
  setItems _ _ _ _ := rfl
  setLength _ _ _ := rfl
  setBinds _ {_ _} _ _ := rfl
  alterData _ _ _ := rfl
  redirect _ _ _ _ := rfl

section Theory

variable [Substrate] [FileSystem]

instance : Course (Sparing i) where
  hold {_} _ _ {_ _} _ := rfl
  unrenderable _ _ _ := rfl
  fallBack {_ _ _} _ _ _ := rfl
  prepare {_ j _} _ index :=
    (Respects.prepare (Sparing.changeVars (nofun : Handle.component j ≠ .view i)) _
      index).respectsFrom _
  resolve site template world := by
    show (on (resolve site template) world).2.views[i]? = _
    rw [on_resolve_eq]
    rfl
  within _ {_ _ _} h := h

instance [Substrate.Mild (Request.SparesView i)] :
    Law.Answering (Law.along ((Sparing i).mild (Request.SparesView i))) (Request.SparesView i) where
  answer {_} hrender {_} hr := by
    refine Law.Shaping.answer hrender ?_ ?_ fun _ => ?_
    · rintro handle method plain named rfl
      refine Law.callMethod hrender (fun hmethod name value => ?_)
        (fun hmethod j hview layout => ?_)
        plain named
      · have hhandle : handle ≠ .view i := fun heq =>
          hmethod.elim (hr heq).1 (hr heq).2.1
        exact (Respects.bindIn (Trailing.changeVars handle) name value).mild
          (Respects.bindIn (Sparing.changeVars hhandle) name value)
      · have hj : j ≠ i := by
          rintro rfl
          exact (hr hview).2.2 hmethod
        exact (Respects.extend (R := Trailing) j layout).mild (Sparing.extend hj layout)
    · rintro handle change rfl
      exact (Trailing.changeVars handle change).mild (Sparing.changeVars hr change)
    · exact Respects.get.bind fun world => Respects.pure world.host.files

end Theory

/-! ## Renders that leave a view as it is -/

section Contents

variable [Substrate] [FileSystem]

/-- The output of a view's own template. -/
def contentOf (i : Nat) (v : View) : Engine String :=
  executeFor (renderUpTo Substrate.depth) (.view i) .view v.template v.vars

/-- The output of a layout for a view and its content. -/
def layoutOf (i : Nat) (v : View) (layout content : String) : Engine String :=
  executeFor (renderUpTo Substrate.depth) (.view i) .layout layout
    (Value.setEntry (.text contentName) (.text content) v.vars)

end Contents

section Theory

variable [language : Substrate] [FileSystem] {world : World}

omit [FileSystem] in
/-- A run leaves a view as it was if restrained scripts do. -/
theorem views_of_keepsTo {α : Type} {x : [Substrate] → Engine α}
    (hkeeps : KeepsTo (Request.SparesView i) (on x) world)
    (hx : ∀ (other : Substrate) (_ : @Substrate.Mild other (Request.SparesView i)),
      Respects ((Sparing i).mild (Request.SparesView i)) (@x other)) :
    (on x world).2.views[i]? = world.views[i]? :=
  hkeeps.respects .tooDeep (hx (language.restrained _ .tooDeep) (language.mild_restrained .tooDeep))

theorem views_render (hkeeps : KeepsTo (Request.SparesView i) (on (render (.view i))) world) :
    (on (render (.view i)) world).2.views[i]? = world.views[i]? :=
  views_of_keepsTo hkeeps fun other _ => @render_respects _ other _ _ _ (.view i)

theorem views_contentOf {v : View}
    (hkeeps : KeepsTo (Request.SparesView i) (on (contentOf i v)) world) :
    (on (contentOf i v) world).2.views[i]? = world.views[i]? :=
  views_of_keepsTo hkeeps fun other _ =>
    @Respects.executeFor _ other _ _ _ _ (@Respects.renderUpTo _ other _ _ _ _) _ _ _ _

end Theory

end Engine

/-! ## The next render -/

section Theory

variable [Substrate] [FileSystem] {dirs : List Location} {kept : List TemplateId} {i : Nat}
  {world : World}

omit [Substrate] [FileSystem] in
theorem World.atTime_self (world : World) : world.atTime world.host.clock = world := rfl

/-- Whether a render of a view asks for nothing that changes the view and for no files, and leaves
    the sources and all other fragments and streams that there were as they were. -/
structure World.Settles (i : Nat) (world : World) : Prop where
  spares : KeepsTo (Request.SparesView i) (on (render (.view i))) world
  files : KeepsTo Request.SparesFiles (on (render (.view i))) world
  sources : ∀ site template, (on (render (.view i)) world).2.sourceAt site template
    = world.sourceAt site template
  views : ∀ j, j ≠ i → (on (render (.view i)) world).2.views[j]? = world.views[j]?
  components :
    (on (render (.view i)) world).2.components.take world.components.length = world.components
  streams : (on (render (.view i)) world).2.streams.take world.streams.length = world.streams

/-- The world after a render of a view, without the components and the streams that the render has
    made, which nothing holds any more. -/
def World.settled (i : Nat) (world : World) : World :=
  let after := (on (render (.view i)) world).2
  { after with
    components := after.components.take world.components.length
    streams := after.streams.take world.streams.length }

/-- The worlds that renders of a view lead to while time passes. -/
inductive World.Rerendered (i : Nat) (world : World) : World → Prop
  | once (hsettles : world.Settles i) : Rerendered i world (world.settled i)
  | tick {next : World} {clock : Binary64} (hclock : clock.IsMoment)
      (h : Rerendered i world next) : Rerendered i world (next.atTime clock)
  | again {next : World} (hsettles : next.Settles i) (h : Rerendered i world next) :
      Rerendered i world (next.settled i)

namespace World

theorem Settles.eq_views (h : world.Settles i) :
    (on (render (.view i)) world).2.views = world.views := by
  refine List.ext_getElem? fun j => ?_
  by_cases hj : j = i
  · subst hj
    exact views_render h.spares
  · exact h.views j hj

/-- A further render comes to the same, whenever it is. -/
theorem Settles.rerender (h : world.Settles i) (reached : World.Reached dirs kept world)
    (clock : Binary64)
    (hfiles : KeepsTo Request.SparesFiles (on (render (.view i)))
      ((world.settled i).atTime clock)) :
    (on (render (.view i)) ((world.settled i).atTime clock)).1
      = (on (render (.view i)) world).1 := by
  have hmemos := reached.holdsMemos.trail (render_follows (.view i) world)
  refine rerun reached.tended reached.holdsMemos h.files h.sources
    ⟨⟨clock, _, rfl⟩, fun j => ?_, rfl, h.components, h.eq_views, h.streams⟩ hfiles
  exact ⟨_, hmemos.held j, rfl⟩

theorem Reached.settled (reached : World.Reached dirs kept world) (i : Nat) :
    ∃ more, World.Reached dirs more (world.settled i) :=
  ⟨_, (reached.step (.render (.view i))).step (.arrange _ _ _)⟩

/-- After any number of renders the view is as it was, and the next render comes to the same. -/
theorem Rerendered.same {again : World} (h : world.Rerendered i again)
    (reached : World.Reached dirs kept world) : again.views = world.views
      ∧ (KeepsTo Request.SparesFiles (on (render (.view i))) again →
        (on (render (.view i)) again).1 = (on (render (.view i)) world).1) := by
  -- the clock may be set again, so what is kept is where the last render began
  suffices hbehind : ∃ next clock more, World.Reached dirs more next ∧ next.Settles i
      ∧ Binary64.IsMoment clock ∧ again = (next.settled i).atTime clock
      ∧ next.views = world.views
        ∧ (on (render (.view i)) next).1 = (on (render (.view i)) world).1 by
    obtain ⟨next, clock, _, hreached, hsettles, -, rfl, hviews, hsame⟩ := hbehind
    refine ⟨hsettles.eq_views.trans hviews, fun hfiles => ?_⟩
    exact (hsettles.rerender hreached clock hfiles).trans hsame
  have hafter {kept : List TemplateId} {next : World} (hreached : World.Reached dirs kept next) :
      (next.settled i).host.clock.IsMoment :=
    (hreached.step (.render (.view i))).tended.host.clock
  induction h with
  | once hsettles =>
      exact ⟨world, _, kept, reached, hsettles, hafter reached, (atTime_self _).symm, rfl, rfl⟩
  | tick hclock _ ih =>
      obtain ⟨next, _, more, hreached, hsettles, -, rfl, hviews, hsame⟩ := ih
      exact ⟨next, _, more, hreached, hsettles, hclock, rfl, hviews, hsame⟩
  | again hsettles _ ih =>
      obtain ⟨next, clock, more, hreached, hbefore, hclock, rfl, hviews, hsame⟩ := ih
      obtain ⟨_, hsettled⟩ := hreached.settled i
      have hthere := hsettled.step (.tick hclock)
      exact ⟨_, _, _, hthere, hsettles, hafter hthere, (atTime_self _).symm,
        hbefore.eq_views.trans hviews,
        (hbefore.rerender hreached clock hsettles.files).trans hsame⟩

end World

/-! ## Views and layouts -/

namespace Engine

end Engine

end Theory

/-! ## Worlds without stores -/

section Theory

variable [Substrate] [FileSystem] {world next : World}

omit [Substrate] in
/-- Without a store a resolve writes no file. -/
theorem Cache.Resolution.storeless {sources : Sources} {ns : List Char} {template : TemplateId}
    {cache : Cache} {host : Host} {result : Cache.Resolved}
    (h : Cache.Resolution sources ns template cache host result) (hstore : cache.store = none) :
    result.2.1.store = none ∧ result.2.2.files = host.files := by
  cases h with
  | compiled =>
      refine ⟨hstore, ?_⟩
      rw [Cache.filesWith, hstore]
  | _ => exact ⟨hstore, rfl⟩

/-- Where there is no store, renders write no file. -/
theorem Engine.Trail.storeless {refused : Bool} (h : Trail world refused next)
    (hstores : ∀ site ∈ world.sites, site.cache.store = none) :
    (∀ site ∈ next.sites, site.cache.store = none) ∧ next.host.files = world.host.files := by
  induction h with
  | refl => exact ⟨hstores, rfl⟩
  | arrange components views streams _ ih => exact ih
  | @hold middle j template code script hscript _ ih =>
      exact ⟨World.forall_setSite ih.1 fun hmem =>
        (show (middle.site j).cache.store = none from ih.1 _ hmem), ih.2⟩
  | @resolve middle j template _ ih =>
      obtain ⟨result, hresult, hrun⟩ := on_resolve j template middle
      rw [hrun]
      have hstore : (middle.site j).cache.store = none := by
        rcases middle.site_cases j with ⟨-, hmem⟩ | ⟨hdefault, -⟩
        · exact ih.1 _ hmem
        · rw [hdefault]
          rfl
      obtain ⟨hstore', hfiles⟩ := hresult.storeless hstore
      exact ⟨World.forall_setSite ih.1 fun _ => hstore', hfiles.trans ih.2⟩

/-- Where there is no store, renders leave every source as it was. -/
theorem Engine.Trail.sourceAt_of_storeless {refused : Bool} (h : Trail world refused next)
    (hstores : ∀ site ∈ world.sites, site.cache.store = none) (i : Nat) (template : TemplateId) :
    next.sourceAt i template = world.sourceAt i template := by
  have hbare : next.bare.site i = world.bare.site i :=
    congrArg (fun sites : List Site => sites[i]?.getD default) h.bare_sites
  rw [World.site_bare, World.site_bare] at hbare
  have hsources : (next.site i).bare.sources = (world.site i).bare.sources :=
    congrArg Site.sources hbare
  change (next.site i).sources = (world.site i).sources at hsources
  rw [World.sourceAt, World.sourceAt, hsources, (h.storeless hstores).2]

end Theory

/-! ## A view in a layout -/

section Witness

attribute [local instance] FileSystem.plain

/-- Whether a request leaves the first view as it is and is not for the files. -/
def Request.IsSparing (r : Request) : Prop :=
  r.SparesView 0 ∧ r.SparesFiles

instance : DecidablePred Request.IsSparing :=
  fun r => inferInstanceAs (Decidable (r.SparesView 0 ∧ r.SparesFiles))

/-- The usual language, in which a script stops before it would change the first view or read
    files. -/
@[reducible] def Native.sparing : Substrate :=
  Native.usual.restrained Request.IsSparing .tooDeep


/-- Settings without a store. -/
def Setup.paged : Setup :=
  ⟨[(.view, ["views"]), (.layout, ["layouts"]), (.component, ["components"])], ".html", "mky", none,
    false⟩

/-- A world with the sources of a view, of a layout and of a component. -/
def World.sourced (view layout component : String) : World :=
  .withFiles .blank (((World.blank.host.files.put ["views", "v.html"]
    (.file ⟨encodeText view, .zero false⟩)).put ["layouts", "l.html"]
    (.file ⟨encodeText layout, .zero false⟩)).put ["components", "c.html"]
    (.file ⟨encodeText component, .zero false⟩))

/-- A view was made of those sources. -/
def World.paged (view layout component : String) : World :=
  (on (newView 0 "v") (on (openSite .paged) (.sourced view layout component)).2).2

theorem World.changed_sourced {view layout component : String} {place : Location} {file : File}
    (hfile : (World.sourced view layout component).host.files.file? place = some file) :
    file.changed = .zero false := by
  change (((World.blank.host.files.put _ _).put _ _).put _ _).file? place = _ at hfile
  rw [FileTree.file?_put_file _ (by decide), FileTree.file?_put_file _ (by decide),
    FileTree.file?_put_file _ (by decide), World.file?_blank] at hfile
  split at hfile
  · cases hfile
    rfl
  · split at hfile
    · cases hfile
      rfl
    · split at hfile
      · cases hfile
        rfl
      · cases hfile

theorem World.reached_sourced [Substrate] (view layout component : String) :
    World.Reached [] [] (.sourced view layout component) := by
  have hzero : (Binary64.zero false).IsMoment := ⟨by decide, by decide +kernel⟩
  refine .start rfl ?_ ?_ hzero
  · rintro place ⟨dir, hdir, -⟩
    cases hdir
  · intro place file hfile
    rw [World.changed_sourced hfile]
    exact hzero

theorem World.reached_paged [Substrate] (view layout component : String) :
    ∃ kept, World.Reached [] kept (.paged view layout component) := by
  have hcache : ∀ path ∈ Setup.paged.cache, Store.folder path ∈ ([] : List Location) := nofun
  have hopened := (World.reached_sourced view layout component).step (.construct hcache)
  exact ⟨_, hopened.step (.arrange [] (World.paged view layout component).views [])⟩

/-- A view that shows a content of its own and a component, a layout that shows the view for the
    content, and what the component shows. -/
def World.unframed : World :=
  .paged ("\x7b\x7b content \x7d\x7d "
      ++ "\x7b\x7b this.component('c').bind('n', x).render() \x7d\x7d")
    "[\x7b\x7b content \x7d\x7d|\x7b\x7b x \x7d\x7d]" "\x7b\x7b n \x7d\x7d"

/-- Values were bound for the view, and it was put into the layout. -/
def World.framed : World :=
  let bound := (on (bindAll (.view 0)
    (.map [(.text "x", .int 1), (.text "content", .text "mine")])) .unframed).2
  (on (extend 0 (.text "l")) bound).2

section Sparing

attribute [local instance] Native.sparing

/-- In the sparing language every run that goes along trails keeps to both kinds of requests. -/
theorem keepsTo_sparing {α : Type} {world : World} (hworld : world.IsMild Request.IsSparing)
    {x : [Substrate] → Engine α} (hx : Follows x) :
    KeepsTo (Request.SparesView 0) (on x) world ∧ KeepsTo Request.SparesFiles (on x) world := by
  have hmild : Substrate.Mild Request.IsSparing := Native.usual.mild_restrained .tooDeep
  have hview : Substrate.Mild (Request.SparesView 0) :=
    ⟨fun h strict vars => (hmild.asks h strict vars).mono fun _ hr => hr.1⟩
  have hfiles : Substrate.Mild Request.SparesFiles :=
    ⟨fun h strict vars => (hmild.asks h strict vars).mono fun _ hr => hr.2⟩
  have hnext := (hx world).isMild hworld
  exact ⟨.of_mild (hworld.mono fun _ hr => hr.1) (hnext.mono fun _ hr => hr.1),
    .of_mild (hworld.mono fun _ hr => hr.2) (hnext.mono fun _ hr => hr.2)⟩

end Sparing

/-! ## Views that are changed -/

section Usual

attribute [local instance] Native.usual

/-- A view that is put into a layout by its own template. -/
def World.extending : World :=
  .paged "\x7b% set a = this.extends('l') %\x7d" "[\x7b\x7b content \x7d\x7d]" ""

/-- A view that is handed on to a component, which binds a value for it. -/
def World.handing : World :=
  .paged "\x7b\x7b this.component('c').bind('v', this).render() \x7d\x7d" ""
    "\x7b\x7b v.bind('x', 1).get_view() \x7d\x7d"

/-- A view with a value under a name, for which its template puts another one in its place. -/
def World.updating : World :=
  (on (bind (.view 0) (.text "x") (.text "a"))
    (.paged "\x7b\x7b x \x7d\x7d\x7b% set a = this.variables.update(\x7b'x': 'b'\x7d) %\x7d"
      "" "")).2

/-- A view whose template reads a file beside each of the roots, which is no source. -/
def World.reading (note : String) : World :=
  let world : World := .paged ("\x7b% for p in this.view_compiler.environment.roots.values() %\x7d"
    ++ "\x7b\x7b p.parent.joinpath('n.txt').read_text() \x7d\x7d\x7b% endfor %\x7d") "" ""
  world.withFiles (world.host.files.put ["n.txt"] (.file ⟨encodeText note, .zero false⟩))

end Usual

end Witness

end Stencil
