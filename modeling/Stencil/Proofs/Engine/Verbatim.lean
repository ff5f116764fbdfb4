import Stencil.Proofs.Cache.Permanence
import Stencil.Proofs.Directive.Interpolation
import Stencil.Proofs.Engine.Bindings
import Stencil.Proofs.Engine.Directives
import Stencil.Proofs.Engine.Nesting

/-! # Verbatim — data is put in and never read

    A value that is bound is escaped once, put in where its name stands, and not
    looked at again: not compiled, for compiling sees sources only, and not read by
    the native language, for that is given code only.  So what a template of text and
    names renders to is its text with the escaped data in it, whatever the data says,
    and a layout shows what its view has rendered to as it is.  Names that are one
    variable to the native language must have one value; it shows one of two.

    Headline: `render_verbatim`. -/

namespace Stencil

open Engine Directive Text Native

section Theory

variable [Substrate] [FileSystem]

/-! ## Scopes of texts -/

/-- Whether all keys of a scope are texts, so that a template can be executed with it. -/
def IsNamed (scope : Scope) : Prop :=
  ∀ entry ∈ scope, entry.1.text?.isSome = true

omit [Substrate] [FileSystem] in
theorem IsNamed.set {key : Value} {scope : Scope} (hkey : key.text?.isSome = true) (v : Value)
    (h : IsNamed scope) : IsNamed (Value.setEntry key v scope) := by
  induction scope with
  | nil =>
      intro entry hentry
      rw [List.mem_singleton.mp hentry]
      exact hkey
  | cons first scope ih =>
      obtain ⟨hfirst, hscope⟩ := List.forall_mem_cons.mp h
      rw [Value.setEntry]
      split
      · exact List.forall_mem_cons.mpr ⟨hfirst, hscope⟩
      · exact List.forall_mem_cons.mpr ⟨hfirst, ih hscope⟩

omit [Substrate] [FileSystem] in
theorem Bindings.isNamed_onto {bindings : Bindings} (h : IsNamed bindings) :
    IsNamed (bindings.onto []) := by
  induction bindings using List.reverseRecOn with
  | nil => exact fun entry hentry => absurd hentry List.not_mem_nil
  | append_singleton bindings entry ih =>
      rw [onto_concat]
      have hkey := h entry (List.mem_append_right _ List.mem_cons_self)
      exact (ih fun other hother => h other (List.mem_append_left _ hother)).set hkey _

omit [Substrate] [FileSystem] in
/-- A template sees under each name what its scope holds there. -/
theorem Engine.exists_variables {scope : Scope} (h : IsNamed scope) : ∃ vars : Variables,
    (∀ world, on (variablesOf scope) world = (.ok vars, world))
      ∧ ∀ name, vars.lookup name = Value.entry? scope (.text name) := by
  induction scope with
  | nil => exact ⟨[], fun _ => rfl, fun _ => rfl⟩
  | cons entry scope ih =>
      obtain ⟨key, v⟩ := entry
      obtain ⟨hkey, hscope⟩ := List.forall_mem_cons.mp h
      obtain ⟨name, hname⟩ := Option.isSome_iff_exists.mp hkey
      obtain ⟨vars, hvars, hlookup⟩ := ih hscope
      refine ⟨(name, v) :: vars, ?_, ?_⟩
      · intro world
        rw [variablesOf, hname]
        show on (variablesOf scope >>= _) world = _
        rw [on_bind_ok (hvars world)]
        rfl
      · intro other
        rw [List.lookup_cons, Value.entry?, List.find?_cons, Value.same_text, hname]
        by_cases hsame : name = other
        · simp [hsame]
        · have hne : (other == name) = false := beq_eq_false_iff_ne.mpr (Ne.symm hsame)
          have hne' : (some name == some other) = false := by simpa using hsame
          rw [hne, hne']
          exact hlookup other

/-! ## Executing a template -/

variable {setup : Setup} {dir : Location} {past : Past} {world middle after : World}

namespace Engine

/-- What executing a template leaves as it is: the fragments, the number of sites and the files
    beside the cache folder; and no other template comes into a memory. -/
structure Readies (dir : Location) (template : TemplateId) (world after : World) : Prop where
  trail : Trail world false after
  views : after.views = world.views
  sites : after.sites.length = world.sites.length
  files : world.host.files.AgreeBeside dir after.host.files
  kept : after.kept ⊆ template :: world.kept

/-- A resolve and what an evaluator holds behind it leave as much. -/
theorem readies_resolve (hsound : world.Sound past setup dir) {i : Nat} {template : TemplateId}
    (hsite : i < world.sites.length) (held : Held)
    (htrail : Trail world false ((on (resolve i template) world).2.withHeld i held)) :
    Readies dir template world ((on (resolve i template) world).2.withHeld i held) := by
  have hviews : (on (resolve i template) world).2.views = world.views := by
    rw [on_resolve_eq]
    rfl
  refine ⟨htrail, hviews, ?_, ?_, ?_⟩
  · rw [World.length_withHeld, World.length_sites_resolve]
  · exact World.agreeBeside_resolve (hsound.sites _ (World.site_mem hsite)).store template
  · intro other hother
    rcases World.mem_kept_setSite hother with hkept | hkept
    · exact world.kept_resolve_subset i template hkept
    · exact world.kept_resolve_subset i template (World.keys_site_subset _ i hkept)

/-- Behind an execution a sound world is sound, and other templates than that one were not kept. -/
theorem Readies.sound {template : TemplateId} (h : Readies dir template world after)
    (hsound : world.Sound past setup dir) (hapart : setup.Apart dir) (others : List TemplateId)
    (hcollision : Sha1.CollisionFree ((others ++ template :: past.kept).map TemplateId.key)) :
    after.Sound (past.after world after false) setup dir
      ∧ Sha1.CollisionFree
        ((others ++ (past.after world after false).kept).map TemplateId.key) := by
  have hkept : after.kept ++ past.kept ⊆ template :: past.kept :=
    List.append_subset.mpr ⟨List.Subset.trans h.kept (List.cons_subset_cons _ hsound.kept),
      List.subset_cons_self _ _⟩
  have hall := hcollision.mono (List.map_subset _ (List.append_subset.mpr
    ⟨List.subset_append_left _ _, List.subset_append_of_subset_right _ hkept⟩))
  refine ⟨?_, hall⟩
  exact hsound.trail (fun _ _ => Sources.Apart.locate hapart) h.trail
    (hall.mono (List.map_subset _ (List.subset_append_right _ _)))

/-- Behind an execution every template still compiles to the same. -/
theorem Readies.compiled {template : TemplateId} (h : Readies dir template world after)
    (hapart : setup.Apart dir) (other : TemplateId) :
    setup.sources.compiled setup.ns.toList after.host.files other
      = setup.sources.compiled setup.ns.toList world.host.files other :=
  Sources.compiled_congr (Sources.Apart.agreeFor hapart h.files other)

/-- In a sound world, executing a template of text and names for a scope shows its text with the
    values of the names. -/
theorem on_executeFor_interpolated {naming : Naming} (hlanguage : Substrate.Interpolates naming)
    (depth : Nat) (hsound : world.Sound past setup dir)
    (hready : ∀ site ∈ world.sites, site.IsReady) (hapart : setup.Apart dir) {handle : Handle}
    (hsite : world.siteOf handle < world.sites.length) {role : Role} {name : String}
    (hcollision : Sha1.CollisionFree ((⟨role, name⟩ :: past.kept).map TemplateId.key))
    {doc : Interpolated} (hdoc : doc.IsLegible naming)
    (hcompiled : setup.sources.compiled setup.ns.toList world.host.files ⟨role, name⟩
      = .ok doc.source) {scope : Scope} (hnamed : IsNamed scope) {written : List Char → List Char}
    (hagree : naming.Agree written doc.names)
    (hbound : ∀ slot ∈ doc.names, Value.entry? scope (.text (String.ofList slot))
      = some (.text (String.ofList (written slot)))) :
    ∃ after, on (executeFor (renderUpTo depth) handle role name scope) world
        = (.ok (String.ofList (doc.output written)), after)
      ∧ Readies dir ⟨role, name⟩ world after := by
  have hcode := hsound.code_resolve (fun _ => Sources.Apart.locate hapart) hcollision hsite
  rw [hcompiled] at hcode
  obtain ⟨artifact, hartifact, hlowered⟩ := eq_ok_of_map hcode
  have hresolve : on (resolve (world.siteOf handle) ⟨role, name⟩) world = (.ok artifact, _) :=
    Prod.ext hartifact rfl
  have hinside : world.siteOf handle
      < (on (resolve (world.siteOf handle) ⟨role, name⟩) world).2.sites.length := by
    rw [World.length_sites_resolve]
    exact hsite
  have hheld := ((Follows.resolve (world.siteOf handle) ⟨role, name⟩ world).isReady hready _
    (World.site_mem hinside)).held
  obtain ⟨vars, hvars, hlookup⟩ := exists_variables hnamed
  have hseen : ∀ slot ∈ doc.names, List.lookup (String.ofList slot)
      ((callerName, Value.fragment handle) :: vars)
        = some (.text (String.ofList (written slot))) := by
    intro slot hslot
    rw [lookup_caller (hdoc.isVariable slot hslot).2, hlookup]
    exact hbound slot hslot
  obtain ⟨held, -, hrun⟩ := on_execute_shows hinside hheld hlowered
    (hlanguage doc hdoc written hagree) hvars hseen
  have hwhole : on (executeFor (renderUpTo depth) handle role name scope) world
      = (.ok (String.ofList (doc.output written)),
        (on (resolve (world.siteOf handle) ⟨role, name⟩) world).2.withHeld (world.siteOf handle)
          held) := by
    rw [executeFor, on_bind_ok (on_get world)]
    exact (on_bind_ok hresolve).trans hrun
  exact ⟨_, hwhole, readies_resolve hsound hsite held (trail_of_executeFor hwhole)⟩

end Engine

/-! ## Rendering a fragment -/

/-- The role of a fragment's template. -/
def Handle.role : Handle → Role
  | .component _ => .component
  | .view _ => .view

namespace World

/-- The template of a fragment. -/
def askedBy (world : World) (handle : Handle) : TemplateId :=
  ⟨handle.role, world.templateOf handle⟩

/-- The layout that a fragment is put into, which only a view can have. -/
def layoutName? (world : World) : Handle → Option String
  | .component _ => none
  | .view i => (world.view i).layout

/-- Whether the render of a fragment executes its own template, and once. -/
def IsOnce (world : World) : Handle → Prop
  | .component i => (world.component i).IsSingle
  | .view _ => True

end World

/-- The text of a template's source. -/
def Sources.text? (sources : Sources) (tree : FileTree) (template : TemplateId) :
    Option (List Char) :=
  (sources.sourceFile tree template >>= textOf).toOption

omit [Substrate] in
theorem Sources.compiled_of_text? {sources : Sources} {tree : FileTree} {template : TemplateId}
    {ns : List Char} (hns : isNamespace ns = true) {naming : Naming} {doc : Interpolated}
    (hdoc : doc.IsLegible naming) (hfree : IsUntagged ns doc)
    (htext : sources.text? tree template = some doc.source) :
    sources.compiled ns tree template = .ok doc.source := by
  rw [text?] at htext
  cases hfile : sources.sourceFile tree template with
  | error fault =>
      rw [hfile] at htext
      cases htext
  | ok file =>
      rw [hfile] at htext
      change (textOf file).toOption = _ at htext
      rw [compiled_of_file hfile]
      cases hread : textOf file with
      | error fault =>
          rw [hread] at htext
          cases htext
      | ok text =>
          rw [hread] at htext
          cases htext
          show (compile ns standardRules doc.source).mapError _ = _
          rw [compile_interpolated hns hdoc hfree]
          rfl

/-- What a layout shows under a name: under that of the content what the view has rendered to, and
    under every other what is written for it. -/
def framed (content : List Char) (written : List Char → List Char) (name : List Char) : List Char :=
  if name = contentName.toList then content else written name

section Rendering

variable {naming : Naming} {handle : Handle} {bindings : Bindings} {written : List Char → List Char}

/-- A text that was last bound under a name is in the scope as it is escaped. -/
theorem Engine.Bound.entry?_eq (h : Bound handle bindings world) {name : List Char} {text : String}
    (hlast : bindings.last? (String.ofList name) = some (.text text)) :
    Value.entry? (world.scopeOf handle) (.text (String.ofList name))
      = some (.text (String.ofList (escape text.toList))) := by
  rw [h.scope.2, Bindings.entry?_onto, hlast]
  rfl

theorem Engine.Bound.isNamed (h : Bound handle bindings world) (hnamed : IsNamed bindings) :
    IsNamed (world.scopeOf handle) := by
  rw [h.scope.2]
  exact Bindings.isNamed_onto hnamed

omit [Substrate] [FileSystem] in
/-- In a scope with the content every name of a layout has what the layout shows under it. -/
theorem entry?_framed (content : List Char) {scope : Scope} {frame : Interpolated}
    (hbound : ∀ name ∈ frame.names, name ≠ contentName.toList →
      Value.entry? scope (.text (String.ofList name))
        = some (.text (String.ofList (written name)))) :
    ∀ name ∈ frame.names, Value.entry?
        (Value.setEntry (.text contentName) (.text (String.ofList content)) scope)
        (.text (String.ofList name))
      = some (.text (String.ofList (framed content written name))) := by
  intro name hname
  rw [Value.entry?_setEntry, framed]
  by_cases hcontent : name = contentName.toList
  · have hsame : (Value.text contentName).text? = some (String.ofList name) := by
      rw [hcontent, String.ofList_toList]
      rfl
    rw [if_pos hcontent, if_pos hsame]
  · have hne : (Value.text contentName).text? ≠ some (String.ofList name) := by
      intro heq
      refine hcontent ?_
      rw [Option.some.inj heq, String.toList_ofList]
    rw [if_neg hcontent, if_neg hne]
    exact hbound name hname hcontent

/-- **Bound data is never evaluated**: after every history and whatever was bound, a fragment whose
    source is text and names renders to its text with the escape of the text that was last bound
    under each name in the name's place, as long as names that are one variable have one value.  A
    layout of text and names shows the same for its names, and under the name of the content what
    the view has rendered to, as it is.  Of the native language nothing is assumed but what is
    documented of names in double braces. -/
theorem render_verbatim (hlanguage : Substrate.Interpolates naming)
    (hcache : ∀ path ∈ setup.cache, Store.folder path = dir) (hapart : setup.Apart dir)
    (history : History setup dir past world) (hbound : Bound handle bindings world)
    (hnamed : IsNamed bindings) (honce : world.IsOnce handle)
    (hsite : world.siteOf handle < world.sites.length)
    (hcollision : Sha1.CollisionFree ((world.askedBy handle :: past.kept).map TemplateId.key))
    {doc : Interpolated} (hdoc : doc.IsLegible naming) (hfree : IsUntagged setup.ns.toList doc)
    (hsource : setup.sources.text? world.host.files (world.askedBy handle) = some doc.source)
    {texts : List Char → String} (hagree : naming.Agree texts doc.names)
    (htexts : ∀ name ∈ doc.names,
      bindings.last? (String.ofList name) = some (.text (texts name))) :
    (world.layoutName? handle = none → (on (render handle) world).1
      = .ok (String.ofList (doc.output fun name => escape (texts name).toList)))
    ∧ ∀ layout (frame : Interpolated), world.layoutName? handle = some layout →
      Sha1.CollisionFree
        ((⟨.layout, layout⟩ :: world.askedBy handle :: past.kept).map TemplateId.key) →
      frame.IsLegible naming → IsUntagged setup.ns.toList frame →
      setup.sources.text? world.host.files ⟨.layout, layout⟩ = some frame.source →
      (∀ name ∈ frame.names, name ≠ contentName.toList →
        bindings.last? (String.ofList name) = some (.text (texts name))) →
      let shown := framed (doc.output fun name => escape (texts name).toList)
        fun name => escape (texts name).toList
      naming.Agree shown frame.names →
      (on (render handle) world).1 = .ok (String.ofList (frame.output shown)) := by
  have hsound := history.sound hcache hapart
    (hcollision.mono (List.map_subset _ (List.subset_cons_self _ _)))
  have hready := history.isReady
  have hns : isNamespace setup.ns.toList = true :=
    (hsound.sites _ (World.site_mem hsite)).ns ▸ (hready _ (World.site_mem hsite)).ns
  have hkeys := hbound.isNamed hnamed
  have hescapes : naming.Agree (fun name => escape (texts name).toList) doc.names :=
    fun name hname other hother hform =>
      congrArg (fun text : String => escape text.toList) (hagree name hname other hother hform)
  -- the fragment's own template, which is executed first
  obtain ⟨after, hrun, hreadies⟩ := on_executeFor_interpolated hlanguage Substrate.depth hsound
    hready hapart hsite hcollision hdoc (Sources.compiled_of_text? hns hdoc hfree hsource) hkeys
    hescapes fun name hname => hbound.entry?_eq (htexts name hname)
  cases handle with
  | component i =>
      refine ⟨fun _ => ?_, fun layout frame hlayout => by cases hlayout⟩
      rw [on_render_single honce, on_executeComponent_for]
      exact congrArg Prod.fst hrun
  | view i =>
      have hview : after.view i = world.view i := by
        rw [World.view, hreadies.views]
        rfl
      have hrender := on_renderView_ok hrun
      rw [hview] at hrender
      change on (render (.view i)) world = _ at hrender
      constructor
      · intro hlayout
        change (world.view i).layout = none at hlayout
        rw [hrender, hlayout]
      · intro layout frame hlayout hboth hframe hframeFree hframeSource hframeTexts shown hshown
        change (world.view i).layout = some layout at hlayout
        obtain ⟨hafter, hcollision'⟩ :=
          hreadies.sound hsound hapart [⟨.layout, layout⟩] hboth
        have hsite' : after.siteOf (.view i) < after.sites.length := by
          rw [hreadies.sites]
          show ((after.views[i]?).getD default).site < _
          rw [hreadies.views]
          exact hsite
        have hcompiled := (hreadies.compiled hapart ⟨.layout, layout⟩).trans
          (Sources.compiled_of_text? hns hframe hframeFree hframeSource)
        have hframed := entry?_framed (doc.output fun name => escape (texts name).toList)
          fun name hname hother => hbound.entry?_eq (hframeTexts name hname hother)
        obtain ⟨last, hlast, _⟩ := on_executeFor_interpolated hlanguage Substrate.depth hafter
          (hreadies.trail.isReady hready) hapart hsite' hcollision' hframe hcompiled
          (hkeys.set rfl _) hshown hframed
        rw [hrender, hlayout]
        exact congrArg Prod.fst hlast

end Rendering

end Theory

/-! ## A view with hostile data -/

section Witness

attribute [local instance] Native.usual FileSystem.plain

/-- A configuration with a root of views and one of layouts, and a cache folder apart from them. -/
def Setup.framing : Setup :=
  ⟨[(.view, ["views"]), (.layout, ["layouts"])], ".html", "mky", some ["cache"], false⟩

/-- A text that would be an interpolation, a statement and a directive if it were read. -/
def hostile : String :=
  "\x7b\x7b x \x7d\x7d\x7b% if %\x7d<mky:if cond=\"x\">"

/-- A view that shows a name between two runs. -/
def greeting : Interpolated :=
  .slot "a ".toList "x".toList (.text " b".toList)

/-- A layout that shows the view and then the name. -/
def frame : Interpolated :=
  .slot "[".toList "content".toList (.slot "|".toList "x".toList (.text "]".toList))

/-- A world with the sources of the view and of the layout. -/
def World.filed : World :=
  .withFiles .blank ((World.blank.host.files.put ["views", "v.html"]
    (.file ⟨encodeText (String.ofList greeting.source), .zero false⟩)).put ["layouts", "l.html"]
    (.file ⟨encodeText (String.ofList frame.source), .zero false⟩))

theorem World.file?_filed (place : Location) : filed.host.files.file? place
    = if place = ["layouts", "l.html"] then
        some ⟨encodeText (String.ofList frame.source), .zero false⟩
      else if place = ["views", "v.html"] then
        some ⟨encodeText (String.ofList greeting.source), .zero false⟩
      else none := by
  rw [filed]
  show ((World.blank.host.files.put _ _).put _ _).file? place = _
  rw [FileTree.file?_put_file _ (by decide), FileTree.file?_put_file _ (by decide), file?_blank]

/-- The view was made, the hostile text was bound under the name, and the layout was set. -/
def World.served : World :=
  let opened := (on (openSite .framing) World.filed).2
  let made := (on (newView 0 "v") opened).2
  let bound := (on (bind (.view 0) (.text "x") (.text hostile)) made).2
  (on (extend 0 (.text "l")) bound).2

/-- The view shows the hostile text escaped, and the layout shows what the view shows. -/
theorem render_verbatim_hostile : ∃ past, History .framing ["cache"] past World.served
    ∧ Bound (.view 0) [(.text "x", .text hostile)] World.served
    ∧ (on (render (.view 0)) World.served).1 = .ok (
      "[a \x7b\x7b x \x7d\x7d\x7b% if %\x7d&lt;mky:if cond=&#34;x&#34;&gt; b"
        ++ "|\x7b\x7b x \x7d\x7d\x7b% if %\x7d&lt;mky:if cond=&#34;x&#34;&gt;]") := by
  have hzero : (Binary64.zero false).IsCanonical := by decide
  have hstart : History .framing ["cache"] (.start .filed) .filed := by
    refine .start rfl ?_ ?_ hzero
    · intro place hplace
      rw [World.file?_filed, if_neg, if_neg] <;> rintro rfl <;> cases hplace
    · intro place file hfile
      rw [World.file?_filed] at hfile
      split at hfile
      · cases hfile
        exact hzero
      · split at hfile
        · cases hfile
          exact hzero
        · cases hfile
  have hopened := hstart.construct
  have history := hopened.arrange [] World.served.views []
  change History .framing ["cache"] (.start .filed) World.served at history
  have hmade : on (newView 0 "v") (on (openSite .framing) World.filed).2
      = (.ok (.view 0), _) := rfl
  have hbound : Bound (.view 0) [(.text "x", .text hostile)] World.served :=
    .extend rfl _ (.bind (.text "x") (.text hostile) rfl (.view hmade))
  have hapart : Setup.framing.Apart ["cache"] := by
    rw [Setup.Apart, Sources.Apart]
    decide
  have hfolder : ∀ path ∈ Setup.framing.cache, Store.folder path = ["cache"] := by
    rintro path ⟨⟩
    decide
  have hcollision : Sha1.CollisionFree
      ([⟨.layout, "l"⟩, World.served.askedBy (.view 0)].map TemplateId.key) := by
    rw [Sha1.CollisionFree]
    decide +kernel
  have hnamed : IsNamed [(.text "x", .text hostile)] := by
    rw [IsNamed]
    decide
  have hgreeting : greeting.IsLegible usualNaming := by decide
  have hframe : frame.IsLegible usualNaming := by decide
  have htexts : ∀ name ∈ greeting.names, Bindings.last? [(.text "x", .text hostile)]
      (String.ofList name) = some (.text ((fun _ => hostile) name)) := by
    intro name hname
    rw [List.mem_singleton.mp hname]
    rfl
  obtain ⟨-, hframed⟩ := render_verbatim usual_interpolates hfolder hapart history hbound hnamed
    trivial (by decide +kernel) (hcollision.mono (List.subset_cons_self _ _)) hgreeting (by decide)
    (by decide +kernel) (fun _ _ _ _ _ => rfl) htexts
  refine ⟨_, history, hbound, ?_⟩
  rw [hframed "l" frame rfl hcollision hframe (by decide) (by decide +kernel) ?_ ?_]
  · decide
  · intro name hname hother
    rcases List.mem_cons.mp hname with rfl | hlast
    · exact absurd rfl hother
    · exact htexts name hlast
  · intro name hname other hother hform
    rcases List.mem_pair.mp hname with rfl | rfl <;> rcases List.mem_pair.mp hother with rfl | rfl
    · rfl
    · exact absurd hform (by decide)
    · exact absurd hform (by decide)
    · rfl

/-! ## Names that are one variable -/

/-- Two names, of which the other is spelled with a ligature. -/
def twins : Interpolated :=
  .slot [] ['f', 'i'] (.slot [] ['\ufb01'] (.text []))

/-- A component that shows the two names, with a text bound under each. -/
def World.twinned : World :=
  (on (bind (.component 0) (.text "\ufb01") (.text "b"))
    (on (bind (.component 0) (.text "fi") (.text "a"))
      (sourceOf (String.ofList twins.source) [])).2).2

/-- The two names are one variable to the native language, which shows the text of the second one
    for both. -/
theorem render_twinned : Bound (.component 0) [(.text "fi", .text "a"), (.text "\ufb01", .text "b")]
      World.twinned
    ∧ twins.IsLegible usualNaming ∧ IsUntagged "mky".toList twins
    ∧ (World.twinned.site 0).sources.text? World.twinned.host.files
        (World.twinned.askedBy (.component 0)) = some twins.source
    ∧ twins.output (fun name => escape (if name = ['f', 'i'] then ['a'] else ['b'])) = ['a', 'b']
    ∧ (on (render (.component 0)) World.twinned).1 = .ok "bb" := by
  have hcreated : Bound (.component 0) [] (sourceOf (String.ofList twins.source) []) :=
    .component (rfl : on (newComponent 0 "c") { sourceOf _ [] with components := [] } = _)
  have hbound := (hcreated.bind (.text "fi") (.text "a") rfl).bind (.text "\ufb01") (.text "b") rfl
  exact ⟨hbound, by decide +kernel, by decide +kernel, by decide +kernel, by decide +kernel,
    by decide +kernel⟩

end Witness

end Stencil
