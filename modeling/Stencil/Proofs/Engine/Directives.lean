import Stencil.Proofs.Cache.Soundness
import Stencil.Proofs.Directive.Meaning
import Stencil.Proofs.Engine.Memo
import Stencil.Proofs.Native.Usual

/-! # Directives — what a component with a document for its source renders to

    Whatever an evaluator holds, executing an artifact is running what its code is
    built to.  The native text of a document is one of conditionals, so what is
    documented of those says what the document shows: the runs whose enclosing
    conditions are true.  A document that fuses is no template.

    Headline: `render_document`. -/

namespace Stencil

open Engine Directive Text Native

section Theory

variable [Substrate] [FileSystem]

/-! ## Scripts that are held -/

/-- Whether a site has a namespace and holds scripts under their codes. -/
structure Site.IsReady (site : Site) : Prop where
  ns : isNamespace site.ns.toList = true
  held : IsMemo site.held

variable {setup : Setup} {dir : Location} {past : Past} {world : World}

theorem Engine.Trail.isReady {start next : World} {refused : Bool} (h : Trail start refused next)
    (hstart : ∀ site ∈ start.sites, site.IsReady) : ∀ site ∈ next.sites, site.IsReady := by
  induction h with
  | refl => exact hstart
  | arrange components views streams _ ih => exact ih
  | hold i template hscript _ ih =>
      exact World.forall_setSite ih fun hmem => ⟨(ih _ hmem).ns, (ih _ hmem).held.put _ hscript⟩
  | @resolve world i template _ ih =>
      obtain ⟨result, _, hrun⟩ := on_resolve i template world
      rw [hrun]
      exact World.forall_setSite ih fun hmem => ⟨(ih _ hmem).ns, (ih _ hmem).held⟩

/-- After every history, all sites hold scripts under their codes. -/
theorem History.isReady (h : History setup dir past world) :
    ∀ site ∈ world.sites, site.IsReady := by
  induction h with
  | start hsites =>
      intro site hsite
      rw [hsites] at hsite
      cases hsite
  | write _ _ _ _ _ _ _ ih => exact ih
  | remove _ _ ih => exact ih
  | tick _ _ _ ih => exact ih
  | resolve site template _ ih => exact (Follows.resolve site template _).isReady ih
  | render handle _ ih => exact (render_follows handle _).isReady ih
  | purge i _ ih =>
      obtain ⟨host, memory, _, _, _, hrun⟩ := on_purge i _
      rw [hrun]
      exact World.forall_setSite ih fun hmem => ⟨(ih _ hmem).ns, (ih _ hmem).held⟩
  | @construct past world _ ih =>
      obtain ⟨files, _, hrun | ⟨store, _, hns, hrun⟩⟩ := on_openSite setup world
      · rw [hrun]
        exact ih
      · rw [hrun]
        intro site hsite
        rcases List.mem_append.mp hsite with hold | hnew
        · exact ih site hold
        · rw [List.mem_singleton.mp hnew]
          exact ⟨hns, .empty⟩
  | arrange _ _ _ _ ih => exact ih

/-! ## Executing an artifact -/

namespace Engine

omit [Substrate] [FileSystem] in
theorem on_variablesOf (vars : Variables) (world : World) :
    on (variablesOf (vars.map fun entry => (.text entry.1, entry.2))) world
      = (.ok vars, world) := by
  induction vars with
  | nil => rfl
  | cons entry vars ih =>
      rw [List.map_cons]
      show on (variablesOf (vars.map _) >>= fun more =>
        Pure.pure ((entry.1, entry.2) :: more)) world = _
      rw [on_bind_ok ih]
      rfl

variable {render : Handle → Engine String} {i : Nat} {artifact : Artifact} {code : List Char}

omit [FileSystem] in
/-- An artifact whose code is no template cannot be executed. -/
theorem on_execute_refused (hi : i < world.sites.length) (hheld : IsMemo (world.site i).held)
    (hcode : artifact.code = .text (String.ofList code)) {cause : Trouble}
    (hbuild : Substrate.build (String.ofList code) = .error cause) (scope : Scope)
    (caller : Option Value) : (on (execute render i artifact scope caller) world).1
      = .error (.unrenderable artifact.template cause) := by
  obtain ⟨held, -, hrun⟩ := on_execute_code hi hheld hcode scope caller
  rw [hrun, runCode, hbuild]
  rfl

omit [FileSystem] in
/-- An artifact shows what its code shows for the scope and the caller. -/
theorem on_execute_shows (hi : i < world.sites.length) (hheld : IsMemo (world.site i).held)
    (hcode : artifact.code = .text (String.ofList code)) {kind : Variables → Prop}
    {out : List Char} (hshows : Substrate.Shows code kind out) {scope : Scope} {vars : Variables}
    (hvars : ∀ world, on (variablesOf scope) world = (.ok vars, world)) {caller : Value}
    (hkind : kind ((callerName, caller) :: vars)) : ∃ held, IsMemo held
      ∧ on (execute render i artifact scope (some caller)) world
        = (.ok (String.ofList out), world.withHeld i held) := by
  obtain ⟨held, hmemo, hrun⟩ := on_execute_code hi hheld hcode scope (some caller)
  obtain ⟨script, hbuild, hscript⟩ := hshows
  refine ⟨held, hmemo, ?_⟩
  rw [hrun, runCode, hbuild]
  show on (within _ (runFor render i scope (some caller) script)) _ = _
  rw [on_within, runFor, on_bind_ok (hvars _)]
  show ((on (get >>= _) _).1.mapError _, (on (get >>= _) _).2) = _
  rw [on_bind_ok (on_get _), hscript _ _ hkind]
  rfl

end Engine

omit [Substrate] [FileSystem] in
/-- The caller stands in front of the scope under a name that is reserved, and hides no other. -/
theorem lookup_caller {name : List Char} (h : name ∉ reservedNames) (caller : Value)
    (vars : Variables) : List.lookup (String.ofList name) ((callerName, caller) :: vars)
      = vars.lookup (String.ofList name) := by
  have hne : (String.ofList name == callerName) = false := by
    refine beq_eq_false_iff_ne.mpr fun heq => h ?_
    rw [← String.toList_ofList (l := name), heq]
    decide
  rw [List.lookup_cons, hne]

/-! ## Rendering a component -/

/-- Whether a component is rendered once, with its own template. -/
structure Component.IsSingle (component : Component) : Prop where
  gate : component.gate ≠ some false
  count : component.count = 0
  closure : component.closure = none
  fallback : component.fallback? = none

/-- A component that is rendered once is executed. -/
theorem Engine.on_render_single {i : Nat} (h : (world.component i).IsSingle) :
    on (render (.component i)) world
      = on (executeComponent (renderUpTo Substrate.depth) i) world := by
  have hgate : ((world.component i).gate == some false) = false := beq_eq_false_iff_ne.mpr h.gate
  show on (renderComponent (renderUpTo Substrate.depth) i) world = _
  rw [renderComponent, on_bind_ok (on_get world)]
  simp only [hgate, h.count, h.fallback, h.closure]
  rfl

/-- The template of a component. -/
def World.asked (world : World) (i : Nat) : TemplateId :=
  ⟨.component, (world.component i).template⟩

/-- Executing a component is executing the artifact of its template. -/
theorem Engine.on_executeComponent {render : Handle → Engine String} {i : Nat}
    {artifact : Artifact} (hartifact :
      (on (resolve (world.component i).site (world.asked i)) world).1 = .ok artifact) :
    on (executeComponent render i) world = on (execute render (world.component i).site artifact
      (world.component i).vars (some (.fragment (.component i))))
      (on (resolve (world.component i).site (world.asked i)) world).2 := by
  rw [executeComponent, on_bind_ok (on_get world)]
  rw [executeFor, on_bind_ok (on_get world)]
  have hresolve : on (resolve (world.component i).site (world.asked i)) world = (.ok artifact, _) :=
    Prod.ext hartifact rfl
  exact on_bind_ok hresolve

/-- **Directives mean what they say**, unless a run that ends in a brace stands in front of a tag:
    after every history a component whose source is a document of conditionals over variables
    renders to the runs all of whose enclosing conditions are true, as long as names that are one
    variable have one value.  With such a run it renders to nothing at all.  Of the native language
    nothing is assumed but what is documented of its conditionals. -/
theorem render_document {naming : Naming} (hlanguage : Substrate.Branches naming)
    (hcache : ∀ path ∈ setup.cache, Store.folder path = dir) (hapart : setup.Apart dir)
    (history : History setup dir past world) {i : Nat} (hsingle : (world.component i).IsSingle)
    (hsite : (world.component i).site < world.sites.length)
    (hcollision : Sha1.CollisionFree ((world.asked i :: past.kept).map TemplateId.key))
    {doc : Document} (hfits : doc.Fits setup.ns.toList standardRules)
    (hplain : doc.blocks.IsPlain naming) {place : Location} {file : File}
    (hlocate : setup.sources.locate (world.asked i) = .ok place)
    (hfile : world.host.files.file? place = some file)
    (htext : Sources.textOf file = .ok (doc.source setup.ns.toList))
    {vars : Variables}
    (hvars : (world.component i).vars = vars.map fun entry => (.text entry.1, entry.2))
    {holds : List Char → Bool} (hagree : naming.Agree holds doc.blocks.names)
    (hbound : ∀ name ∈ doc.blocks.names,
      vars.lookup (String.ofList name) = some (.bool (holds name))) :
    (doc.blocks.fuses false = false →
      (on (render (.component i)) world).1 = .ok (String.ofList (doc.shown holds)))
    ∧ (doc.blocks.fuses false = true → ∃ template, (on (render (.component i)) world).1
      = .error (.unrenderable template .malformedTemplate)) := by
  have hsound := history.sound hcache hapart
    (hcollision.mono (List.map_subset _ (List.subset_cons_self _ _)))
  have hready := history.isReady
  have hns : isNamespace setup.ns.toList = true :=
    (hsound.sites _ (World.site_mem hsite)).ns ▸ (hready _ (World.site_mem hsite)).ns
  have hcompile : Directive.compile setup.ns.toList standardRules (doc.source setup.ns.toList)
      = .ok doc.blocks.source := by
    rw [← Document.lowered_eq_source hfits]
    exact compile_of_reads (pieces_source hns (by decide) hfits) (reads_parts (by decide) hfits)
      (balanced_brackets doc)
  have hcode := hsound.code_resolve (fun _ => Sources.Apart.locate hapart) hcollision hsite
  rw [Sources.compiled_of_file (Sources.sourceFile_eq_ok_iff.mpr ⟨place, hlocate, hfile⟩),
    htext] at hcode
  change _ = ((Directive.compile _ _ (doc.source _)).mapError _).map _ at hcode
  rw [hcompile] at hcode
  obtain ⟨artifact, hartifact, hlowered⟩ := eq_ok_of_map hcode
  have hinside : (world.component i).site
      < (on (resolve (world.component i).site (world.asked i)) world).2.sites.length := by
    rw [World.length_sites_resolve]
    exact hsite
  have hheld := ((Follows.resolve (world.component i).site (world.asked i) world).isReady hready _
    (World.site_mem hinside)).held
  rw [on_render_single hsingle, on_executeComponent hartifact, hvars]
  constructor
  · intro hfuses
    have hseen : ∀ name ∈ doc.blocks.names, List.lookup (String.ofList name)
        ((callerName, .fragment (.component i)) :: vars) = some (.bool (holds name)) :=
      fun name hname => (lookup_caller (hplain.isVariable name hname).2 _ vars).trans
        (hbound name hname)
    obtain ⟨held, -, hrun⟩ := on_execute_shows hinside hheld hlowered
      (hlanguage.shows _ hplain hfuses holds hagree) (on_variablesOf vars) hseen
    rw [hrun, Document.shown_eq_output]
  · intro hfuses
    have hspoilt := Blocks.spoilt hplain (.inl rfl) (.inl hfuses)
    rw [List.append_nil] at hspoilt
    exact ⟨_, on_execute_refused hinside hheld hlowered
      (hlanguage.refuses _ (Blocks.notMem_source hplain) hspoilt) _ _⟩

end Theory

/-! ## Braces in front of tags -/

section Braces

attribute [local instance] Native.usual FileSystem.plain

/-- A history that leads to one component with a given source and scope. -/
theorem History.exists_component (text : String) (vars : Scope) : ∃ past world,
    History Setup.small ["cache"] past world ∧ past.kept = [] ∧ world.sites.length = 1
      ∧ world.component 0 = { Component.new 0 "c" with vars }
      ∧ world.host.files.file? ["site", "c.html"] = some ⟨encodeText text, .zero false⟩ := by
  have hfiles := World.blank.host.files.file?_put_file
    (show ["site", "c.html"] ≠ [] by decide) ⟨encodeText text, .zero false⟩
  generalize World.blank.host.files.put _ _ = files at hfiles
  have hzero : (Binary64.zero false).IsCanonical := by decide
  have hstart : History Setup.small ["cache"] (.start (World.blank.withFiles files))
      (World.blank.withFiles files) := by
    refine .start rfl ?_ ?_ hzero
    · intro place hplace
      rw [show (World.blank.withFiles files).host.files = files from rfl, hfiles, if_neg,
        World.file?_blank]
      rintro rfl
      cases hplace
    · intro place file hfile
      rw [show (World.blank.withFiles files).host.files = files from rfl, hfiles,
        World.file?_blank] at hfile
      split at hfile
      · cases hfile
        exact hzero
      · cases hfile
  obtain ⟨opened, hopened, hrun⟩ := on_openSite Setup.small (World.blank.withFiles files)
  have hfile : (on (openSite Setup.small) (World.blank.withFiles files)).2.host.files.file?
      ["site", "c.html"] = some ⟨encodeText text, .zero false⟩ := by
    have hthere := (hopened ["site", "c.html"]).trans (hfiles ["site", "c.html"])
    rw [if_pos rfl] at hthere
    rcases hrun with hrun | ⟨store, _, _, hrun⟩ <;> rw [hrun] <;> exact hthere
  exact ⟨_, _, hstart.construct.arrange [{ Component.new 0 "c" with vars }] [] [], rfl, rfl, rfl,
    hfile⟩

/-- A document with two directives, one inside the other, and a brace at its end. -/
def nested : Document :=
  .directive "a ".toList "if".toList conditional " x ".toList .loose
    (.directive "b ".toList "if".toList conditional "y".toList .tight (.text "c ".toList)
      (.text "d ".toList))
    (.text "e \x7b".toList)

/-- A document with a brace in front of its directive. -/
def braced : Document :=
  .directive "a\x7b".toList "if".toList conditional "x".toList .tight (.text "b".toList) (.text [])

/-- The nested document shows all but the inner run; the braced one should show its two runs, and
    cannot be rendered. -/
theorem render_document_braced :
    (∃ past world, History Setup.small ["cache"] past world
      ∧ world.host.files.file? ["site", "c.html"]
        = some ⟨encodeText (String.ofList (nested.source "mky".toList)), .zero false⟩
      ∧ (on (render (.component 0)) world).1 = .ok "a b d e \x7b")
    ∧ (∃ past world, History Setup.small ["cache"] past world
      ∧ world.host.files.file? ["site", "c.html"]
        = some ⟨encodeText (String.ofList (braced.source "mky".toList)), .zero false⟩
      ∧ braced.source "mky".toList = "a\x7b<mky:if cond='x'>b</mky:if>".toList
      ∧ braced.shown (· == "x".toList) = "a\x7bb".toList
      ∧ ∃ template, (on (render (.component 0)) world).1
        = .error (.unrenderable template .malformedTemplate)) := by
  -- both documents lie in a world where the name of the outer condition is true and no other is
  have hmeant (doc : Document) (hfits : doc.Fits "mky".toList standardRules)
    (hplain : doc.blocks.IsPlain usualNaming)
      (hlines : unifyLines (doc.source "mky".toList) = doc.source "mky".toList)
      (hconditions : ∀ name ∈ doc.blocks.names, name ∈ ["x".toList, "y".toList]) :
      ∃ past world, History Setup.small ["cache"] past world
        ∧ world.host.files.file? ["site", "c.html"]
          = some ⟨encodeText (String.ofList (doc.source "mky".toList)), .zero false⟩
        ∧ (doc.blocks.fuses false = false → (on (render (.component 0)) world).1
          = .ok (String.ofList (doc.shown (· == "x".toList))))
        ∧ (doc.blocks.fuses false = true → ∃ template, (on (render (.component 0)) world).1
          = .error (.unrenderable template .malformedTemplate)) := by
    obtain ⟨past, world, history, hkept, hsites, hcomponent, hfile⟩ := History.exists_component
      (String.ofList (doc.source "mky".toList)) [(.text "x", .bool true), (.text "y", .bool false)]
    have htext := Sources.textOf_encodeText (String.ofList (doc.source "mky".toList)) (.zero false)
    rw [String.toList_ofList (l := doc.source "mky".toList), hlines] at htext
    have hlocate : Setup.small.sources.locate (world.asked 0) = .ok ["site", "c.html"] := by
      rw [World.asked, hcomponent]
      decide +kernel
    have hsingle : (world.component 0).IsSingle := by
      rw [hcomponent]
      exact ⟨by decide, rfl, rfl, rfl⟩
    have hsite : (world.component 0).site < world.sites.length := by
      rw [hcomponent, hsites]
      exact Nat.one_pos
    have hone : ∀ other ∈ world.asked 0 :: past.kept, other = world.asked 0 := by
      rw [hkept]
      exact fun other hother => List.mem_singleton.mp hother
    have hvars : (world.component 0).vars = [("x", Value.bool true), ("y", .bool false)].map
        fun entry => (.text entry.1, entry.2) := by
      rw [hcomponent]
      rfl
    have hbound : ∀ name ∈ doc.blocks.names, List.lookup (String.ofList name)
        [("x", Value.bool true), ("y", .bool false)] = some (.bool (name == "x".toList)) := by
      intro name hname
      rcases List.mem_cons.mp (hconditions name hname) with rfl | hlast
      · rfl
      · rw [List.mem_singleton.mp hlast]
        rfl
    have hfolder : ∀ path ∈ Setup.small.cache, Store.folder path = ["cache"] := by
      rintro path ⟨⟩
      decide
    have hagree : usualNaming.Agree (· == "x".toList) doc.blocks.names := by
      intro name hname other hother hform
      rcases List.mem_pair.mp (hconditions name hname) with rfl | rfl <;>
        rcases List.mem_pair.mp (hconditions other hother) with rfl | rfl <;>
        first | rfl | exact absurd hform (by decide)
    exact ⟨past, world, history, hfile, render_document usual_branches hfolder Setup.small_apart
      history hsingle hsite (.of_forall_eq hone) hfits hplain hlocate hfile htext hvars hagree
      hbound⟩
  have hnested : nested.blocks.IsPlain usualNaming :=
    ⟨⟨by decide, by decide⟩, ⟨by decide, by decide⟩,
      ⟨⟨by decide, by decide⟩, ⟨by decide, by decide⟩, ⟨by decide, by decide⟩,
        ⟨by decide, by decide⟩⟩, ⟨by decide, by decide⟩⟩
  have hbraced : braced.blocks.IsPlain usualNaming :=
    ⟨⟨by decide, by decide⟩, ⟨by decide, by decide⟩, ⟨by decide, by decide⟩,
      ⟨by decide, by decide⟩⟩
  constructor
  · obtain ⟨past, world, history, hfile, hshown, _⟩ :=
      hmeant nested (by decide) hnested (by decide) (by decide)
    refine ⟨past, world, history, hfile, ?_⟩
    rw [hshown (by decide)]
    decide
  · obtain ⟨past, world, history, hfile, _, hfused⟩ :=
      hmeant braced (by decide) hbraced (by decide) (by decide)
    exact ⟨past, world, history, hfile, by decide, by decide, hfused (by decide)⟩

end Braces

end Stencil
