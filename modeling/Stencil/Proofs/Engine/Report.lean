import Stencil.Native.Usual
import Stencil.Proofs.Directive.Position
import Stencil.Proofs.Engine.Sites

/-! # Reports — what a render says of a source that does not compile

    Only a resolve finds that a source does not compile, and it leaves the source
    as it is.  All that a render does besides can end with other faults, but passes
    this one on unchanged.  So whoever gets it, at any depth of nesting, is shown a
    tag of a source that is still there to be read.

    Headline: `Engine.report_points`. -/

namespace Stencil

/-- An error of a template points at a tag in the template's source, as a site of a world reads it
    and in the site's namespace. -/
def World.Shows [FileSystem] (world : World) (i : Nat) (template : TemplateId)
    (error : Directive.Error) :
    Prop :=
  ∃ source changed,
    (world.site i).sources.read world.host.files template = .ok (source, changed)
      ∧ error.PointsIn (world.site i).ns.toList source

namespace Engine

variable {α : Type}

section Resolving

variable [FileSystem]

/-- A resolve says that a source does not compile only with an error that points at a tag of it. -/
theorem shows_of_resolve {i : Nat} {template named : TemplateId} {error : Directive.Error}
    {world : World} (h : (on (resolve i template) world).1 = .error (.uncompilable named error)) :
    named = template ∧ (on (resolve i template) world).2.Shows i template error := by
  obtain ⟨result, hresult, hrun⟩ := on_resolve i template world
  rw [hrun] at h ⊢
  cases hresult with
  | missing hfile =>
      cases Sources.lacks_of_sourceFile hfile <;> cases h
  | unreadable _ _ htext =>
      obtain rfl := Sources.undecodable_of_textOf htext
      cases h
  | @refused file text found hfile hstale htext hcompile =>
      cases h
      -- neither the files nor what a site has besides its cache change
      have hsite {β : Type} (f : Site → β)
          (hf : f { world.site i with cache := (world.site i).cache } = f (world.site i)) :
          f ((world.setSite i { world.site i with cache := (world.site i).cache }).site i)
            = f (world.site i) := World.site_setSite_congr f hf i
      refine ⟨rfl, text, file.changed, ?_, ?_⟩
      · show Sources.read (World.site (world.setSite i _) i).sources world.host.files template = _
        rw [hsite Site.sources rfl, Sources.read_of_sourceFile hfile, htext]
        rfl
      · show error.PointsIn (World.site (world.setSite i _) i).ns.toList text
        rw [hsite Site.ns rfl]
        exact Directive.pointsIn_of_compile hcompile
  | fresh => cases h
  | troubled => cases h
  | stored => cases h
  | compiled => cases h

end Resolving

/-! ## Every step passes the report on -/

variable [FileSystem]

/-- The passage along which a source is said not to compile only where it shows. -/
def Reporting : Passage :=
  fun _ fault? last => ∀ template error, fault? = some (.uncompilable template error) →
    ∃ i, last.Shows i template error

instance : Walk Reporting where
  refl _ _ _ h := nomatch h
  trans _ h := h
  trouble _ _ _ _ h := nomatch h
  noVariable _ _ _ _ _ _ h := nomatch h

/-- A computation that always has a result reports nothing. -/
theorem reporting_of_ok {x : Engine α} (h : ∀ world, ∃ a, (on x world).1 = .ok a) :
    Respects Reporting x := by
  intro world template error hfault
  obtain ⟨a, ha⟩ := h world
  rw [ha] at hfault
  cases hfault

theorem reporting_changeVars (handle : Handle) (change : Scope → Scope) :
    Respects Reporting (changeVars handle change) := by
  cases handle with
  | component i => exact reporting_of_ok fun _ => ⟨_, rfl⟩
  | view i => exact reporting_of_ok fun _ => ⟨_, rfl⟩

instance : (Law.along Reporting).Asking where
  drain _ := reporting_of_ok fun _ => ⟨_, rfl⟩
  next id := reporting_of_ok fun world => by
    rw [next, on_bind_ok (on_get world)]
    split <;> exact ⟨_, rfl⟩
  newComponent _ _ := reporting_of_ok fun _ => ⟨_, rfl⟩
  setGate _ _ := reporting_of_ok fun _ => ⟨_, rfl⟩
  setCount _ _ _ := reporting_of_ok fun _ => ⟨_, rfl⟩
  setItems _ _ _ := reporting_of_ok fun _ => ⟨_, rfl⟩
  setLength _ _ := reporting_of_ok fun _ => ⟨_, rfl⟩
  setBinds _ {_ _} _ := reporting_of_ok fun _ => ⟨_, rfl⟩
  alterData _ _ := reporting_of_ok fun _ => ⟨_, rfl⟩
  redirect _ _ _ := reporting_of_ok fun _ => ⟨_, rfl⟩
  setLayout _ _ := reporting_of_ok fun _ => ⟨_, rfl⟩
  bindValue handle name value := Respects.bindIn (reporting_changeVars handle) name value
  alterScope := reporting_changeVars
  files := reporting_of_ok fun world => ⟨world.host.files, rfl⟩

variable [Substrate]

instance : Course Reporting where
  hold {_} _ _ {_ _} _ _ _ h := nomatch h
  unrenderable _ _ _ _ _ h := nomatch h
  fallBack {_ _ _} _ _ _ _ _ h := nomatch h
  prepare _ index := (Respects.prepare (reporting_changeVars _) _ index).respectsFrom _
  resolve site template world named error hfault := by
    obtain ⟨rfl, hshows⟩ := shows_of_resolve (error_of_faultOf hfault)
    exact ⟨site, hshows⟩
  -- a trouble becomes another fault than this one, and no other fault changes
  within _ {_ _ fault} h := by
    cases fault with
    | trouble cause => exact fun _ _ h => nomatch h
    | _ => exact h

/-! ## Reports -/

/-- **Every report points at its tag.**  An error of reading or of compiling a source, in every
    namespace and with every set of rules, points at its tag in the source; so does one with which
    a template does not resolve, or a fragment does not render, in the source of the template that
    is named.  The places of a text are ordered as its offsets. -/
theorem report_points (ns source : List Char) :
    (∀ error, Directive.tokenize ns source = .error error → error.PointsIn ns source)
      ∧ (∀ rules error, Directive.compile ns rules source = .error error →
        error.PointsIn ns source)
      ∧ (∀ offset later, offset < later → later ≤ source.length →
        (Text.placeAt source offset).Before (Text.placeAt source later))
      ∧ (∀ i template world named error,
        (on (resolve i template) world).1 = .error (.uncompilable named error) →
        named = template ∧ (on (resolve i template) world).2.Shows i template error)
      ∧ ∀ handle world template error,
        (on (render handle) world).1 = .error (.uncompilable template error) →
        ∃ i, (on (render handle) world).2.Shows i template error := by
  refine ⟨fun _ => Directive.pointsIn_of_tokenize, fun _ _ => Directive.pointsIn_of_compile,
    fun _ _ => Text.before_placeAt, fun _ _ _ _ _ => shows_of_resolve, ?_⟩
  intro handle world template error hfault
  have hreports := render_respects (R := Reporting) handle world
  rw [hfault] at hreports
  exact hreports template error rfl

end Engine

open Engine

section Witness

attribute [local instance] Native.usual FileSystem.plain

/-- A source with tags on several lines, of which the inner one is not closed. -/
def unclosedLines : List Char :=
  "x\n <mky:if\n cond='a\nb'>\n<mky:if\n cond='c'>y".toList

/-- The error of the inner tag. -/
def innerUnclosed : Directive.Error :=
  ⟨.unclosed, "<mky:if\n cond='c'>".toList, ⟨5, 1⟩⟩

/-- The error of a closing tag at the start of a line. -/
def burdened : Directive.Error :=
  ⟨.closingAttributes, "</mky:if x>".toList, ⟨2, 1⟩⟩

/-- A world with a component that puts out another one, whose source has the lines. -/
def World.reported : World where
  host := ⟨⟨[(["site", "c.html"],
      .file ⟨encodeText "a\x7b\x7b this.component('o') \x7d\x7d", .zero false⟩),
    (["site", "o.html"], .file ⟨encodeText (String.ofList unclosedLines), .zero false⟩)]⟩,
    .zero false, 0, 0⟩
  switch := none
  sites := [⟨⟨[(.component, ["site"])], ".html"⟩, "mky", true, ⟨.empty, none⟩, .empty⟩]
  components := [Component.new 0 "c"]
  views := []
  streams := []

/-- The error of the inner tag comes out of a resolve and through the render of the outer component,
    and points at its tag. -/
theorem report_points_nested :
    (Directive.tokenize "mky".toList "a\n</mky:if x>".toList = .error burdened
      ∧ burdened.PointsIn "mky".toList "a\n</mky:if x>".toList)
    ∧ (Directive.compile "mky".toList Directive.standardRules unclosedLines = .error innerUnclosed
      ∧ innerUnclosed.PointsIn "mky".toList unclosedLines)
    ∧ (Text.placeAt unclosedLines 2).Before (Text.placeAt unclosedLines 23)
    ∧ (on (resolve 0 ⟨.component, "o"⟩) World.reported).2.Shows 0 ⟨.component, "o"⟩ innerUnclosed
    ∧ ∃ i, (on (render (.component 0)) World.reported).2.Shows i
      ⟨.component, "o"⟩ innerUnclosed := by
  have htokenize : Directive.tokenize "mky".toList "a\n</mky:if x>".toList = .error burdened := by
    decide +kernel
  have hcompile : Directive.compile "mky".toList Directive.standardRules unclosedLines
      = .error innerUnclosed := by decide +kernel
  have hresolve : (on (resolve 0 ⟨.component, "o"⟩) World.reported).1
      = .error (.uncompilable ⟨.component, "o"⟩ innerUnclosed) :=
    error_of_faultOf (by decide +kernel)
  have hrender : (on (render (.component 0)) World.reported).1
      = .error (.uncompilable ⟨.component, "o"⟩ innerUnclosed) :=
    error_of_faultOf (by decide +kernel)
  obtain ⟨hread, -, -, -, -⟩ := report_points "mky".toList "a\n</mky:if x>".toList
  obtain ⟨-, hlower, horder, hresolves, hrenders⟩ := report_points "mky".toList unclosedLines
  exact ⟨⟨htokenize, hread _ htokenize⟩, ⟨hcompile, hlower _ _ hcompile⟩,
    horder 2 23 (by decide) (by decide), (hresolves _ _ _ _ _ hresolve).2, hrenders _ _ _ _ hrender⟩

end Witness

end Stencil
