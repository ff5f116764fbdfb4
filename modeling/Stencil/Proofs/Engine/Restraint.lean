import Stencil.Proofs.Engine.Memo

/-! # Restraint — runs that ask requests of a kind only

    A script is restrained if every request that is not of some kind ends it with a
    trouble.  A run that comes to the same on restrained scripts, whatever the
    trouble, asks no such request.  A law that holds of the answers to requests of
    the kind holds of every run on restrained scripts, and so of that one: the
    scripts that are held at the sites stay restrained along every trail.

    Headlines: `KeepsTo`, `Passage.mild`. -/

namespace Stencil

open Engine

variable {α : Type}

/-! ## Restrained scripts -/

section Restrained

variable (kind : Request → Prop) [DecidablePred kind] (cause : Trouble)

/-- A dialogue that ends with a trouble where it would ask a request that is not of a kind. -/
def Dialogue.restrained : Dialogue α → Dialogue α
  | done a => done a
  | stop other => stop other
  | ask r next =>
    if kind r then ask r fun answer => (next answer).restrained else stop cause

/-- A script of restrained dialogues. -/
def Script.restrained (script : Script) : Script :=
  fun strict vars => (script strict vars).restrained kind cause

/-- A language whose scripts are restrained. -/
@[reducible] def Substrate.restrained (language : Substrate) : Substrate where
  build code := (language.build code).map (Script.restrained kind cause)
  facets := language.facets
  depth := language.depth

/-- A site that holds its scripts restrained. -/
def Site.restrained (site : Site) : Site :=
  { site with held := ⟨site.held.entries.map fun entry =>
    (entry.1, entry.2.1, entry.2.2.restrained kind cause)⟩ }

/-- A world whose sites hold their scripts restrained. -/
def World.restrained (world : World) : World :=
  { world with sites := world.sites.map (Site.restrained kind cause) }

/-- Whether a run from a world asks requests of a kind only: it comes to the same whatever trouble
    the others would end with. -/
def KeepsTo [language : Substrate] (run : [Substrate] → World → α × World) (world : World) : Prop :=
  ∀ cause, @run (language.restrained kind cause) (world.restrained kind cause)
    = ((run world).1, (run world).2.restrained kind cause)

theorem Dialogue.asks_restrained : (d : Dialogue α) → (d.restrained kind cause).Asks kind
  | done _ => trivial
  | stop _ => trivial
  | ask r next => by
      rw [restrained]
      split
      case isTrue hr => exact ⟨hr, fun answer => (next answer).asks_restrained⟩
      case isFalse => trivial

end Restrained

namespace World

variable {kind : Request → Prop} [DecidablePred kind] {cause : Trouble} {world : World}

@[simp] theorem site_restrained (i : Nat) :
    (world.restrained kind cause).site i = (world.site i).restrained kind cause := by
  rw [site, site, restrained, List.getElem?_map]
  cases world.sites[i]? <;> rfl

theorem bare_restrained : (world.restrained kind cause).bare = world.bare := by
  have hsites : (world.sites.map (Site.restrained kind cause)).map Site.bare
      = world.sites.map Site.bare := List.map_map
  rw [bare, restrained, hsites]
  rfl

end World

/-- A dialogue asks requests of every wider kind. -/
theorem Dialogue.Asks.mono {kind wider : Request → Prop} {d : Dialogue α} (h : d.Asks kind)
    (hkind : ∀ r, kind r → wider r) : d.Asks wider := by
  induction d with
  | done | stop => trivial
  | ask r next ih => exact ⟨hkind r h.1, fun answer => ih answer (h.2 answer)⟩

/-! ## Requests for files -/

/-- Whether a request is for anything but the files. -/
def Request.SparesFiles : Request → Prop
  | .files => False
  | _ => True

instance : DecidablePred Request.SparesFiles
  | .files => .isFalse id
  | .look | .next _ | .render _ | .call _ _ _ _ | .alterScope _ _ | .alterData _ _ =>
    .isTrue trivial

/-! ## Mild scripts -/

variable {kind : Request → Prop}

/-- A language whose scripts ask requests of a kind only. -/
class Substrate.Mild [Substrate] (kind : Request → Prop) : Prop where
  asks {code : String} {script : Script} (h : Substrate.build code = .ok script) :
    script.Asks kind

/-- Whether the scripts that a world holds ask requests of a kind only. -/
def World.IsMild (kind : Request → Prop) (world : World) : Prop :=
  ∀ site ∈ world.sites, ∀ entry ∈ site.held.entries, entry.2.2.Asks kind

theorem World.IsMild.mono {wider : Request → Prop} {world : World} (h : world.IsMild kind)
    (hkind : ∀ r, kind r → wider r) : world.IsMild wider :=
  fun site hsite entry hentry strict vars => (h site hsite entry hentry strict vars).mono hkind

theorem World.IsMild.site {world : World} (h : world.IsMild kind) (i : Nat) :
    ∀ entry ∈ (world.site i).held.entries, entry.2.2.Asks kind := by
  rcases world.site_cases i with ⟨-, hmem⟩ | ⟨hdefault, -⟩
  · exact h _ hmem
  · rw [hdefault]
    exact fun entry hentry => nomatch hentry

section Restraining

variable [DecidablePred kind] (cause : Trouble)

/-- Restrained scripts ask requests of their kind only. -/
theorem Substrate.mild_restrained (language : Substrate) :
    @Substrate.Mild (language.restrained kind cause) kind := by
  refine @Substrate.Mild.mk (language.restrained kind cause) kind fun {code script} h => ?_
  change (language.build code).map _ = _ at h
  cases hbuild : language.build code with
  | error other =>
      rw [hbuild] at h
      cases h
  | ok found =>
      rw [hbuild] at h
      cases h
      exact fun strict vars => (found strict vars).asks_restrained kind cause

theorem World.isMild_restrained (world : World) : (world.restrained kind cause).IsMild kind := by
  intro site hsite entry hentry
  obtain ⟨bare, -, rfl⟩ := List.mem_map.mp hsite
  obtain ⟨found, -, rfl⟩ := List.mem_map.mp hentry
  exact fun strict vars => (found.2.2 strict vars).asks_restrained kind cause

end Restraining

namespace Engine

variable [Substrate] [FileSystem] [Substrate.Mild kind] {world : World}

/-- The scripts that are held go on to ask requests of the kind along every trail. -/
theorem Trail.isMild {start next : World} {refused : Bool} (h : Trail start refused next)
    (hstart : start.IsMild kind) : next.IsMild kind := by
  induction h with
  | refl => exact hstart
  | arrange components views streams _ ih => exact ih
  | hold i template hscript _ ih =>
      refine World.forall_setSite ih fun hmem entry hentry => ?_
      rcases Table.mem_put hentry with rfl | hold
      · exact Substrate.Mild.asks hscript
      · exact ih _ hmem entry hold
  | @resolve world i template _ ih =>
      rw [on_resolve_eq]
      exact World.forall_setSite ih fun hmem entry hentry => ih _ hmem entry hentry

omit [FileSystem] in
/-- The script of an artifact asks requests of the kind. -/
theorem asks_of_scriptOf {i : Nat} {artifact : Artifact} {script : Script} {next : World}
    (h : on (scriptOf i artifact) world = (.ok script, next)) (hworld : world.IsMild kind) :
    script.Asks kind := by
  rw [scriptOf_eq, codeOf] at h
  cases hcode : artifact.code.text? with
  | none =>
      rw [hcode] at h
      cases h
  | some code =>
      rw [hcode] at h
      change on (reuse i artifact.template code) world = _ at h
      rw [reuse, on_bind_ok (on_get world)] at h
      cases hfound : ((world.site i).held.get? artifact.template).filter
          fun found => found.1 == code with
      | some found =>
          rw [hfound] at h
          cases h
          obtain ⟨hget, -⟩ := Option.filter_eq_some_iff.mp hfound
          exact hworld.site i _ (Table.mem_of_get? hget)
      | none =>
          rw [hfound] at h
          cases hbuild : Substrate.build code with
          | error cause =>
              rw [hbuild] at h
              cases h
          | ok built =>
              rw [hbuild] at h
              cases h
              exact Substrate.Mild.asks hbuild

/-! ## Relations along mild runs -/

/-- A relation along a run from a world that holds mild scripts, which the next world does too. -/
def Passage.mild (R : Passage) (kind : Request → Prop) : Passage :=
  fun start fault? last => start.IsMild kind → last.IsMild kind ∧ R start fault? last

variable {R : Passage}

omit [Substrate.Mild kind] [FileSystem] [Substrate] in
instance [Walk R] : Walk (R.mild kind) where
  refl world h := ⟨h, Walk.refl world⟩
  trans h h' hstart :=
    ⟨(h' (h hstart).1).1, Walk.trans (h hstart).2 (h' (h hstart).1).2⟩
  trouble cause world h := ⟨h, Walk.trouble cause world⟩
  noVariable shape segment template world h := ⟨h, Walk.noVariable shape segment template world⟩

/-- A relation that holds along a trail holds from a world that holds mild scripts. -/
theorem Passage.mild_of_trailing {start last : World} {fault? : Option Fault}
    (htrail : Trailing start fault? last) (h : R start fault? last) :
    R.mild kind start fault? last :=
  fun hstart => ⟨htrail.isMild hstart, h⟩

theorem Respects.mild {x : Engine α} (hfollows : Respects Trailing x) (h : Respects R x) :
    Respects (R.mild kind) x :=
  fun world => Passage.mild_of_trailing (hfollows world) (h world)

instance [Walk R] [(Law.along R).Shaping] : (Law.along (R.mild kind)).Shaping :=
  Law.Shaping.along_both (S := Trailing) (T := R) Passage.mild_of_trailing

instance [Walk R] [(Law.along R).Evaluating] : (Law.along (R.mild kind)).Evaluating :=
  Law.Evaluating.along_both (S := Trailing) (T := R) Passage.mild_of_trailing

instance [Course R] : Course (R.mild kind) where
  hold {_} site template {_ _} hscript :=
    Passage.mild_of_trailing (Course.hold site template hscript) (Course.hold site template hscript)
  unrenderable template cause world := Passage.mild_of_trailing
    (Course.unrenderable template cause world) (Course.unrenderable template cause world)
  fallBack {_ _ _} hgate hcount hother :=
    Passage.mild_of_trailing (Course.fallBack hgate hcount hother)
    (Course.fallBack hgate hcount hother)
  prepare {_ _ _} hclosure index world h hstart :=
    ⟨(Respects.prepare (R := Trailing) (Trailing.changeVars _) _ index world).isMild (h hstart).1,
      Course.prepare hclosure index world (h hstart).2⟩
  resolve site template := (Course.resolve site template).mild (Course.resolve site template)
  within template {_ _ _} h hstart := ⟨(h hstart).1, Course.within template (h hstart).2⟩

/-- A course along which the answers to requests of a kind go is one that mild scripts run along. -/
instance [Course R] [Law.Answering (Law.along (R.mild kind)) kind] :
    Running (R.mild kind) kind where
  script site artifact f h := by
    intro world hworld
    have hscript : Respects (R.mild kind) (scriptOf site artifact) :=
      (Respects.scriptOf (R := Trailing) site artifact).mild
        (Respects.scriptOf (R := R) site artifact)
    have hkept := hscript world hworld
    rcases hrun : on (scriptOf site artifact) world with ⟨fault | script, next⟩
    · rw [hrun] at hkept
      rw [on_bind_error hrun]
      exact hkept
    · rw [hrun] at hkept
      rw [on_bind_ok hrun]
      obtain ⟨hnext, hpassed⟩ := h script (asks_of_scriptOf hrun hworld) next hkept.1
      exact ⟨hnext, Walk.trans hkept.2 hpassed⟩

end Engine

/-! ## Languages that are mild -/

section Mild

variable [DecidablePred kind] (cause : Trouble)

/-- A dialogue that asks requests of a kind only is the same restrained. -/
theorem Dialogue.restrained_of_asks {d : Dialogue α} (h : d.Asks kind) :
    d.restrained kind cause = d := by
  induction d with
  | done | stop => rfl
  | ask r next ih =>
      rw [restrained, if_pos h.1]
      exact congrArg (Dialogue.ask r) (funext fun answer => ih answer (h.2 answer))

theorem Script.restrained_of_asks {script : Script} (h : script.Asks kind) :
    script.restrained kind cause = script :=
  funext fun strict => funext fun vars => Dialogue.restrained_of_asks cause (h strict vars)

/-- A language whose scripts ask requests of a kind only is the same restrained. -/
theorem Substrate.restrained_of_mild (language : Substrate) (h : @Substrate.Mild language kind) :
    language.restrained kind cause = language := by
  have hbuild : (fun code => (language.build code).map (Script.restrained kind cause))
      = language.build := by
    funext code
    cases hcode : language.build code with
    | error other => rfl
    | ok script => exact congrArg Except.ok (Script.restrained_of_asks cause (h.asks hcode))
  rw [restrained, hbuild]

/-- A world that holds scripts which ask requests of a kind only is the same restrained. -/
theorem World.IsMild.restrained {world : World} (h : world.IsMild kind) :
    world.restrained kind cause = world := by
  have hsite : ∀ site ∈ world.sites, site.restrained kind cause = site := by
    intro site hsite
    have hentry : ∀ entry ∈ site.held.entries,
        (entry.1, entry.2.1, entry.2.2.restrained kind cause) = entry := fun entry hentry => by
      rw [Script.restrained_of_asks cause (h site hsite entry hentry)]
    rw [Site.restrained, List.map_congr_left hentry, List.map_id']
  rw [World.restrained, List.map_congr_left hsite, List.map_id']

/-- In a mild language a run that leads from and to worlds which hold mild scripts keeps to the
    kind. -/
theorem KeepsTo.of_mild [language : Substrate] [hlanguage : Substrate.Mild kind] {world : World}
    (hworld : world.IsMild kind) {run : [Substrate] → World → α × World}
    (hnext : (run world).2.IsMild kind) : KeepsTo kind run world := by
  intro cause
  dsimp only
  rw [language.restrained_of_mild cause hlanguage, hworld.restrained cause,
    hnext.restrained cause]

end Mild

/-- A run that asks requests of a kind only goes, with its scripts restrained, along every relation
    that restrained runs from mild worlds go along. -/
theorem KeepsTo.respects [language : Substrate] [DecidablePred kind] {x : [Substrate] → Engine α}
    {world : World} (h : KeepsTo kind (on x) world) (cause : Trouble) {R : Passage}
    (hx : Respects (R.mild kind) (@x (language.restrained kind cause))) :
    R (world.restrained kind cause) (faultOf (on x world).1)
      ((on x world).2.restrained kind cause) := by
  have hrun := h cause
  have hrespects := hx (world.restrained kind cause)
  dsimp only at hrun
  rw [hrun] at hrespects
  exact (hrespects (World.isMild_restrained cause world)).2

end Stencil
