import Stencil.Proofs.Cache.Failure
import Stencil.Proofs.Engine.Restraint

/-! # Reruns — a run again with the sources as they were

    What a run has resolved is in the memory of its site when it is over, if the
    sources are then what they were when it began; and the one resolve that may
    have failed would fail again.  So the same run in the world at the end, with
    the fragments as they were at the beginning, comes to the same output or fault,
    if the templates themselves do not read files.  Evaluators may hold other
    scripts by then, each under its own code.

    Headline: `rerun`. -/

namespace Stencil

open Engine

variable [Substrate] [FileSystem]

/-! ## Scripts that are held -/

namespace World

variable {world : World} {dirs : List Location} {kept : List TemplateId}

/-- Whether every evaluator holds its scripts under their own codes. -/
def HoldsMemos (world : World) : Prop :=
  ∀ site ∈ world.sites, IsMemo site.held

omit [FileSystem] in
theorem HoldsMemos.held (h : world.HoldsMemos) (i : Nat) : IsMemo (world.site i).held := by
  rcases world.site_cases i with ⟨-, hmem⟩ | ⟨hdefault, -⟩
  · exact h _ hmem
  · rw [hdefault]
    exact .empty

theorem HoldsMemos.trail (h : world.HoldsMemos) {refused : Bool} {next : World}
    (htrail : Trail world refused next) : next.HoldsMemos := by
  induction htrail with
  | refl => exact h
  | arrange components views streams _ ih => exact ih
  | hold i template hscript _ ih =>
      exact forall_setSite ih fun _ => (ih.held i).put template hscript
  | @resolve middle i template _ ih =>
      rw [on_resolve_eq]
      exact forall_setSite ih fun _ => ih.held i

theorem HoldsMemos.construct (h : world.HoldsMemos) (setup : Setup) :
    (on (openSite setup) world).2.HoldsMemos := by
  rw [on_openSite_eq]
  split
  · intro site hsite
    rcases List.mem_append.mp hsite with hold | hnew
    · exact h site hold
    · rw [List.mem_singleton.mp hnew]
      exact .empty
  · exact h

theorem HoldsMemos.step (h : world.HoldsMemos) {next : World} (hstep : world.Step dirs next) :
    next.HoldsMemos := by
  cases hstep with
  | construct => exact h.construct _
  | resolve i template => exact h.trail (Follows.resolve i template world)
  | render handle => exact h.trail (render_follows handle world)
  | part htrail => exact h.trail htrail
  | _ => exact h

/-- In every world that is reached the evaluators hold scripts under their own codes. -/
theorem Reached.holdsMemos (reached : World.Reached dirs kept world) : world.HoldsMemos := by
  induction reached with
  | start hsites =>
      intro site hsite
      rw [hsites] at hsite
      cases hsite
  | step hstep _ ih => exact ih.step hstep
  | purge i _ ih =>
      obtain ⟨host, memory, -, -, -, hrun⟩ := on_purge i _
      rw [hrun]
      exact forall_setSite ih fun _ => ih.held i

end World

namespace Engine

variable {α β : Type}

/-- The script that an artifact has by its code. -/
def builtFrom (artifact : Artifact) : Except Fault Script :=
  match artifact.code.text? with
  | some code => (Substrate.build code).mapError (.unrenderable artifact.template)
  | none => .error .noMember

omit [FileSystem] in
/-- Where scripts are held under their own codes, the script of an artifact is the one that is
    built from its code, and at most it is held then. -/
theorem on_scriptOf_of_isMemo {world : World} {i : Nat} (hmemo : IsMemo (world.site i).held)
    (artifact : Artifact) :
    (on (scriptOf i artifact) world).1 = builtFrom artifact
      ∧ ((on (scriptOf i artifact) world).2 = world
        ∨ ∃ code script, Substrate.build code = .ok script
          ∧ (on (scriptOf i artifact) world).2 = world.withHeld i
            ((world.site i).held.put artifact.template (code, script))) := by
  rw [scriptOf, builtFrom, codeOf]
  cases artifact.code.text? with
  | none => exact ⟨rfl, .inl rfl⟩
  | some code =>
      rw [pure_bind, on_bind_ok (on_get world)]
      dsimp only
      cases hfound : ((world.site i).held.get? artifact.template).filter
          fun found => found.1 == code with
      | some found =>
          -- a script is held under its code, and this one has the same code
          obtain ⟨hget, hsame⟩ := Option.filter_eq_some_iff.mp hfound
          obtain ⟨other, script⟩ := found
          cases beq_iff_eq.mp hsame
          rw [hmemo.built _ _ _ hget]
          exact ⟨rfl, .inl rfl⟩
      | none =>
          cases hscript : Substrate.build code with
          | error cause => exact ⟨rfl, .inl rfl⟩
          | ok script => exact ⟨rfl, .inr ⟨code, script, hscript, rfl⟩⟩

/-! ## The end of a run -/

omit [Substrate] [FileSystem] in
/-- Worlds that differ in the number of compilations only. -/
theorem World.eq_counted {world other : World} {compiles others : Nat}
    (h : world.counted compiles = other.counted others) :
    world = other.counted world.host.compiles := by
  have hrecounted := congrArg (fun found : World => found.counted world.host.compiles) h
  exact hrecounted

/-- What a run leads to: the end of a trail, or where it fails such an end with perhaps another
    number of compilations. -/
def EndsAlong (start : World) : Except Fault α × World → Prop
  | (.ok _, next) => Trail start false next
  | (.error _, next) => ∃ last compiles, Trail start false last ∧ next = last.counted compiles

/-- A world is at the end of a trail, up to the number of compilations. -/
def Later (last world : World) : Prop :=
  ∃ middle compiles, Trail world false middle ∧ last = middle.counted compiles

/-- A world is where a run fails, or one that comes later than its end. -/
def EndsBy (last : World) : Except Fault α × World → Prop
  | (.ok _, next) => Later last next
  | (.error _, next) => ∃ compiles, next = last.counted compiles

theorem EndsAlong.of_trail {start : World} {run : Except Fault α × World}
    (h : Trail start false run.2) : EndsAlong start run := by
  obtain ⟨outcome, next⟩ := run
  cases outcome with
  | ok a => exact h
  | error fault => exact ⟨next, next.host.compiles, h, rfl⟩

/-- A run behind a trail leads to what the trail and the run lead to. -/
theorem EndsAlong.behind {start middle : World} {run : Except Fault α × World}
    (h : EndsAlong middle run)
    (htrail : Trail start false middle) : EndsAlong start run := by
  obtain ⟨outcome, next⟩ := run
  cases outcome with
  | ok a => exact htrail.trans h
  | error fault =>
      obtain ⟨last, compiles, hlast, hnext⟩ := h
      exact ⟨last, compiles, htrail.trans hlast, hnext⟩

/-- What comes after a trail comes later. -/
theorem EndsBy.later {start last : World} {run : Except Fault α × World} (h : EndsBy last run)
    (hends : EndsAlong start run) : Later last start := by
  obtain ⟨outcome, next⟩ := run
  cases outcome with
  | ok a =>
      obtain ⟨middle, compiles, htrail, hlast⟩ := h
      exact ⟨middle, compiles, hends.trans htrail, hlast⟩
  | error fault =>
      obtain ⟨middle, compiles, htrail, hnext⟩ := hends
      obtain ⟨others, hlast⟩ := h
      exact ⟨middle, _, htrail, World.eq_counted (hlast.symm.trans hnext)⟩

/-! ## Runs on what is known -/

/-- A world with the fragments of another one and all else as at the end of a run, apart from the
    time, the number of compilations and the scripts that are held. -/
structure Knows (last world other : World) : Prop where
  host : ∃ clock compiles, other.host = { last.host with clock, compiles }
  site : ∀ j, ∃ held, IsMemo held ∧ other.site j = { last.site j with held }
  bare : other.sites.map Site.bare = last.sites.map Site.bare
  components : other.components = world.components
  views : other.views = world.views
  streams : other.streams = world.streams

/-- Two runs come to the same, and if they do not fail the second one knows at its end what it
    knew. -/
inductive Repeats (last : World) : Except Fault α × World → Except Fault α × World → Prop
  | ok (a : α) {next other : World} (h : Knows last next other) :
      Repeats last (.ok a, next) (.ok a, other)
  | error (fault : Fault) (next other : World) :
      Repeats last (.error fault, next) (.error fault, other)

/-- A world in custody with scripts that read no files, and one in which every source is as it was
    in that. -/
structure Unedited (start last : World) : Prop where
  tended : ∃ dirs kept, start.Tended dirs kept
  memos : start.HoldsMemos
  mild : start.IsMild Request.SparesFiles
  sources : ∀ i template, last.sourceAt i template = start.sourceAt i template

/-- The law that a run ends where a trail does, and comes to the same where all is known that a run
    has left behind which began as this one does. -/
def Law.rerunning (start last : World) : Law Unit where
  Holds x := Unedited start last → ∀ world, Trail start false world →
    EndsAlong world (on (x ()) world)
    ∧ ∀ other, EndsBy last (on (x ()) world) → Knows last world other →
      Repeats last (on (x ()) world) (on (x ()) other)

variable {start last : World}

/-- A run that reads and changes fragments and streams only. -/
theorem rerunning_of_fragments {x : Engine α}
    (h : ∀ world host switch sites, on x { world with host, switch, sites }
      = ((on x world).1, { (on x world).2 with host, switch, sites })) :
    (Law.rerunning start last).Keeps x := by
  intro _ world _
  have hsame := h world world.host world.switch world.sites
  refine ⟨.of_trail ?_, fun other _ hknows => ?_⟩
  · have hnext : (on x world).2 = { world with
        components := (on x world).2.components
        views := (on x world).2.views
        streams := (on x world).2.streams } := by
      have hrest := congrArg Prod.snd hsame
      change (on x world).2 = _ at hrest
      rw [hrest]
    rw [hnext]
    exact Trail.refl.arrange _ _ _
  · have hother : on x other
        = ((on x world).1, { (on x world).2 with
          host := other.host, switch := other.switch, sites := other.sites }) := by
      rw [← h world other.host other.switch other.sites, ← hknows.components, ← hknows.views,
        ← hknows.streams]
    rw [hother]
    rcases hrun : on x world with ⟨fault | a, next⟩
    · exact .error fault _ _
    · exact .ok a ⟨hknows.host, hknows.site, hknows.bare, rfl, rfl, rfl⟩

theorem rerunning_throw (fault : Fault) :
    (Law.rerunning start last).Keeps (throw fault : Engine α) :=
  rerunning_of_fragments fun _ _ _ _ => rfl

/-- A computation behind another one, which the law holds of for what that one comes to on the
    trail. -/
theorem rerunning_bind {x : Engine α} {f : α → Engine β} (hx : (Law.rerunning start last).Keeps x)
    (hf : ∀ {world a next}, Unedited start last → Trail start false world →
      on x world = (.ok a, next) → (Law.rerunning start last).Keeps (f a)) :
    (Law.rerunning start last).Keeps (x >>= f) := by
  intro hunedited world htrail
  obtain ⟨hends, hrepeats⟩ := hx hunedited world htrail
  show EndsAlong world (on (x >>= f) world) ∧ ∀ other, EndsBy last (on (x >>= f) world) → _ →
    Repeats last (on (x >>= f) world) (on (x >>= f) other)
  rcases hrun : on x world with ⟨fault | a, next⟩
  · rw [hrun] at hends hrepeats
    rw [on_bind_error hrun]
    refine ⟨hends, fun other hleads hknows => ?_⟩
    have hother := hrepeats other hleads hknows
    rcases hrun' : on x other with ⟨fault' | a', next'⟩
    · rw [hrun'] at hother
      cases hother
      rw [on_bind_error hrun']
      exact .error fault _ _
    · rw [hrun'] at hother
      cases hother
  · rw [hrun] at hends hrepeats
    have hbehind : Trail world false next := hends
    obtain ⟨hends', hrepeats'⟩ := hf hunedited htrail hrun hunedited next (htrail.trans hbehind)
    rw [on_bind_ok hrun]
    refine ⟨hends'.behind hbehind, fun other hleads hknows => ?_⟩
    -- what the second computation leads to, the first one leads to as well
    have hother := hrepeats other (hleads.later hends') hknows
    rcases hrun' : on x other with ⟨fault' | a', next'⟩
    · rw [hrun'] at hother
      cases hother
    · rw [hrun'] at hother
      cases hother with
      | ok _ hnext =>
          rw [on_bind_ok hrun']
          exact hrepeats' next' hleads hnext

/-- A computation that reads of the world what evaluators and fragments have in common. -/
theorem rerunning_read {γ : Type} {f : World → γ} {g : γ → Engine β}
    (h : ∀ world other, Knows last world other → Later last world → f other = f world)
    (hg : ∀ c, (Law.rerunning start last).Keeps (g c)) :
    (Law.rerunning start last).Keeps (get >>= fun world => g (f world)) := by
  intro hunedited world htrail
  obtain ⟨hends, hrepeats⟩ := hg (f world) hunedited world htrail
  refine ⟨hends, fun other hleads hknows => ?_⟩
  show Repeats last (on (g (f world)) world) (on (g (f other)) other)
  rw [h world other hknows (hleads.later hends)]
  exact hrepeats other hleads hknows

/-- The sources of all sites and the way they are compiled are the same all along a trail. -/
theorem Trail.bare_sites {world next : World} {refused : Bool} (h : Trail world refused next) :
    next.sites.map Site.bare = world.sites.map Site.bare := by
  induction h with
  | refl => rfl
  | arrange components views streams _ ih => exact ih
  | hold j template hscript _ ih =>
      exact (congrArg World.sites (World.bare_setSite (by rfl))).trans ih
  | resolve j template _ ih =>
      rw [on_resolve_eq]
      exact (congrArg World.sites (World.bare_setSite (by rfl))).trans ih

instance : (Law.rerunning start last).Flow where
  pure _ := rerunning_of_fragments fun _ _ _ _ => rfl
  bind hx hf := rerunning_bind hx fun {_ a _} _ _ _ => hf a
  stop _ := rerunning_throw _
  read {_ f} hbare h := by
    rw [← funext hbare]
    refine rerunning_read (f := World.bare) (fun world other hknows hlater => ?_) h
    obtain ⟨middle, compiles, htrail, rfl⟩ := hlater
    have hsites : (middle.counted compiles).sites = middle.sites := rfl
    rw [World.bare, World.bare, hknows.components, hknows.views, hknows.bare, hsites,
      htrail.bare_sites]

/-! ## Fragments -/

theorem rerunning_changeComponent (i : Nat) (change : Component → Component) :
    (Law.rerunning start last).Keeps (changeComponent i change) :=
  rerunning_of_fragments fun _ _ _ _ => rfl

theorem rerunning_changeView (i : Nat) (change : View → View) :
    (Law.rerunning start last).Keeps (changeView i change) :=
  rerunning_of_fragments fun _ _ _ _ => rfl

theorem rerunning_changeVars (handle : Handle) (change : Scope → Scope) :
    (Law.rerunning start last).Keeps (changeVars handle change) := by
  cases handle with
  | component i => exact rerunning_changeComponent i fun c => { c with vars := change c.vars }
  | view i => exact rerunning_changeView i fun v => { v with vars := change v.vars }

theorem rerunning_next (id : Nat) : (Law.rerunning start last).Keeps (next id) := by
  refine rerunning_of_fragments fun world host switch sites => ?_
  rw [next, on_bind_ok (on_get _), on_bind_ok (on_get _)]
  cases world.streams[id]?.getD [] <;> rfl

instance : (Law.rerunning start last).Evaluating where
  drain _ := rerunning_of_fragments fun _ _ _ _ => rfl
  next := rerunning_next
  setGate i _ := rerunning_changeComponent i _
  setCount i _ _ := rerunning_changeComponent i _
  setItems i _ _ := rerunning_changeComponent i _
  setLength i _ := rerunning_changeComponent i _
  setBinds i {_ _} _ := rerunning_changeComponent i _
  alterData i _ := rerunning_changeComponent i _
  redirect i _ _ := rerunning_changeComponent i _
  setLayout i _ := rerunning_changeView i _
  newComponent _ _ := rerunning_of_fragments fun _ _ _ _ => rfl
  bindValue handle name value := Law.Keeps.bindIn (rerunning_changeVars handle) name value

/-! ## Renders -/

/-- A source that at the end is what it was at the beginning has on the way the same text, or was
    written at the present time and has that time to the end. -/
theorem Unedited.hasSource (h : Unedited start last) {world : World}
    (htrail : Trail start false world) (hlater : Later last world) {i : Nat} {template : TemplateId}
    {moment : Binary64}
    (hsource : world.HasSource i template moment) : last.HasSource i template moment := by
  obtain ⟨file, hfile, hchanged⟩ := hsource
  obtain ⟨middle, compiles, hbehind, hlast⟩ := hlater
  obtain ⟨found, hfound, hsince⟩ := hbehind.sourceAt hfile
  have hend : last.sourceAt i template = .ok found := by rw [hlast]; exact hfound
  refine ⟨found, hend, ?_⟩
  rcases hsince with rfl | hnow
  · exact hchanged
  · obtain ⟨file', hfile', hbefore⟩ := htrail.sourceAt ((h.sources i template).symm.trans hend)
    obtain rfl := Except.ok.inj (hfile.symm.trans hfile')
    rcases hbefore with rfl | hthen
    · exact hchanged
    · rw [hnow, htrail.clock_eq, ← hthen]
      exact hchanged

omit [Substrate] in
/-- In custody a resolve fails with a fault of the source. -/
theorem isOfSource_of_resolve {world : World} {dirs : List Location} {kept : List TemplateId}
    (h : world.Tended dirs kept) {i : Nat} {template : TemplateId} {fault : Fault}
    (herror : (on (resolve i template) world).1 = .error fault) : fault.isOfSource = true := by
  obtain ⟨result, hresult, hrun⟩ := on_resolve i template world
  rw [hrun] at herror
  cases hresult with
  | missing hfile =>
      cases herror
      cases Sources.lacks_of_sourceFile hfile <;> rfl
  | troubled hfile hstale hstore hfind =>
      -- the store is in custody, where every entry is one that an engine has written
      rcases h.host.find ((h.cache i).store _ hstore) template with hnone | ⟨_, -, _, _, -, hfound⟩
      · cases hfind.symm.trans hnone
      · cases hfind.symm.trans hfound
  | unreadable hfile hstale htext =>
      cases herror
      rw [Sources.undecodable_of_textOf htext]
      rfl
  | refused =>
      cases herror
      rfl
  | fresh => cases herror
  | stored => cases herror
  | compiled => cases herror

/-- Where all is known but fragments, a template that could not be resolved still cannot be. -/
theorem Knows.refuses {world other : World} {compiles : Nat}
    (h : Knows (world.counted compiles) world other) {i : Nat} {template : TemplateId}
    {fault : Fault} (hrefuses : world.Refuses i template fault) :
    other.Refuses i template fault := by
  obtain ⟨held, -, hsite⟩ := h.site i
  obtain ⟨clock, others, hhost⟩ := h.host
  have hown : other.own i template = world.own i template := by
    rw [World.own, World.own, hsite, hhost]
    rfl
  suffices hspares : world.Spares other i template by
    obtain ⟨cause, hcause⟩ := hrefuses.spared hspares
    obtain rfl := Except.error.inj (hcause.own.symm.trans (hown.trans hrefuses.own))
    exact hcause
  refine ⟨?_, ?_, ?_, fun entry hentry => ?_, ?_, fun store _ file hfile => ?_⟩
  · rw [hsite]; rfl
  · rw [hsite]; rfl
  · rw [hsite]; rfl
  · rw [hsite] at hentry
    exact hentry
  · rw [World.sourceAt, World.sourceAt, hsite, hhost]
    exact .same (.refl _)
  · rw [hhost] at hfile
    exact hfile

theorem rerunning_resolve (i : Nat) (template : TemplateId) :
    (Law.rerunning start last).Keeps (resolve i template) := by
  intro hunedited world htrail
  obtain ⟨dirs, kept, htended⟩ := hunedited.tended
  have htended := htended.trail htrail
  show EndsAlong world (on (resolve i template) world) ∧ ∀ other,
    EndsBy last (on (resolve i template) world) → _ →
    Repeats last (on (resolve i template) world) (on (resolve i template) other)
  rcases hrun : on (resolve i template) world with ⟨fault | artifact, next⟩
  · have herror : (on (resolve i template) world).1 = .error fault := by rw [hrun]
    have hrefuses := World.refuses_iff.mpr ⟨herror, isOfSource_of_resolve htended herror⟩
    obtain ⟨compiles, hcounted⟩ := World.on_resolve_of_error herror
    have hnext : next = world.counted compiles := congrArg Prod.snd (hrun.symm.trans hcounted)
    refine ⟨⟨world, compiles, .refl, hnext⟩, fun other hleads hknows => ?_⟩
    obtain ⟨others, hlast⟩ := hleads
    rw [World.eq_counted (hlast.symm.trans hnext)] at hknows
    have hfails := (hknows.refuses hrefuses).error
    rcases hrun' : on (resolve i template) other with ⟨fault' | artifact', next'⟩
    · rw [hrun'] at hfails
      cases hfails
      exact .error fault _ _
    · rw [hrun'] at hfails
      cases hfails
  · have hok : (on (resolve i template) world).1 = .ok artifact := by rw [hrun]
    obtain ⟨hentry, hsource⟩ := htended.remembers hok
    have hbehind := Follows.resolve i template world
    rw [hrun] at hentry hsource hbehind
    refine ⟨hbehind, fun other hleads hknows => ?_⟩
    have hlater : Later last next := hleads
    have hend := hunedited.hasSource (htrail.trans hbehind) hlater hsource
    obtain ⟨middle, compiles, hafter, rfl⟩ := hlater
    have hkept : middle.Remembers i template artifact := hafter.remembers hentry hsource hend
    -- what is in memory at the end is also what the other world's memory has
    obtain ⟨held, -, hsite⟩ := hknows.site i
    have hentry' : other.Remembers i template artifact := by
      rw [World.Remembers, hsite]
      exact hkept
    have hsource' : other.HasSource i template artifact.compiledAt := by
      obtain ⟨clock, others, hhost⟩ := hknows.host
      rw [World.HasSource, World.sourceAt, hsite, hhost]
      exact hend
    rw [hentry'.on_resolve hsource']
    have hnext : next.components = world.components ∧ next.views = world.views
        ∧ next.streams = world.streams := by
      rw [← show (on (resolve i template) world).2 = next from congrArg Prod.snd hrun,
        on_resolve_eq]
      exact ⟨rfl, rfl, rfl⟩
    exact .ok artifact ⟨hknows.host, hknows.site, hknows.bare,
      hknows.components.trans hnext.1.symm, hknows.views.trans hnext.2.1.symm,
        hknows.streams.trans hnext.2.2.symm⟩

omit [FileSystem] in
/-- What is known of sites is known whatever scripts are held. -/
theorem Knows.withHeld {world other : World} (h : Knows last world other) (i : Nat) {held : Held}
    (hmemo : IsMemo held) : Knows last world (other.withHeld i held) where
  host := h.host
  site j := by
    rcases other.site_cases i with ⟨hi, -⟩ | ⟨-, hset⟩
    · by_cases hj : j = i
      · obtain ⟨held', -, hsite⟩ := h.site i
        refine ⟨held, hmemo, ?_⟩
        rw [hj, World.site_withHeld hi, hsite]
      · rw [World.site_withHeld_of_ne hj]
        exact h.site j
    · rw [show other.withHeld i held = other from hset _]
      exact h.site j
  bare := (congrArg World.sites (other.bare_withHeld i held)).trans h.bare
  components := h.components
  views := h.views
  streams := h.streams

theorem rerunning_scriptOf (i : Nat) (artifact : Artifact) :
    (Law.rerunning start last).Keeps (scriptOf i artifact) := by
  intro hunedited world htrail
  have hmemo := (hunedited.memos.trail htrail).held i
  obtain ⟨hscript, hhold⟩ := on_scriptOf_of_isMemo hmemo artifact
  have hbehind : Trail world false (on (scriptOf i artifact) world).2
      ∧ ∀ {other : World}, Knows last world other →
        Knows last (on (scriptOf i artifact) world).2 other := by
    rcases hhold with hsame | ⟨code, script, hbuilt, hheld⟩
    · rw [hsame]
      exact ⟨.refl, id⟩
    · rw [hheld]
      exact ⟨Trail.refl.hold i artifact.template hbuilt, fun h =>
        ⟨h.host, h.site, h.bare, h.components, h.views, h.streams⟩⟩
  refine ⟨.of_trail hbehind.1, fun other _ hknows => ?_⟩
  have hmemo' : IsMemo (other.site i).held := by
    obtain ⟨held, hheld, hsite⟩ := hknows.site i
    rw [hsite]
    exact hheld
  obtain ⟨hscript', hhold'⟩ := on_scriptOf_of_isMemo hmemo' artifact
  have hknows' : Knows last (on (scriptOf i artifact) world).2
      (on (scriptOf i artifact) other).2 := by
    rcases hhold' with hsame | ⟨code, script, hbuilt, hheld⟩
    · rw [hsame]
      exact hbehind.2 hknows
    · rw [hheld]
      exact (hbehind.2 hknows).withHeld i (hmemo'.put artifact.template hbuilt)
  show Repeats last (on (scriptOf i artifact) world) (on (scriptOf i artifact) other)
  rw [show on (scriptOf i artifact) world = (builtFrom artifact, _) from
      Prod.ext hscript rfl,
    show on (scriptOf i artifact) other = (builtFrom artifact, _) from Prod.ext hscript' rfl]
  cases builtFrom artifact with
  | ok script => exact .ok script hknows'
  | error fault => exact .error fault _ _

theorem rerunning_within (template : TemplateId) {x : Engine α}
    (hx : (Law.rerunning start last).Keeps x) :
    (Law.rerunning start last).Keeps (within template x) := by
  intro hunedited world htrail
  obtain ⟨hends, hrepeats⟩ := hx hunedited world htrail
  show EndsAlong world (on (within template x) world) ∧ ∀ other,
    EndsBy last (on (within template x) world) → _ →
    Repeats last (on (within template x) world) (on (within template x) other)
  rw [on_within]
  rcases hrun : on x world with ⟨fault | a, next⟩
  · rw [hrun] at hends hrepeats
    refine ⟨hends, fun other hleads hknows => ?_⟩
    have hother := hrepeats other hleads hknows
    rw [on_within]
    rcases hrun' : on x other with ⟨fault' | a', next'⟩
    · rw [hrun'] at hother
      cases hother
      exact .error _ _ _
    · rw [hrun'] at hother
      cases hother
  · rw [hrun] at hends hrepeats
    refine ⟨hends, fun other hleads hknows => ?_⟩
    have hother := hrepeats other hleads hknows
    rw [on_within]
    rcases hrun' : on x other with ⟨fault' | a', next'⟩
    · rw [hrun'] at hother
      cases hother
    · rw [hrun'] at hother
      cases hother with
      | ok _ hnext => exact .ok a hnext

/-- Where scripts read no files, every answer to the requests of a script goes along. -/
instance : (Law.rerunning start last).Answering Request.SparesFiles where
  answer {_} hrender {_} hr :=
    Law.Evaluating.answer hrender (fun handle change _ => rerunning_changeVars handle change)
      fun hfiles => by
        subst hfiles
        exact hr.elim

instance [Substrate.Mild Request.SparesFiles] :
    (Law.rerunning start last).Executing Request.SparesFiles where
  changeVars := rerunning_changeVars
  setTemplate i _ := rerunning_changeComponent i _
  noVariable _ _ _ := rerunning_throw _
  resolve := rerunning_resolve
  script {_} i artifact {_} h := rerunning_bind (rerunning_scriptOf i artifact)
    fun hunedited htrail hrun => h _ (asks_of_scriptOf hrun (htrail.isMild hunedited.mild))
  within {_} template {_} hx := rerunning_within template hx

end Engine

/-! ## Runs that read no files -/

section Restraining

variable {kind : Request → Prop} [DecidablePred kind] {cause : Trouble} {world : World}

omit [Substrate] [FileSystem] in
theorem Site.get?_restrained (site : Site) (template : TemplateId) :
    (site.restrained kind cause).held.get? template
      = (site.held.get? template).map (Prod.map id (Script.restrained kind cause)) := by
  obtain ⟨_, _, _, _, ⟨entries⟩⟩ := site
  show List.lookup template (entries.map _) = (List.lookup template entries).map _
  induction entries with
  | nil => rfl
  | cons entry entries ih =>
      rw [List.map_cons, List.lookup_cons, List.lookup_cons, ih]
      cases template == entry.1 <;> rfl

omit [Substrate] [FileSystem] in
/-- What is held restrained is held under its code in the restrained language. -/
theorem IsMemo.restrained [language : Substrate] {site : Site} (h : IsMemo site.held) :
    @IsMemo (language.restrained kind cause) (site.restrained kind cause).held := by
  refine @IsMemo.mk (language.restrained kind cause) _ (fun template code script hget => ?_) ?_
  · rw [Site.get?_restrained, Option.map_eq_some_iff] at hget
    obtain ⟨⟨found, held⟩, hfound, heq⟩ := hget
    cases heq
    exact congrArg (Except.map (Script.restrained kind cause)) (h.built _ _ _ hfound)
  · have hkeys : (site.restrained kind cause).held.keys = site.held.keys := List.map_map
    rw [hkeys]
    exact h.nodup

namespace World

omit [Substrate] in
theorem sourceAt_restrained (i : Nat) (template : TemplateId) :
    (world.restrained kind cause).sourceAt i template = world.sourceAt i template := by
  rw [sourceAt, sourceAt, site_restrained]
  rfl

omit [Substrate] [FileSystem] in
theorem Tended.restrained {dirs : List Location} {kept : List TemplateId}
    (h : world.Tended dirs kept) : (world.restrained kind cause).Tended dirs kept where
  host := h.host
  sites site hsite := by
    obtain ⟨plain, hplain, rfl⟩ := List.mem_map.mp hsite
    exact h.sites plain hplain
  kept := by
    have hkept : (world.restrained kind cause).kept = world.kept :=
      List.flatMap_map _ _ _
    rw [hkept]
    exact h.kept

omit [Substrate] [FileSystem] in
theorem HoldsMemos.restrained [language : Substrate] (h : world.HoldsMemos) :
    @HoldsMemos (language.restrained kind cause) (world.restrained kind cause) := by
  intro site hsite
  obtain ⟨plain, hplain, rfl⟩ := List.mem_map.mp hsite
  exact (h plain hplain).restrained

end World

namespace Engine

omit [Substrate] [FileSystem] in
/-- What is known of sites is known of them with their scripts restrained. -/
theorem Knows.restrained [language : Substrate] {last other : World} (h : Knows last world other) :
    @Knows (language.restrained kind cause) (last.restrained kind cause)
      (world.restrained kind cause) (other.restrained kind cause) := by
  have hbare (world : World) :
      (world.restrained kind cause).sites.map Site.bare = world.sites.map Site.bare :=
    congrArg World.sites World.bare_restrained
  refine @Knows.mk (language.restrained kind cause) _ _ _ h.host (fun j => ?_) ?_ h.components
    h.views h.streams
  · obtain ⟨held, hheld, hsite⟩ := h.site j
    let kept : Site := { last.site j with held }
    have hkept : IsMemo kept.held := hheld
    refine ⟨(kept.restrained kind cause).held, hkept.restrained, ?_⟩
    rw [World.site_restrained, World.site_restrained, hsite]
    rfl
  · rw [hbare, hbare]
    exact h.bare

end Engine

end Restraining

namespace Engine

/-- Where scripts read no files, a render that has left the sources as they were comes to the same
    where all is known that it has left. -/
theorem rerun_of_mild [Substrate.Mild Request.SparesFiles] {handle : Handle} {start other : World}
    (hunedited : Unedited start (on (render handle) start).2)
    (hknows : Knows (on (render handle) start).2 start other) :
    (on (render handle) other).1 = (on (render handle) start).1 := by
  have hkeeps : (Law.rerunning start (on (render handle) start).2).Keeps (render handle) :=
    Law.Keeps.renderUpTo _ handle
  have hends : EndsBy (on (render handle) start).2 (on (render handle) start) := by
    generalize on (render handle) start = first
    obtain ⟨fault | out, next⟩ := first
    · exact ⟨next.host.compiles, rfl⟩
    · exact ⟨next, next.host.compiles, .refl, rfl⟩
  have hrepeats := (hkeeps hunedited start .refl).2 other hends hknows
  generalize on (render handle) start = first at hrepeats ⊢
  generalize on (render handle) other = second at hrepeats ⊢
  cases hrepeats <;> rfl

omit [Substrate] in
/-- **Reruns**: in a world whose evaluators hold scripts under their own codes and whose stores are
    in custody, a render that reads no files and leaves the sources as they were comes at any time
    to the same with the fragments as they were, and all else as at its end. -/
theorem rerun [language : Substrate] {dirs : List Location} {kept : List TemplateId}
    {handle : Handle}
    {start other : World} (htended : start.Tended dirs kept) (hmemos : start.HoldsMemos)
    (hkeeps : KeepsTo Request.SparesFiles (on (render handle)) start)
    (hsources : ∀ i template,
      (on (render handle) start).2.sourceAt i template = start.sourceAt i template)
    (hknows : Knows (on (render handle) start).2 start other)
    (hkeeps' : KeepsTo Request.SparesFiles (on (render handle)) other) :
    (on (render handle) other).1 = (on (render handle) start).1 := by
  have hmild : @Substrate.Mild (language.restrained Request.SparesFiles .tooDeep) _ :=
    language.mild_restrained .tooDeep
  have hfirst := hkeeps .tooDeep
  have hsecond := hkeeps' .tooDeep
  dsimp only at hfirst hsecond
  have hagain := @rerun_of_mild (language.restrained Request.SparesFiles .tooDeep) _ hmild handle
    (start.restrained Request.SparesFiles .tooDeep) (other.restrained Request.SparesFiles .tooDeep)
  rw [hfirst, hsecond] at hagain
  refine hagain (@Unedited.mk (language.restrained _ _) _ _ _ ⟨dirs, kept, htended.restrained⟩
    hmemos.restrained (World.isMild_restrained _ _) fun i template => ?_) hknows.restrained
  rw [World.sourceAt_restrained, World.sourceAt_restrained, hsources]

end Engine

end Stencil
