import Stencil.Native.Usual
import Stencil.Proofs.Engine.Restraint
import Stencil.Proofs.Files.Listing

/-! # Confinement — engines see nothing outside their roots

    Engines without a cache folder are put on two trees that have the same at and
    below some roots.  Whatever a template is named, its source is only looked for
    below a root, and nothing else of a tree is read, by any step of any render
    whose templates do not read files by themselves.  So every step does on the one
    tree what it does on the other, and errands that are run one after the other
    get the same answers on both.

    Headline: `serve_confined`. -/

namespace Stencil

open Engine

/-! ## Worlds on other files -/

/-- An engine without a store, whose roots are among some roots. -/
structure Site.StaysIn (roots : List Location) (site : Site) : Prop where
  storeless : site.cache.store = none
  rooted : site.sources.LieIn roots

/-- Engines that stay in some roots, on files that agree with others there. -/
structure World.ConfinedTo (roots : List Location) (files : FileTree) (world : World) : Prop where
  sites : ∀ site ∈ world.sites, site.StaysIn roots
  agree : world.host.files.AgreeWithin roots files

/-- Engines that stay in some roots and hold scripts which read no files. -/
structure World.Sealed (roots : List Location) (files : FileTree) (world : World) : Prop
    extends world.ConfinedTo roots files where
  mild : world.IsMild Request.SparesFiles

@[simp] theorem World.site_withFiles (world : World) (files : FileTree) (i : Nat) :
    (world.withFiles files).site i = world.site i := rfl

@[simp] theorem World.host_withFiles (world : World) (files : FileTree) :
    (world.withFiles files).host = { world.host with files } := rfl

namespace World.ConfinedTo

variable {roots : List Location} {files : FileTree} {world : World}

/-- The site of any number stays in the roots; one that is not there has none. -/
theorem site (h : world.ConfinedTo roots files) (i : Nat) : (world.site i).StaysIn roots := by
  rcases world.site_cases i with ⟨_, hmem⟩ | ⟨hdefault, _⟩
  · exact h.sites _ hmem
  · rw [hdefault]
    exact ⟨rfl, nofun⟩

end World.ConfinedTo

theorem World.IsMild.withFiles {kind : Request → Prop} {world : World} (h : world.IsMild kind)
    (files : FileTree) : (world.withFiles files).IsMild kind := h

theorem World.Sealed.setSite {roots : List Location} {files : FileTree} {world : World}
    (h : world.Sealed roots files) (i : Nat) {site : Site} (hsite : site.StaysIn roots)
    (hheld : ∀ entry ∈ site.held.entries, entry.2.2.Asks Request.SparesFiles) :
    (world.setSite i site).Sealed roots files :=
  ⟨⟨World.forall_setSite h.sites fun _ => hsite, h.agree⟩,
    World.forall_setSite h.mild fun _ => hheld⟩

theorem World.ConfinedTo.restrained {kind : Request → Prop} [DecidablePred kind] {cause : Trouble}
    {roots : List Location} {files : FileTree} {world : World} (h : world.ConfinedTo roots files) :
    (world.restrained kind cause).ConfinedTo roots files := by
  refine ⟨fun site hsite => ?_, h.agree⟩
  obtain ⟨plain, hplain, rfl⟩ := List.mem_map.mp hsite
  exact ⟨(h.sites plain hplain).storeless, (h.sites plain hplain).rooted⟩

/-! ## Resolving on other files -/

/-- A resolve without a store sees of a tree only the source of its template, and changes none. -/
theorem Cache.resolve_withFiles [FileSystem] {cache : Cache} (hstore : cache.store = none)
    {sources : Sources}
    (ns : List Char) {template : TemplateId} {host : Host} {files : FileTree}
    (hsame : sources.sourceFile files template = sources.sourceFile host.files template) :
    cache.resolve sources ns template { host with files }
      = ((cache.resolve sources ns template host).1, (cache.resolve sources ns template host).2.1,
        { (cache.resolve sources ns template host).2.2 with files })
    ∧ (cache.resolve sources ns template host).2.1.store = none
    ∧ (cache.resolve sources ns template host).2.2.files = host.files := by
  have hstale {file : File} (hfile : sources.sourceFile host.files template = .ok file)
      (hfresh : cache.fresh? template file.changed = none) :
      cache.resolve sources ns template { host with files }
        = build sources ns template cache { host with files } := by
    rw [resolve_of_stale (hsame.trans hfile) hfresh, stored, hstore]
  have hresolution := resolution sources ns template cache host
  generalize cache.resolve sources ns template host = result at hresolution ⊢
  cases hresolution with
  | missing hfile =>
      rw [resolve_of_missing (hsame.trans hfile)]
      exact ⟨rfl, hstore, rfl⟩
  | fresh hfile hentry hfresh =>
      rw [resolve_of_fresh (hsame.trans hfile) (Option.filter_eq_some_iff.mpr ⟨hentry, hfresh⟩)]
      exact ⟨rfl, hstore, rfl⟩
  | troubled _ _ hsome => cases hstore.symm.trans hsome
  | stored _ _ hsome => cases hstore.symm.trans hsome
  | unreadable hfile hfresh htext =>
      rw [hstale hfile hfresh, build_of_unreadable (hsame.trans hfile) htext]
      exact ⟨rfl, hstore, rfl⟩
  | refused hfile hfresh htext hcompile =>
      rw [hstale hfile hfresh, build_of_refused (hsame.trans hfile) htext hcompile]
      exact ⟨rfl, hstore, rfl⟩
  | compiled hfile hfresh htext hcompile htime =>
      have hfiles (tree : FileTree) (code : String) (storedAt now : Binary64) :
          cache.filesWith tree template code storedAt now = tree := by
        rw [filesWith, hstore]
      rw [hstale hfile hfresh, build_of_compile (hsame.trans hfile) htext hcompile, htime]
      simp only [hfiles]
      exact ⟨rfl, hstore, trivial⟩

namespace Engine

variable {α β : Type} {roots : List Location} {files : FileTree}

/-! ## The law -/

/-- The law that a computation does on other files what it does on the files of the world, and
    leaves them as they are. -/
def Law.confined (roots : List Location) (files : FileTree) : Law Unit where
  Holds x := ∀ world, world.Sealed roots files →
    on (x ()) (world.withFiles files)
      = ((on (x ()) world).1, (on (x ()) world).2.withFiles files)
    ∧ (on (x ()) world).2.Sealed roots files

/-- A computation that changes neither sites nor files, and does not look at files. -/
theorem confined_of_sites {x : Engine α}
    (h : ∀ world files, on x (world.withFiles files)
      = ((on x world).1, (on x world).2.withFiles files))
    (hsites : ∀ world, (on x world).2.sites = world.sites)
    (hfiles : ∀ world, (on x world).2.host.files = world.host.files) :
    (Law.confined roots files).Keeps x := by
  intro world hworld
  refine ⟨h world files, ⟨?_, ?_⟩, ?_⟩
  · rw [hsites]
    exact hworld.sites
  · rw [hfiles]
    exact hworld.agree
  · rw [World.IsMild, hsites]
    exact hworld.mild

/-- A computation behind another one, which the law holds of for what that one comes to. -/
theorem confined_bind {x : Engine α} {f : α → Engine β} (hx : (Law.confined roots files).Keeps x)
    (hf : ∀ {world a next}, world.Sealed roots files → on x world = (.ok a, next) →
      (Law.confined roots files).Keeps (f a)) :
    (Law.confined roots files).Keeps (x >>= f) := by
  intro world hworld
  obtain ⟨hrun, hnext⟩ := hx world hworld
  rcases hfirst : on x world with ⟨fault | a, next⟩
  · rw [hfirst] at hrun hnext
    rw [on_bind_error hrun, on_bind_error hfirst]
    exact ⟨rfl, hnext⟩
  · rw [hfirst] at hrun hnext
    rw [on_bind_ok hrun, on_bind_ok hfirst]
    exact hf hworld hfirst next hnext

/-- A computation that reads something that is the same on the other files. -/
theorem confined_read {γ : Type} {f : World → γ} {g : γ → Engine β}
    (h : ∀ world, world.Sealed roots files → f (world.withFiles files) = f world)
    (hg : ∀ c, (Law.confined roots files).Keeps (g c)) :
    (Law.confined roots files).Keeps (get >>= fun world => g (f world)) := by
  intro world hworld
  rw [on_bind_ok (on_get world), on_bind_ok (on_get _), h world hworld]
  exact hg (f world) world hworld

theorem confined_throw (fault : Fault) :
    (Law.confined roots files).Keeps (throw fault : Engine α) :=
  confined_of_sites (fun _ _ => rfl) (fun _ => rfl) fun _ => rfl

instance : (Law.confined roots files).Flow where
  pure a := confined_of_sites (fun _ _ => rfl) (fun _ => rfl) fun _ => rfl
  bind hx hf := confined_bind hx fun {_ a _} _ _ => hf a
  stop cause := confined_throw _
  read {_ f} hbare h := by
    rw [← funext hbare]
    exact confined_read (f := World.bare) (fun _ _ => rfl) h

/-- A change of a fragment. -/
theorem confined_changeComponent (i : Nat) (change : Component → Component) :
    (Law.confined roots files).Keeps (changeComponent i change) :=
  confined_of_sites (fun _ _ => rfl) (fun _ => rfl) fun _ => rfl

theorem confined_changeView (i : Nat) (change : View → View) :
    (Law.confined roots files).Keeps (changeView i change) :=
  confined_of_sites (fun _ _ => rfl) (fun _ => rfl) fun _ => rfl

theorem confined_changeVars (handle : Handle) (change : Scope → Scope) :
    (Law.confined roots files).Keeps (changeVars handle change) := by
  cases handle with
  | component i => exact confined_changeComponent i fun c => { c with vars := change c.vars }
  | view i => exact confined_changeView i fun v => { v with vars := change v.vars }

/-- The next value of a stream is the same on all files. -/
theorem confined_next (id : Nat) : (Law.confined roots files).Keeps (next id) := by
  refine confined_of_sites (fun world files => ?_) (fun world => ?_) fun world => ?_
  · have hstreams : (world.withFiles files).streams = world.streams := rfl
    rw [next, on_bind_ok (on_get _), on_bind_ok (on_get _), hstreams]
    cases world.streams[id]?.getD [] <;> rfl
  all_goals
    rw [next, on_bind_ok (on_get _)]
    cases world.streams[id]?.getD [] <;> rfl

instance : (Law.confined roots files).Evaluating where
  drain _ := confined_of_sites (fun _ _ => rfl) (fun _ => rfl) fun _ => rfl
  next := confined_next
  setGate i _ := confined_changeComponent i _
  setCount i _ _ := confined_changeComponent i _
  setItems i _ _ := confined_changeComponent i _
  setLength i _ := confined_changeComponent i _
  setBinds i {_ _} _ := confined_changeComponent i _
  alterData i _ := confined_changeComponent i _
  redirect i _ _ := confined_changeComponent i _
  setLayout i _ := confined_changeView i _
  newComponent _ _ := confined_of_sites (fun _ _ => rfl) (fun _ => rfl) fun _ => rfl
  bindValue handle name value := Law.Keeps.bindIn (confined_changeVars handle) name value

/-! ## Renders -/

section Theory

variable [Substrate] [FileSystem]

omit [Substrate] in
theorem confined_resolve (site : Nat) (template : TemplateId) :
    (Law.confined roots files).Keeps (resolve site template) := by
  intro world hworld
  have hsame := Sources.sourceFile_congr
    ((hworld.site site).rooted.agreeFor hworld.agree template)
  obtain ⟨hrun, hstore, hfiles⟩ := Cache.resolve_withFiles (hworld.site site).storeless
    (world.site site).ns.toList hsame
  have hleft := on_resolve_eq site template (world.withFiles files)
  have hright := on_resolve_eq site template world
  rw [World.site_withFiles, World.host_withFiles, hrun] at hleft
  generalize (world.site site).cache.resolve _ _ template world.host = result
    at hleft hright hstore hfiles
  rw [hleft, hright]
  have hnext : World.Sealed roots files
      (world.setSite site { world.site site with cache := result.2.1 }) :=
    hworld.setSite site ⟨hstore, (hworld.site site).rooted⟩ (hworld.mild.site site)
  refine ⟨rfl, ⟨hnext.sites, ?_⟩, hnext.mild⟩
  show FileTree.AgreeWithin roots result.2.2.files files
  rw [hfiles]
  exact hworld.agree

variable [Substrate.Mild Request.SparesFiles]

omit [FileSystem] in
/-- A script is held at its site, and the files have no part in it. -/
theorem confined_scriptOf (site : Nat) (artifact : Artifact) :
    (Law.confined roots files).Keeps (scriptOf site artifact) := by
  refine (Law.Keeps.codeOf artifact).bind fun code world hworld => ?_
  obtain ⟨hstoreless, hrooted⟩ := hworld.site site
  simp only [on_bind_ok (on_get _), World.site_withFiles]
  split
  case h_1 => exact Law.Keeps.pure (K := Law.confined roots files) _ world hworld
  case h_2 =>
    cases hscript : Substrate.build code with
    | error cause => exact confined_throw _ world hworld
    | ok script =>
        refine ⟨rfl, hworld.setSite site ⟨hstoreless, hrooted⟩ fun entry hentry => ?_⟩
        rcases Table.mem_put hentry with rfl | hold
        · exact Substrate.Mild.asks hscript
        · exact hworld.mild.site site _ hold

omit [Substrate] [FileSystem] [Substrate.Mild Request.SparesFiles] in
theorem confined_within (template : TemplateId) {x : Engine α}
    (hx : (Law.confined roots files).Keeps x) :
    (Law.confined roots files).Keeps (within template x) := by
  intro world hworld
  obtain ⟨hrun, hnext⟩ := hx world hworld
  rw [on_within, on_within, hrun]
  exact ⟨rfl, hnext⟩

instance : (Law.confined roots files).Executing Request.SparesFiles where
  answer {_} hrender {_} hr :=
    Law.Evaluating.answer hrender (fun handle change _ => confined_changeVars handle change)
      fun hfiles => by
        subst hfiles
        exact hr.elim
  changeVars := confined_changeVars
  setTemplate i _ := confined_changeComponent i _
  noVariable _ _ _ := confined_throw _
  resolve := confined_resolve
  script {_} site artifact {_} h := confined_bind (confined_scriptOf site artifact)
    fun hworld hrun => h _ (asks_of_scriptOf hrun hworld.mild)
  within {_} template {_} hx := confined_within template hx

/-! ## Other errands -/

/-- What is found by a look at the world. -/
def look (f : World → Except Fault α) : Engine α := do
  ofFault (f (← get))

omit [Substrate] [FileSystem] [Substrate.Mild Request.SparesFiles] in
/-- A look that finds the same on the other files. -/
theorem confined_look {f : World → Except Fault α}
    (h : ∀ world, world.Sealed roots files → f (world.withFiles files) = f world) :
    (Law.confined roots files).Keeps (look f) := by
  refine confined_read h fun outcome => ?_
  cases outcome with
  | ok a => exact Law.Keeps.pure a
  | error fault => exact confined_throw fault

omit [Substrate] [Substrate.Mild Request.SparesFiles] in
/-- A new engine without a cache folder whose roots are among the roots. -/
theorem confined_openSite {setup : Setup} (hcache : setup.cache = none)
    (hroots : setup.sources.LieIn roots) : (Law.confined roots files).Keeps (openSite setup) := by
  intro world hworld
  have hstore (world : World) : on (openStore none) world = (.ok none, world) := rfl
  rw [openSite, hcache, on_bind_ok (hstore _), on_bind_ok (hstore _)]
  cases Directive.isNamespace setup.ns.toList with
  | false => exact ⟨rfl, hworld⟩
  | true =>
      refine ⟨rfl, ⟨fun site hsite => ?_, hworld.agree⟩, fun site hsite => ?_⟩
      · rcases List.mem_append.mp hsite with hold | hnew
        · exact hworld.sites site hold
        · rw [List.mem_singleton.mp hnew]
          exact ⟨rfl, hroots⟩
      · rcases List.mem_append.mp hsite with hold | hnew
        · exact hworld.mild site hold
        · rw [List.mem_singleton.mp hnew]
          exact fun entry hentry => absurd hentry List.not_mem_nil

omit [Substrate] [FileSystem] [Substrate.Mild Request.SparesFiles] in
theorem confined_purge (site : Nat) : (Law.confined roots files).Keeps (purge site) := by
  intro world hworld
  obtain ⟨hstoreless, hrooted⟩ := hworld.site site
  have hpurge (host : Host) :
      (world.site site).cache.purge host = (⟨.empty, (world.site site).cache.store⟩, host) := by
    rw [Cache.purge]
    split
    case h_1 => rfl
    case h_2 store hstore => cases hstoreless.symm.trans hstore
  rw [purge, on_bind_ok (on_get _), on_bind_ok (on_get _)]
  simp only [World.site_withFiles, hpurge]
  exact ⟨rfl, hworld.setSite site ⟨hstoreless, hrooted⟩ (hworld.mild.site site)⟩

/-! ## Errands -/

/-- What can be asked of engines and their fragments. -/
inductive Errand where
  | openSite (setup : Setup)
  | component (site : Nat) (name : String)
  | view (site : Nat) (name : String)
  | child (parent : Handle) (name : String)
  | stream (items : List Value)
  | bind (handle : Handle) (name value : Value)
  | bindAll (handle : Handle) (scope : Value)
  | gate (i : Nat) (condition : Value)
  | repeatBy (i : Nat) (count : Value) (closure : Option Closure)
  | each (i : Nat) (data : Value) (closure : Except Trouble (Option Closure))
      (other : Option String)
  | extend (i : Nat) (layout : Value)
  | redirect (i : Nat) (environment template : Value)
  | render (handle : Handle)
  | resolve (site : Nat) (template : TemplateId)
  | locate (site : Nat) (template : TemplateId)
  | changed (site : Nat) (template : TemplateId)
  | read (site : Nat) (template : TemplateId)
  | list (site : Nat) (role : Role)
  | purge (site : Nat)

/-- What an errand is answered with. -/
inductive Answer where
  | done
  | site (number : Nat)
  | fragment (handle : Handle)
  | value (v : Value)
  | text (out : String)
  | artifact (artifact : Artifact)
  | place (place : Location)
  | time (changed : Binary64)
  | source (source : List Char × Binary64)
  | names (names : List String)

/-- The answer to an errand. -/
def Errand.answer : Errand → Engine Answer
  | .openSite setup => .site <$> Engine.openSite setup
  | .component site name => .fragment <$> newComponent site name
  | .view site name => .fragment <$> newView site name
  | .child parent name => do return .fragment (← newComponent ((← get).siteOf parent) name)
  | .stream items => .value <$> newStream items
  | .bind handle name value => (fun _ => .done) <$> Engine.bind handle name value
  | .bindAll handle scope => (fun _ => .done) <$> Engine.bindAll handle scope
  | .gate i condition => (fun _ => .done) <$> Engine.gate i condition
  | .repeatBy i count closure => (fun _ => .done) <$> Engine.repeatBy i count closure
  | .each i data closure other => (fun _ => .done) <$> Engine.each i data closure other
  | .extend i layout => (fun _ => .done) <$> Engine.extend i layout
  | .redirect i environment template => (fun _ => .done) <$> Engine.redirect i environment template
  | .render handle => .text <$> Engine.render handle
  | .resolve site template => .artifact <$> Engine.resolve site template
  | .locate site template => .place <$> look fun world => (world.site site).sources.locate template
  | .changed site template =>
    .time <$> look fun world => (world.site site).sources.changed world.host.files template
  | .read site template =>
    .source <$> look fun world => (world.site site).sources.read world.host.files template
  | .list site role =>
    .names <$> look fun world => .ok ((world.site site).sources.list world.host.files role)
  | .purge site => (fun _ => .done) <$> Engine.purge site

/-- The answers to errands that are run one after the other, and the world after them.  An errand
    that fails leaves behind what it did before. -/
def serve : List Errand → World → List (Except Fault Answer) × World
  | [], world => ([], world)
  | errand :: errands, world =>
    let (answer, next) := on errand.answer world
    let (answers, last) := serve errands next
    (answer :: answers, last)

/-- An errand for a new engine is for one without a cache folder whose roots are among some. -/
def Errand.StaysIn (roots : List Location) : Errand → Prop
  | .openSite setup => setup.cache = none ∧ setup.sources.LieIn roots
  | _ => True

/-- In a mild language each errand does on the other files what it does on the files of the
    world. -/
theorem Errand.confined (hlinks : FileSystem.links = []) {errand : Errand}
    (h : errand.StaysIn roots) : (Law.confined roots files).Keeps errand.answer := by
  cases errand with
  | openSite setup => exact (confined_openSite h.1 h.2).map _
  | component site name => exact (Law.Shaping.newComponent site name).map _
  | view site name =>
      exact (confined_of_sites (fun _ _ => rfl) (fun _ => rfl) fun _ => rfl).map _
  | child parent name =>
      refine Law.Keeps.read (fun world => ?_) fun world => ?_
      · rw [World.siteOf_bare]
      · exact (Law.Shaping.newComponent _ name).map _
  | stream items =>
      exact (confined_of_sites (fun _ _ => rfl) (fun _ => rfl) fun _ => rfl).map _
  | bind handle name value => exact (Law.Evaluating.bindValue handle name value).map _
  | bindAll handle scope =>
      exact (Law.Keeps.bindAllWith (Law.Evaluating.bindValue handle) scope).map _
  | gate i condition => exact (Law.Keeps.gate i condition).map _
  | repeatBy i count closure =>
      exact (Law.Keeps.repeatWith (fun _ => confined_changeComponent i _) count).map _
  | each i data closure other =>
      exact (Law.Keeps.eachWith (fun _ _ => confined_changeComponent i _) data other).map _
  | extend i layout => exact (Law.Keeps.extend i layout).map _
  | redirect i environment template => exact (Law.Keeps.redirect i environment template).map _
  | render handle => exact (Law.Keeps.renderUpTo _ handle).map _
  | resolve site template => exact (confined_resolve site template).map _
  | locate site template => exact (confined_look fun _ _ => rfl).map _
  | changed site template =>
      refine (confined_look fun world hworld => ?_).map _
      exact Sources.changed_congr ((hworld.site site).rooted.agreeFor hworld.agree template)
  | read site template =>
      refine (confined_look fun world hworld => ?_).map _
      exact Sources.read_congr ((hworld.site site).rooted.agreeFor hworld.agree template)
  | list site role =>
      refine (confined_look fun world hworld => ?_).map _
      exact congrArg Except.ok
        (Sources.list_congr hlinks (hworld.site site).rooted hworld.agree role)
  | purge site => exact (confined_purge site).map _

/-- In a mild language errands get the same answers on both trees. -/
theorem serve_sealed (hlinks : FileSystem.links = []) {world : World}
    (hworld : world.Sealed roots files) {errands : List Errand}
    (herrands : ∀ errand ∈ errands, errand.StaysIn roots) :
    serve errands (world.withFiles files)
      = ((serve errands world).1, (serve errands world).2.withFiles files)
    ∧ (serve errands world).2.Sealed roots files := by
  induction errands generalizing world with
  | nil => exact ⟨rfl, hworld⟩
  | cons errand errands ih =>
      have hkeeps : (Law.confined roots files).Keeps errand.answer :=
        Errand.confined hlinks (herrands errand List.mem_cons_self)
      -- the world that the first errand leaves is sealed too, which carries the induction
      obtain ⟨hrun, hnext⟩ := hkeeps world hworld
      have hrest := ih hnext fun other hother => herrands other (List.mem_cons_of_mem _ hother)
      refine ⟨?_, hrest.2⟩
      simp only [serve, hrun, hrest.1]

end Theory

/-! ## Confined errands -/

section Theory

variable [language : Substrate] [FileSystem]

/-- **Confinement**: on two trees without links that have the same at and below some roots, engines
    without a cache folder that stay in these roots give the same answers and the same faults,
    whatever they are asked, as long as no template reads files by itself. -/
theorem serve_confined (hlinks : FileSystem.links = []) {world : World}
    (hworld : world.ConfinedTo roots files) {errands : List Errand}
    (herrands : ∀ errand ∈ errands, errand.StaysIn roots)
    (hkeeps : KeepsTo Request.SparesFiles (serve errands) world)
    (hkeeps' : KeepsTo Request.SparesFiles (serve errands) (world.withFiles files)) :
    (serve errands (world.withFiles files)).1 = (serve errands world).1 := by
  have hfirst := hkeeps .tooDeep
  have hsecond := hkeeps' .tooDeep
  dsimp only at hfirst hsecond
  have hsealed : World.Sealed roots files (world.restrained Request.SparesFiles .tooDeep) :=
    ⟨hworld.restrained, World.isMild_restrained _ _⟩
  have hmild : @Substrate.Mild (language.restrained Request.SparesFiles .tooDeep) _ :=
    language.mild_restrained .tooDeep
  obtain ⟨hsame, -⟩ := @serve_sealed _ _ (language.restrained Request.SparesFiles .tooDeep) _ hmild
    hlinks _ hsealed errands herrands
  have hwith : (world.restrained Request.SparesFiles .tooDeep).withFiles files
      = (world.withFiles files).restrained Request.SparesFiles .tooDeep := rfl
  rw [hwith, hsecond, hfirst] at hsame
  have hanswers := congrArg Prod.fst hsame
  exact hanswers

end Theory

section Witness

attribute [local instance] FileSystem.plain

/-- A world without engines, on a tree. -/
def onTree (tree : FileTree) : World :=
  ⟨⟨tree, .zero false, 0, 0⟩, none, [], [], [], []⟩

/-- A root with one source. -/
def rootTree (source : String) : FileTree :=
  (FileTree.empty.put ["site"] .folder).put ["site", "c.html"]
    (.file ⟨encodeText source, .zero false⟩)

/-- Another file beside the root leaves an engine in the root confined to it. -/
theorem confinedTo_rootTree (source : String) {name : String} (hname : name ≠ "site")
    (text : String) : (onTree (rootTree source)).ConfinedTo [["site"]]
      ((rootTree source).put [name] (.file ⟨encodeText text, .zero false⟩)) := by
  have hproper : (rootTree source).IsProper := (FileTree.IsProper.empty.put _ _).put _ _
  refine ⟨fun site hsite => absurd hsite List.not_mem_nil, .put hproper ?_ _⟩
  intro root hroot
  rw [List.mem_singleton.mp hroot]
  have hother : ("site" == name) = false := beq_eq_false_iff_ne.mpr hname.symm
  show (("site" == name) && true) = false
  rw [hother, Bool.false_and]

/-- Settings of an engine with that root. -/
def rooted : Setup :=
  ⟨[(.component, ["site"])], ".html", "mky", none, false⟩

theorem lieIn_rooted : rooted.sources.LieIn [["site"]] := by
  intro entry hentry
  rw [List.mem_singleton.mp hentry]
  exact List.mem_singleton.mpr rfl

/-- An engine is made, and asked in several ways for what lies beside its root. -/
def prying : List Errand :=
  [.openSite rooted, .component 0 "c", .render (.component 0),
    .resolve 0 ⟨.component, " /../secret"⟩,
    .read 0 ⟨.component, "x/../../secret"⟩, .list 0 .component]

theorem staysIn_prying : ∀ errand ∈ prying, errand.StaysIn [["site"]] := by
  simp [prying, Errand.StaysIn, lieIn_rooted, show rooted.cache = none from rfl]

section Fileless

/-- The usual language, in which a script stops before it would read files. -/
@[reducible] def fileless : Substrate :=
  Native.usual.restrained Request.SparesFiles .tooDeep

attribute [local instance] fileless

/-- Whether there is a file beside the root makes no difference. -/
theorem serve_confined_secret : ∃ tree secret : FileTree,
    tree = rootTree "\x7b\x7b this.component('../secret') \x7d\x7d"
      ∧ secret = tree.put ["secret.html"] (.file ⟨encodeText "s", .zero false⟩)
      ∧ (onTree tree).ConfinedTo [["site"]] secret
      ∧ (∀ errand ∈ prying, errand.StaysIn [["site"]])
      ∧ (serve prying (onTree secret)).1 = (serve prying (onTree tree)).1 := by
  have hmild : Substrate.Mild Request.SparesFiles := Native.usual.mild_restrained .tooDeep
  have hworld := confinedTo_rootTree "\x7b\x7b this.component('../secret') \x7d\x7d"
    (show "secret.html" ≠ "site" by decide) "s"
  generalize htree : rootTree "\x7b\x7b this.component('../secret') \x7d\x7d" = tree at hworld
  generalize hsecret : tree.put ["secret.html"] (.file ⟨encodeText "s", .zero false⟩) = secret
    at hworld
  have hsealed : (onTree tree).Sealed [["site"]] secret :=
    ⟨hworld, fun site hsite => absurd hsite List.not_mem_nil⟩
  have hlinks : FileSystem.links = [] := rfl
  have hserve := serve_sealed hlinks hsealed staysIn_prying
  have hother : (serve prying ((onTree tree).withFiles secret)).2.IsMild Request.SparesFiles := by
    rw [hserve.1]
    exact hserve.2.mild.withFiles secret
  have hkeeps : KeepsTo Request.SparesFiles (serve prying) (onTree tree) :=
    .of_mild hsealed.mild hserve.2.mild
  have hkeeps' : KeepsTo Request.SparesFiles (serve prying) ((onTree tree).withFiles secret) :=
    .of_mild (hsealed.mild.withFiles secret) hother
  have hconfined := serve_confined hlinks hworld staysIn_prying hkeeps hkeeps'
  exact ⟨tree, secret, rfl, hsecret.symm, hworld, staysIn_prying, hconfined⟩

end Fileless

attribute [local instance] Native.usual

/-- The text that an errand is answered with, if there is one. -/
def textOf? : Except Fault Answer → Option String
  | .ok (.text out) => some out
  | _ => none

/-- A template that goes through the roots of its engine and reads a file beside each. -/
def peeking : String :=
  "\x7b% for p in this.view_compiler.environment.roots.values() %\x7d"
    ++ "\x7b\x7b p.parent.joinpath('secret.txt').read_text() \x7d\x7d\x7b% endfor %\x7d"

/-- A template can reach a file beside its root by the paths of the roots. -/
theorem serve_peeking :
    (onTree (rootTree peeking)).ConfinedTo [["site"]]
      ((rootTree peeking).put ["secret.txt"] (.file ⟨encodeText "top", .zero false⟩))
    ∧ (∀ errand ∈ prying, errand.StaysIn [["site"]])
    ∧ (serve prying (onTree (rootTree peeking))).1.filterMap textOf? = []
    ∧ (serve prying (onTree ((rootTree peeking).put ["secret.txt"]
        (.file ⟨encodeText "top", .zero false⟩)))).1.filterMap textOf? = ["top"] :=
  ⟨confinedTo_rootTree peeking (by decide) "top", staysIn_prying, by decide +kernel,
    by decide +kernel⟩

end Witness

end Engine

end Stencil
