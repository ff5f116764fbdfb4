import Stencil.Proofs.Cache.Permanence
import Stencil.Proofs.Cache.Soundness

/-! # Failure — a resolve that fails changes nothing

    A resolve fails with a fault of the source exactly if the source is missing, is
    no text or is refused, and neither the memory nor the store has a fresh entry.
    Then the memory, the files and the scripts that are held stay as they were,
    older entries of the template among them, and only the count of compilations may
    change.  As long as the source does not change, nothing that engines of the same
    sources and namespace do can make such an entry fresh, since to store an entry
    they would have to compile the source themselves; and whatever others store, an
    older entry is not what is answered.

    Headline: `resolve_failed`. -/

namespace Stencil

open Engine

section Theory

variable [FileSystem] {dirs : List Location} {kept more : List TemplateId} {world next : World}
  {i : Nat}
  {template : TemplateId} {fault : Fault}

/-! ## Faults of a source -/

/-- Whether a fault is one of a source: it is missing, has no path, is no text or is refused. -/
def Fault.isOfSource : Fault → Bool
  | .notFound _ _ => true
  | .uncompilable _ _ => true
  | .trouble (.path _) => true
  | .trouble .undecodable => true
  | _ => false

/-- A source that is missing is not compiled. -/
theorem Sources.compiled_of_missing {sources : Sources} {ns : List Char} {tree : FileTree}
    (h : sources.sourceFile tree template = .error fault) :
    sources.compiled ns tree template = .error fault := by
  rw [compiled, h]
  rfl

/-- What compiling a source fails with is a fault of the source. -/
theorem Sources.isOfSource_of_compiled {sources : Sources} {ns : List Char} {tree : FileTree}
    (h : sources.compiled ns tree template = .error fault) : fault.isOfSource = true := by
  cases hfile : sources.sourceFile tree template with
  | error missing =>
      rw [compiled_of_missing hfile] at h
      cases h
      cases lacks_of_sourceFile hfile <;> rfl
  | ok file =>
      rw [compiled_of_file hfile] at h
      cases htext : textOf file with
      | error unread =>
          rw [htext] at h
          obtain rfl := undecodable_of_textOf htext
          cases h
          rfl
      | ok text =>
          rw [htext] at h
          change (Directive.compile ns Directive.standardRules text).mapError _ = _ at h
          cases hcompile : Directive.compile ns Directive.standardRules text with
          | error error =>
              rw [hcompile] at h
              cases h
              rfl
          | ok code =>
              rw [hcompile] at h
              cases h

omit [FileSystem] in
theorem Stored.isOfSource_of_templateOf {doc : Json} {cause : Trouble}
    (h : templateOf doc = .error cause) : (Fault.trouble cause).isOfSource = false := by
  rw [templateOf] at h
  split at h
  · split at h <;> cases h
  · cases h
    rfl
  · cases h
    rfl
  · cases h

omit [FileSystem] in
theorem Stored.isOfSource_of_timeOf {doc : Json} {cause : Trouble}
    (h : timeOf doc = .error cause) : (Fault.trouble cause).isOfSource = false := by
  rw [timeOf] at h
  simp only at h
  split at h
  case h_1 | h_2 =>
    -- a whole number may be too large
    split at h
    · cases h
      rfl
    · cases h
  all_goals cases h

omit [FileSystem] in
/-- What the document of an entry is troubled by is no fault of a source. -/
theorem Stored.isOfSource_of_ofJson {doc : Json} {cause : Trouble}
    (h : ofJson doc = .error cause) : (Fault.trouble cause).isOfSource = false := by
  unfold ofJson at h
  split at h
  case isTrue => cases h
  case isFalse =>
    split at h
    case h_2 =>
      cases h
      rfl
    case h_1 members _ =>
      split at h
      case isTrue => cases h
      case isFalse =>
        cases hname : templateOf (.object members) with
        | error trouble =>
            rw [hname] at h
            cases h
            exact isOfSource_of_templateOf hname
        | ok named =>
            rw [hname] at h
            simp only [Bind.bind, Except.bind] at h
            split at h
            · cases htime : timeOf (.object members) with
              | error trouble =>
                  rw [htime] at h
                  cases h
                  exact isOfSource_of_timeOf htime
              | ok storedAt =>
                  rw [htime] at h
                  cases h
            · cases h

omit [FileSystem] in
/-- What a store is troubled by is no fault of a source. -/
theorem Store.isOfSource_of_find {store : Store} {tree : FileTree} {cause : Trouble}
    (h : store.find tree template = .error cause) : (Fault.trouble cause).isOfSource = false := by
  rw [find] at h
  split at h
  · exact Stored.isOfSource_of_ofJson h
  · cases h

/-! ## One resolve that fails -/

namespace Cache

variable {sources : Sources} {ns : List Char} {cache : Cache} {host : Host} {file : File}

/-- A resolve that fails leaves the cache, and of the host all but the count of compilations. -/
theorem Resolution.of_error {result : Resolved}
    (h : Resolution sources ns template cache host result) (herror : result.1 = .error fault) :
    ∃ compiles, result = (.error fault, cache, { host with compiles }) := by
  cases h with
  | missing =>
      cases herror
      exact ⟨host.compiles, rfl⟩
  | troubled =>
      cases herror
      exact ⟨host.compiles, rfl⟩
  | unreadable =>
      cases herror
      exact ⟨host.compiles, rfl⟩
  | refused =>
      cases herror
      exact ⟨host.compiles + 1, rfl⟩
  | fresh => cases herror
  | stored => cases herror
  | compiled => cases herror

/-- The code that is built is what the source compiles to. -/
theorem code_build (hfile : sources.sourceFile host.files template = .ok file) :
    (build sources ns template cache host).1.map Artifact.code
      = (sources.compiled ns host.files template).map fun code => .text (String.ofList code) := by
  rw [Sources.compiled_of_file hfile]
  cases htext : Sources.textOf file with
  | error fault =>
      rw [build_of_unreadable hfile htext]
      rfl
  | ok text =>
      show _ = ((Directive.compile ns Directive.standardRules text).mapError _).map _
      cases hcompile : Directive.compile ns Directive.standardRules text with
      | error error =>
          rw [build_of_refused hfile htext hcompile]
          rfl
      | ok code =>
          rw [build_of_compile hfile htext hcompile]
          rfl

end Cache

/-! ## Sites that cannot resolve a template -/

namespace World

/-- A world in which another number of compilations is counted. -/
def counted (world : World) (compiles : Nat) : World :=
  { world with host := { world.host with compiles } }

/-- Whether a site cannot resolve a template: its source is missing or does not compile, and
    neither the memory nor the store has an entry that was stored no earlier than the source has
    changed. -/
structure Refuses (world : World) (i : Nat) (template : TemplateId) (fault : Fault) : Prop where
  own : world.own i template = .error fault
  stale : ∀ file, world.sourceAt i template = .ok file →
    (∀ store ∈ (world.site i).cache.store,
      ∃ found, store.find world.host.files template = .ok found)
    ∧ ¬ (world.site i).cache.HasFresh world.host.files template file.changed

/-- A resolve that fails leaves a world, but for the count of compilations. -/
theorem on_resolve_of_error (h : (on (resolve i template) world).1 = .error fault) :
    ∃ compiles, on (resolve i template) world = (.error fault, world.counted compiles) := by
  obtain ⟨result, hresult, hrun⟩ := on_resolve i template world
  rw [hrun] at h ⊢
  obtain ⟨compiles, rfl⟩ := hresult.of_error h
  refine ⟨compiles, ?_⟩
  show (_, World.counted (world.setSite i (world.site i)) compiles) = _
  rw [setSite_site]

/-- Where a site cannot resolve a template, asking for it fails. -/
theorem Refuses.error (h : world.Refuses i template fault) :
    (on (resolve i template) world).1 = .error fault := by
  have hown := h.own
  rw [on_resolve_eq]
  cases hfile : world.sourceAt i template with
  | error missing =>
      obtain rfl := Except.error.inj ((Sources.compiled_of_missing hfile).symm.trans hown)
      show (Cache.resolve _ _ _ _ _).1 = _
      rw [Cache.resolve_of_missing hfile]
  | ok file =>
      obtain ⟨hfind, hstale⟩ := h.stale file hfile
      have hcode := @Cache.code_build _ template _ (world.site i).ns.toList (world.site i).cache
        world.host file hfile
      rw [show Sources.compiled _ _ _ _ = _ from hown] at hcode
      show (Cache.resolve _ _ _ _ _).1 = _
      rw [Cache.resolve_of_not_hasFresh hfile hfind hstale]
      exact eq_error_of_map hcode

/-- A resolve fails with a fault of the source exactly where the site cannot resolve the
    template. -/
theorem refuses_iff : world.Refuses i template fault
    ↔ (on (resolve i template) world).1 = .error fault ∧ fault.isOfSource = true := by
  refine ⟨fun h => ⟨h.error, Sources.isOfSource_of_compiled h.own⟩, ?_⟩
  rintro ⟨herror, hfault⟩
  rw [on_resolve_eq] at herror
  change (Cache.resolve _ _ _ _ _).1 = _ at herror
  cases hfile : world.sourceAt i template with
  | error missing =>
      rw [Cache.resolve_of_missing hfile] at herror
      obtain rfl := Except.error.inj herror
      exact ⟨Sources.compiled_of_missing hfile, fun file hsome => nomatch hfile.symm.trans hsome⟩
  | ok file =>
      have hstale : ¬ (world.site i).cache.HasFresh world.host.files template file.changed := by
        intro hfresh
        obtain ⟨artifact, next, stamps, hanswer⟩ :=
          @Cache.resolve_of_hasFresh _ _ _ (world.site i).ns.toList _ _ _ hfile hfresh
        rw [hanswer] at herror
        cases herror
      have hfind : ∀ store ∈ (world.site i).cache.store,
          ∃ found, store.find world.host.files template = .ok found := by
        intro store hstore
        cases hfound : store.find world.host.files template with
        | ok found => exact ⟨found, rfl⟩
        | error cause =>
            -- a store that is troubled would be the fault, and is no fault of the source
            have hmemory : (world.site i).cache.fresh? template file.changed = none := by
              rw [Cache.fresh?, Option.filter_eq_none_iff]
              exact fun entry hentry htime => hstale (.inl ⟨entry, hentry, htime⟩)
            have hstored : (world.site i).cache.stored world.host.files template file.changed
                = .error cause := by
              rw [Cache.stored, Option.mem_def.mp hstore]
              simp only [hfound]
              rfl
            rw [Cache.resolve_of_stale hfile hmemory, hstored] at herror
            cases herror
            rw [Store.isOfSource_of_find hfound] at hfault
            cases hfault
      have hcode := @Cache.code_build _ template _ (world.site i).ns.toList (world.site i).cache
        world.host file hfile
      rw [Cache.resolve_of_not_hasFresh hfile hfind hstale] at herror
      rw [herror] at hcode
      refine ⟨eq_error_of_map hcode.symm, fun other hother => ?_⟩
      cases hfile.symm.trans hother
      exact ⟨hfind, hstale⟩

end World

/-! ## What leaves a template unresolved -/

/-- Whether a source is what it was, or has the same text and a later time. -/
inductive Sources.Same : Except Fault File → Except Fault File → Prop
  | refl (source : Except Fault File) : Same source source
  | touched {file : File} {changed : Binary64} (hlater : file.changed.le changed = true) :
      Same (.ok file) (.ok ⟨file.bytes, changed⟩)

/-- Whether a source is the same, or is missing as it was, in whatever way. -/
inductive Sources.Alike : Except Fault File → Except Fault File → Prop
  | same {old new : Except Fault File} (h : Same old new) : Alike old new
  | missing (fault other : Fault) : Alike (.error fault) (.error other)

/-- A source depends on the file at its place, but for the way in which it is missing. -/
theorem Sources.alike_of_file? {sources : Sources} {tree other : FileTree}
    (h : ∀ place, sources.locate template = .ok place → other.file? place = tree.file? place) :
    Alike (sources.sourceFile tree template) (sources.sourceFile other template) := by
  cases hlocate : sources.locate template with
  | error fault =>
      rw [sourceFile, sourceFile, hlocate]
      exact .same (.refl _)
  | ok place =>
      cases hfile : tree.file? place with
      | none =>
          rw [sourceFile_of_missing hlocate hfile,
            sourceFile_of_missing hlocate ((h place hlocate).trans hfile)]
          exact .missing _ _
      | some file =>
          rw [sourceFile_eq_ok_iff.mpr ⟨place, hlocate, hfile⟩,
            sourceFile_eq_ok_iff.mpr ⟨place, hlocate, (h place hlocate).trans hfile⟩]
          exact .same (.refl _)

/-- The same source compiles to the same. -/
theorem Sources.compiled_of_same {sources : Sources} {ns : List Char} {tree other : FileTree}
    (h : Same (sources.sourceFile tree template) (sources.sourceFile other template)) :
    sources.compiled ns other template = sources.compiled ns tree template := by
  generalize hold : sources.sourceFile tree template = old at h
  generalize hnew : sources.sourceFile other template = new at h
  cases h with
  | refl => rw [compiled, compiled, hold, hnew]
  | touched => rw [compiled_of_file hold, compiled_of_file hnew]; rfl

omit [FileSystem] in
/-- What a store finds for a template depends on the file at the place of its entry only. -/
theorem Store.find_congr {store : Store} {tree other : FileTree}
    (h : other.file? (store.place template) = tree.file? (store.place template)) :
    store.find other template = store.find tree template := by
  rw [find, find, document?, document?, h]

/-- Whether a site has, after something has happened, no more for a template than it had, and its
    source is the same or is missing as before. -/
structure World.Spares (world next : World) (i : Nat) (template : TemplateId) : Prop where
  sources : (next.site i).sources = (world.site i).sources
  ns : (next.site i).ns = (world.site i).ns
  store : (next.site i).cache.store = (world.site i).cache.store
  memory : ∀ entry, (next.site i).cache.memory.get? template = some entry →
    (world.site i).cache.memory.get? template = some entry
  source : Sources.Alike (world.sourceAt i template) (next.sourceAt i template)
  entry : ∀ store ∈ (world.site i).cache.store, ∀ file,
    next.host.files.file? (store.place template) = some file →
    world.host.files.file? (store.place template) = some file

namespace World

/-- Where a source that cannot be compiled is the same or missing as before, it still cannot. -/
theorem Refuses.own_spared (h : world.Refuses i template fault)
    (hspares : world.Spares next i template) : ∃ other, next.own i template = .error other := by
  have hsource := hspares.source
  rw [World.own, hspares.ns, hspares.sources]
  rw [sourceAt, sourceAt, hspares.sources] at hsource
  generalize hnew : (world.site i).sources.sourceFile next.host.files template = new at hsource
  generalize hold : (world.site i).sources.sourceFile world.host.files template = old at hsource
  cases hsource with
  | missing => exact ⟨_, Sources.compiled_of_missing hnew⟩
  | same hsame =>
      rw [← hold, ← hnew] at hsame
      exact ⟨fault, (Sources.compiled_of_same hsame).trans h.own⟩

/-- Where nothing comes to what a site has for a template it cannot resolve, it still cannot. -/
theorem Refuses.spared (h : world.Refuses i template fault)
    (hspares : world.Spares next i template) : ∃ other, next.Refuses i template other := by
  obtain ⟨other, hown⟩ := h.own_spared hspares
  refine ⟨other, hown, fun later hlater => ?_⟩
  -- the source has changed no later than it has now
  obtain ⟨file, hfile, htime⟩ : ∃ file, world.sourceAt i template = .ok file
      ∧ ∀ {moment : Binary64}, later.changed.le moment = true →
        file.changed.le moment = true := by
    have hsource := hspares.source
    generalize world.sourceAt i template = old at hsource
    rw [hlater] at hsource
    cases hsource with
    | same hsame =>
        cases hsame with
        | refl => exact ⟨later, rfl, id⟩
        | touched hle => exact ⟨_, rfl, fun hmoment => Binary64.le_trans hle hmoment⟩
  obtain ⟨hfind, hstale⟩ := h.stale file hfile
  have hsame {store : Store} (hstore : store ∈ (world.site i).cache.store) :
      store.find next.host.files template = .ok none
        ∨ store.find next.host.files template = store.find world.host.files template := by
    cases hentry : next.host.files.file? (store.place template) with
    | none => exact .inl (Store.find_of_none hentry)
    | some file =>
        have hthere := hspares.entry store hstore file hentry
        exact .inr (Store.find_congr (hentry.trans hthere.symm))
  rw [hspares.store]
  constructor
  · intro store hstore
    rcases hsame hstore with hnone | hsome
    · exact ⟨none, hnone⟩
    · rw [hsome]
      exact hfind store hstore
  · rintro (⟨entry, hentry, hfresh⟩ | ⟨store, hstore, found, hfound, hfresh⟩)
    · exact hstale (.inl ⟨entry, hspares.memory entry hentry, htime hfresh⟩)
    · rw [hspares.store] at hstore
      rcases hsame hstore with hnone | hsome
      · cases hnone.symm.trans hfound
      · exact hstale (.inr ⟨store, hstore, found, hsome.symm.trans hfound, htime hfresh⟩)

/-- What leaves the sites and the files leaves all that a site has for a template. -/
theorem Spares.of_eq (hsite : next.site i = world.site i)
    (hfiles : ∀ there, next.host.files.file? there = world.host.files.file? there) :
    world.Spares next i template where
  sources := congrArg Site.sources hsite
  ns := congrArg Site.ns hsite
  store := congrArg (fun site => site.cache.store) hsite
  memory entry hentry := by rw [← hsite]; exact hentry
  source := by
    rw [sourceAt, sourceAt, hsite]
    exact Sources.alike_of_file? fun place _ => hfiles place
  entry store _ file hfile := (hfiles _).symm.trans hfile

/-! ## Engines of the same sources and namespace -/

/-- Whether the engines of a world read the same sources under one namespace, and keep their entries
    in some folders. -/
def Uniform (world : World) (dirs : List Location) (sources : Sources) (ns : String) : Prop :=
  ∀ site ∈ world.sites, site.sources = sources ∧ site.ns = ns
    ∧ ∀ store ∈ site.cache.store, store.dir ∈ dirs

variable {sources : Sources} {ns : String}

/-- A template that one engine cannot compile no engine of the same sources and namespace can. -/
theorem Uniform.own_eq (h : world.Uniform dirs sources ns) {j : Nat} (hi : i < world.sites.length)
    (hj : j < world.sites.length) (template : TemplateId) :
    world.own j template = world.own i template := by
  obtain ⟨hsources, hns, -⟩ := h _ (site_mem hi)
  obtain ⟨hsources', hns', -⟩ := h _ (site_mem hj)
  rw [World.own, World.own, hsources, hns, hsources', hns']

omit [FileSystem] in
theorem Uniform.setSite (h : world.Uniform dirs sources ns) {j : Nat} {site : Site}
    (hsources : site.sources = (world.site j).sources) (hns : site.ns = (world.site j).ns)
    (hstore : site.cache.store = (world.site j).cache.store) :
    (world.setSite j site).Uniform dirs sources ns := by
  refine forall_setSite h fun hmem => ?_
  rw [hsources, hns, hstore]
  exact h _ hmem

theorem Uniform.resolve (h : world.Uniform dirs sources ns) (j : Nat) (other : TemplateId) :
    (on (Engine.resolve j other) world).2.Uniform dirs sources ns := by
  obtain ⟨result, hresult, hrun⟩ := Engine.on_resolve j other world
  rw [hrun]
  exact h.setSite rfl rfl hresult.store_eq

/-- One more engine of the same configuration. -/
theorem Uniform.construct {setup : Setup} (h : world.Uniform dirs setup.sources setup.ns)
    (hcache : ∀ path ∈ setup.cache, Store.folder path ∈ dirs) :
    (on (openSite setup) world).2.Uniform dirs setup.sources setup.ns := by
  obtain ⟨files, -, hrun | ⟨store, hstore, -, hrun⟩⟩ := on_openSite setup world
  · rw [hrun]
    exact h
  · rw [hrun]
    intro site hsite
    rcases List.mem_append.mp hsite with hold | hnew
    · exact h site hold
    · rw [List.mem_singleton.mp hnew]
      refine ⟨rfl, rfl, fun made hmade => ?_⟩
      obtain ⟨path, hpath, hdir⟩ := hstore made hmade
      exact hdir ▸ hcache path hpath

/-- Where the source of a template is the same, its fault is. -/
theorem Refuses.of_same {other : Fault} (h : next.Refuses i template other)
    (hworld : world.Refuses i template fault) (huniform : world.Uniform dirs sources ns)
    (hinside : i < world.sites.length) (hnext : next.Uniform dirs sources ns)
    (hthere : i < next.sites.length)
    (hsource : Sources.Same (sources.sourceFile world.host.files template)
      (sources.sourceFile next.host.files template)) : next.Refuses i template fault := by
  obtain ⟨hsources, hns, -⟩ := huniform _ (site_mem hinside)
  obtain ⟨hsources', hns', -⟩ := hnext _ (site_mem hthere)
  have hown := h.own
  have hworldOwn := hworld.own
  rw [World.own, hsources', hns', Sources.compiled_of_same hsource] at hown
  rw [World.own, hsources, hns] at hworldOwn
  cases hworldOwn.symm.trans hown
  exact h

/-- Where a template cannot be resolved and its source does not lie with the entries, no resolve by
    an engine of the same sources and namespace brings an entry for it, if no other template of its
    digest is resolved. -/
theorem Refuses.resolve (h : world.Refuses i template fault)
    (huniform : world.Uniform dirs sources ns) (hinside : i < world.sites.length)
    (hplace : ∀ place, sources.locate template = .ok place →
      ∀ dir ∈ dirs, dir.isWithin place = false)
    {j : Nat} {other : TemplateId}
    (hkept : ∀ asked ∈ (on (Engine.resolve j other) world).2.kept,
      asked.cacheKey = template.cacheKey → asked = template) :
    ∃ cause, (on (Engine.resolve j other) world).2.Refuses i template cause := by
  cases hanswer : (on (Engine.resolve j other) world).1 with
  | error cause =>
      obtain ⟨compiles, hrun⟩ := on_resolve_of_error hanswer
      rw [hrun]
      exact h.spared (.of_eq rfl fun _ => rfl)
  | ok artifact =>
      have hj : j < world.sites.length := by
        rcases world.site_cases j with ⟨hj, -⟩ | ⟨hdefault, hset⟩
        · exact hj
        · rw [on_resolve_default other hdefault hset] at hanswer
          cases hanswer
      have hsources : (world.site i).sources = sources := (huniform _ (site_mem hinside)).1
      have hdirs {k : Nat} (hk : k < world.sites.length) {store : Store}
          (hstore : store ∈ (world.site k).cache.store) : store.dir ∈ dirs :=
        (huniform _ (site_mem hk)).2.2 store hstore
      have hfiles := world.file?_resolve j other
      refine h.spared ⟨sources_resolve world j other i, ns_resolve world j other i,
        store_resolve world j other i, ?_, ?_, ?_⟩
      · intro entry hentry
        rw [memory_resolve] at hentry
        · exact hentry
        · rintro rfl rfl
          cases h.error.symm.trans hanswer
      · rw [sourceAt, sourceAt, sources_resolve]
        refine Sources.alike_of_file? fun place hlocate => ?_
        rcases hfiles place with hsame | ⟨store, hstore, rfl, -⟩
        · exact hsame
        · rw [hsources] at hlocate
          have houtside := hplace _ hlocate store.dir (hdirs hj hstore)
          cases (store.place_isWithin other).symm.trans houtside
      · intro store hstore file hfile
        rcases hfiles (store.place template) with hsame | ⟨kept, hkeptStore, heq, code, hown⟩
        · exact hsame.symm.trans hfile
        · -- an entry for the template was stored: the engine has compiled it, or another
          have hmem := mem_kept_resolve hanswer
          obtain rfl := hkept other hmem (Store.cacheKey_eq_of_place_eq heq.symm)
          rw [huniform.own_eq hinside hj, h.own] at hown
          cases hown

/-- Along a trail of engines of the same sources and namespace a template that cannot be resolved
    still cannot. -/
theorem Refuses.trail [Substrate] (h : world.Refuses i template fault)
    (huniform : world.Uniform dirs sources ns) (hinside : i < world.sites.length)
    (hplace : ∀ place, sources.locate template = .ok place →
      ∀ dir ∈ dirs, dir.isWithin place = false)
    {refused : Bool} (htrail : Trail world refused next)
    (hkept : ∀ asked ∈ next.kept, asked.cacheKey = template.cacheKey → asked = template) :
    (∃ cause, next.Refuses i template cause) ∧ next.Uniform dirs sources ns
      ∧ i < next.sites.length := by
  induction htrail with
  | refl => exact ⟨⟨fault, h⟩, huniform, hinside⟩
  | arrange components views streams _ ih =>
      obtain ⟨⟨cause, hrefuses⟩, hmiddle, hthere⟩ := ih hkept
      exact ⟨hrefuses.spared (.of_eq rfl fun _ => rfl), hmiddle, hthere⟩
  | @hold middle j other code script hscript _ ih =>
      have hmore : middle.kept ⊆ (middle.setSite j { middle.site j with
          held := (middle.site j).held.put other (code, script) }).kept :=
        kept_subset_setSite (List.Subset.refl _)
      obtain ⟨⟨cause, hrefuses⟩, hmiddle, hthere⟩ :=
        ih fun asked hasked => hkept asked (hmore hasked)
      refine ⟨hrefuses.spared ?_, hmiddle.setSite rfl rfl rfl, ?_⟩
      · have hsources : ((middle.setSite j { middle.site j with
            held := (middle.site j).held.put other (code, script) }).site i).sources
            = (middle.site i).sources := site_setSite_congr Site.sources (by rfl) i
        have hcache : ((middle.setSite j { middle.site j with
            held := (middle.site j).held.put other (code, script) }).site i).cache
            = (middle.site i).cache := site_setSite_congr Site.cache (by rfl) i
        refine ⟨hsources, site_setSite_congr Site.ns (by rfl) i, congrArg Cache.store hcache,
          fun entry hentry => ?_, ?_, fun _ _ _ hfile => hfile⟩
        · rw [hcache] at hentry
          exact hentry
        · rw [sourceAt, sourceAt, hsources]
          exact .same (.refl _)
      · rw [World.setSite, List.length_set]
        exact hthere
  | @resolve middle j other _ ih =>
      have hmore := middle.kept_subset_resolve j other
      obtain ⟨⟨cause, hrefuses⟩, hmiddle, hthere⟩ :=
        ih fun asked hasked => hkept asked (hmore hasked)
      refine ⟨hrefuses.resolve hmiddle hthere hplace hkept, hmiddle.resolve j other, ?_⟩
      rw [length_sites_resolve]
      exact hthere

/-! ## All that happens without a change to the source -/

/-- What may happen in a world of engines of the same sources and namespace: steps and purges that
    leave the source of a template as it is, but for a later time, and by which no other template of
    its digest is resolved. -/
inductive Meanwhile [Substrate] (dirs : List Location) (sources : Sources) (ns : String)
    (template : TemplateId) (start : World) : World → Prop
  | refl : Meanwhile dirs sources ns template start start
  | step {world next : World} (hstep : world.Step dirs next)
      (huniform : next.Uniform dirs sources ns)
      (hsource : Sources.Same (sources.sourceFile world.host.files template)
        (sources.sourceFile next.host.files template))
      (hkept : ∀ asked ∈ next.kept, asked.cacheKey = template.cacheKey → asked = template)
      (h : Meanwhile dirs sources ns template start world) :
      Meanwhile dirs sources ns template start next
  | purge {world : World} (j : Nat)
      (hsource : Sources.Same (sources.sourceFile world.host.files template)
        (sources.sourceFile (on (purge j) world).2.host.files template))
      (h : Meanwhile dirs sources ns template start world) :
      Meanwhile dirs sources ns template start (on (purge j) world).2

/-- Whatever a step does short of a change to the source, a template that cannot be resolved still
    cannot. -/
theorem Refuses.step [Substrate] (h : world.Refuses i template fault)
    (huniform : world.Uniform dirs sources ns) (hinside : i < world.sites.length)
    (hplace : ∀ place, sources.locate template = .ok place →
      ∀ dir ∈ dirs, dir.isWithin place = false)
    (hstep : world.Step dirs next)
    (hsource : Sources.Same (sources.sourceFile world.host.files template)
      (sources.sourceFile next.host.files template))
    (hkept : ∀ asked ∈ next.kept, asked.cacheKey = template.cacheKey → asked = template) :
    (∃ cause, next.Refuses i template cause) ∧ i < next.sites.length := by
  have htrail {refused : Bool} (htrail : Trail world refused next) :
      (∃ cause, next.Refuses i template cause) ∧ i < next.sites.length := by
    obtain ⟨hrefuses, -, hthere⟩ := h.trail huniform hinside hplace htrail hkept
    exact ⟨hrefuses, hthere⟩
  cases hstep with
  | @edit files htimes hentries =>
      obtain ⟨hsources, -, hdirs⟩ := huniform _ (site_mem hinside)
      refine ⟨h.spared ⟨rfl, rfl, rfl, fun _ hentry => hentry, ?_, ?_⟩, hinside⟩
      · rw [← hsources] at hsource
        exact .same hsource
      · intro store hstore file hfile
        exact hentries _ _ ⟨store.dir, hdirs store hstore, template, rfl⟩ hfile
  | tick => exact ⟨h.spared (.of_eq rfl fun _ => rfl), hinside⟩
  | turn switch => exact ⟨h.spared (.of_eq rfl fun _ => rfl), hinside⟩
  | arrange components views streams => exact ⟨h.spared (.of_eq rfl fun _ => rfl), hinside⟩
  | @construct setup hcache =>
      exact ⟨h.spared (.of_eq (site_openSite hinside setup) (file?_openSite setup world)),
        lt_length_openSite hinside setup⟩
  | resolve j other => exact htrail (Follows.resolve j other world)
  | render handle => exact htrail (render_follows handle world)
  | part hpart => exact htrail hpart

theorem Refuses.purge (h : world.Refuses i template fault)
    (huniform : world.Uniform dirs sources ns) (hinside : i < world.sites.length) (j : Nat)
    (hsource : Sources.Same (sources.sourceFile world.host.files template)
      (sources.sourceFile (on (purge j) world).2.host.files template)) :
    (∃ cause, (on (Engine.purge j) world).2.Refuses i template cause)
      ∧ (on (Engine.purge j) world).2.Uniform dirs sources ns
      ∧ i < (on (Engine.purge j) world).2.sites.length := by
  obtain ⟨hsources, -, -⟩ := huniform _ (site_mem hinside)
  obtain ⟨host, memory, -, -, hfiles, hrun⟩ := on_purge j world
  have hsite : ∃ memory, (∀ entry, memory.get? template = some entry →
        (world.site i).cache.memory.get? template = some entry)
      ∧ (on (Engine.purge j) world).2.site i
        = { world.site i with cache := ⟨memory, (world.site i).cache.store⟩ } := by
    by_cases hj : i = j
    · subst hj
      exact ⟨.empty, fun _ hentry => (nomatch hentry), world.site_purge i⟩
    · exact ⟨(world.site i).cache.memory, fun _ hentry => hentry, site_purge_of_ne hj world⟩
  obtain ⟨emptied, hmemory, hsite⟩ := hsite
  refine ⟨h.spared ⟨?_, ?_, ?_, ?_, ?_, ?_⟩, ?_, ?_⟩
  · rw [hsite]
  · rw [hsite]
  · rw [hsite]
  · rw [hsite]
    exact hmemory
  · rw [sourceAt, sourceAt, hsite, hsources]
    exact .same hsource
  · rw [hrun]
    exact fun store hstore file hfile => hfiles _ _ hfile
  · rw [hrun]
    exact huniform.setSite rfl rfl rfl
  · rw [length_sites_purge]
    exact hinside

/-- Whatever happens without a change to the source, a template that cannot be resolved still
    cannot. -/
theorem Meanwhile.refuses [Substrate] (h : Meanwhile dirs sources ns template world next)
    (hrefuses : world.Refuses i template fault) (huniform : world.Uniform dirs sources ns)
    (hinside : i < world.sites.length)
    (hplace : ∀ place, sources.locate template = .ok place →
      ∀ dir ∈ dirs, dir.isWithin place = false) :
    next.Refuses i template fault ∧ next.Uniform dirs sources ns ∧ i < next.sites.length := by
  induction h with
  | refl => exact ⟨hrefuses, huniform, hinside⟩
  | step hstep hnext hsource hkept _ ih =>
      obtain ⟨hmiddle, hsame, hthere⟩ := ih
      obtain ⟨⟨cause, hlast⟩, hlength⟩ := hmiddle.step hsame hthere hplace hstep hsource hkept
      exact ⟨hlast.of_same hmiddle hsame hthere hnext hlength hsource, hnext, hlength⟩
  | purge j hsource _ ih =>
      obtain ⟨hmiddle, hsame, hthere⟩ := ih
      obtain ⟨⟨cause, hlast⟩, hnext, hlength⟩ := hmiddle.purge hsame hthere j hsource
      exact ⟨hlast.of_same hmiddle hsame hthere hnext hlength hsource, hnext, hlength⟩

/-! ## What is never answered -/

/-- Whether a site has an artifact for a template, in memory or in its store, stale or not. -/
def Has (world : World) (i : Nat) (template : TemplateId) (artifact : Artifact) : Prop :=
  (∃ entry, (world.site i).cache.memory.get? template = some entry ∧ entry.artifact = artifact)
    ∨ ∃ store ∈ (world.site i).cache.store, ∃ found stamp,
      store.find world.host.files template = .ok (some found) ∧ found.artifact stamp = artifact

/-- In custody, where a template has a source and cannot be resolved, all that the site has for it
    was stored before the source changed. -/
theorem Refuses.not_le_of_has (h : world.Refuses i template fault)
    (htended : world.Tended dirs kept) {file : File} (hfile : world.sourceAt i template = .ok file)
    {artifact : Artifact} (hhas : world.Has i template artifact) :
    ¬ file.changed.le artifact.compiledAt = true := by
  obtain ⟨-, hstale⟩ := h.stale file hfile
  intro hfresh
  rcases hhas with ⟨entry, hentry, rfl⟩ | ⟨store, hstore, found, stamp, hfound, rfl⟩
  · have htime := ((htended.cache i).memory _ (Table.mem_of_get? hentry)).time
    exact hstale (.inl ⟨entry, hentry, by rw [htime]; exact hfresh⟩)
  · exact hstale (.inr ⟨store, hstore, found, hfound, hfresh⟩)

/-- In custody an answer was stored no earlier than the source has changed. -/
theorem Tended.le_compiledAt (h : world.Tended dirs kept) {file : File}
    (hfile : world.sourceAt i template = .ok file) {artifact : Artifact}
    (hok : (on (Engine.resolve i template) world).1 = .ok artifact) :
    file.changed.le artifact.compiledAt = true := by
  obtain ⟨result, hresult, hrun⟩ := Engine.on_resolve i template world
  rw [hrun] at hok
  have hsame {other : File}
      (hother : (world.site i).sources.sourceFile world.host.files template = .ok other) :
      other = file := Except.ok.inj (hother.symm.trans hfile)
  cases hresult with
  | @fresh other entry hother hentry hfresh =>
      obtain rfl := hsame hother
      obtain rfl := Except.ok.inj hok
      rw [← ((h.cache i).memory _ (Table.mem_of_get? hentry)).time]
      exact hfresh
  | stored hother hstale hstore hfind hfresh =>
      obtain rfl := hsame hother
      obtain rfl := Except.ok.inj hok
      exact hfresh
  | compiled hother hstale htext hcompile htime =>
      obtain rfl := hsame hother
      obtain rfl := Except.ok.inj hok
      obtain ⟨place, -, hplace⟩ := Sources.sourceFile_eq_ok_iff.mp hother
      rw [htime]
      exact (h.host.clock.le_largest (h.host.times place _ hplace)).2
  | _ => cases hok

/-- Where a template could not be resolved, what the site had for it is never answered as long as
    the source does not change. -/
theorem Refuses.ne_of_has (h : world.Refuses i template fault) (htended : world.Tended dirs kept)
    {others : List Location} {later : World} (hlater : later.Tended others more)
    (hsource : Sources.Same (world.sourceAt i template) (later.sourceAt i template))
    {stale : Artifact} (hhas : world.Has i template stale) :
    (on (Engine.resolve i template) later).1 ≠ .ok stale := by
  intro hanswer
  generalize hold : world.sourceAt i template = old at hsource
  generalize hnew : later.sourceAt i template = new at hsource
  cases hsource with
  | touched hle =>
      have hfresh := hlater.le_compiledAt hnew hanswer
      exact h.not_le_of_has htended hold hhas (Binary64.le_trans hle hfresh)
  | refl =>
      cases old with
      | ok file => exact h.not_le_of_has htended hold hhas (hlater.le_compiledAt hnew hanswer)
      | error missing =>
          rw [on_resolve_eq, Cache.resolve_of_missing hnew] at hanswer
          cases hanswer

end World

/-! ## Resolves that fail -/

/-- **Failure**: a resolve fails with a fault of the source exactly if the source is missing or does
    not compile and the site has nothing fresh; then the world is as before but for the count of
    compilations.  It fails in the same way, and changes as little, after all that engines of the
    same sources and namespace do without a change to the source; and after anything else without
    one, what the site had for the template is not what is answered. -/
theorem resolve_failed [Substrate] (world : World) (i : Nat) (template : TemplateId)
    (fault : Fault) :
    (world.Refuses i template fault
      ↔ (on (resolve i template) world).1 = .error fault ∧ fault.isOfSource = true)
    ∧ ((on (resolve i template) world).1 = .error fault →
      ∃ compiles, (on (resolve i template) world).2 = world.counted compiles)
    ∧ (world.Refuses i template fault →
      (∀ dirs sources ns later, i < world.sites.length → world.Uniform dirs sources ns →
        (∀ place, sources.locate template = .ok place →
          ∀ dir ∈ dirs, dir.isWithin place = false) →
        World.Meanwhile dirs sources ns template world later →
        ∃ compiles, on (resolve i template) later = (.error fault, later.counted compiles))
      ∧ ∀ dirs kept others more later stale, World.Reached dirs kept world →
        World.Reached others more later →
        Sources.Same (world.sourceAt i template) (later.sourceAt i template) →
        world.Has i template stale → (on (resolve i template) later).1 ≠ .ok stale) := by
  refine ⟨World.refuses_iff, fun herror => ?_, fun hrefuses => ⟨?_, ?_⟩⟩
  · obtain ⟨compiles, hrun⟩ := World.on_resolve_of_error herror
    exact ⟨compiles, congrArg Prod.snd hrun⟩
  · intro dirs sources ns later hinside huniform hplace hmeanwhile
    obtain ⟨hlater, -, -⟩ := hmeanwhile.refuses hrefuses huniform hinside hplace
    exact World.on_resolve_of_error hlater.error
  · intro dirs kept others more later stale hreached hlater hsource hhas
    exact hrefuses.ne_of_has hreached.tended hlater.tended hsource hhas

end Theory

section Witness

attribute [local instance] Native.usual FileSystem.plain

/-- An engine that has resolved a source, which then was written anew with a tag that is never
    closed. -/
def World.broken : World :=
  let resolved := (on (resolve 0 lone) (on (openSite Setup.small) (World.single "new")).2).2
  resolved.withFiles (resolved.host.files.put ["site", "a.html"]
    (.file ⟨encodeText "<mky:if cond='x'>", .ofInt 1⟩))

/-- The fault of the tag that is never closed. -/
def unclosed : Fault :=
  .uncompilable lone ⟨.unclosed, "<mky:if cond='x'>".toList, ⟨1, 1⟩⟩

/-- A source that no longer compiles has an older artifact in memory; resolving it fails, leaves
    the artifact there, fails again at a later time, and never answers it. -/
theorem resolve_failed_broken : ∃ kept stale, World.Reached [["cache"]] kept World.broken
    ∧ World.broken.Has 0 lone stale
    ∧ (on (resolve 0 lone) World.broken).1 = .error unclosed
    ∧ (∃ compiles, (on (resolve 0 lone) World.broken).2 = World.broken.counted compiles)
    ∧ (∃ compiles, on (resolve 0 lone) (World.broken.atTime (.ofInt 2))
      = (.error unclosed, (World.broken.atTime (.ofInt 2)).counted compiles))
    ∧ (on (resolve 0 lone) (World.broken.atTime (.ofInt 2))).1 ≠ .ok stale := by
  have hcache : ∀ path ∈ Setup.small.cache, Store.folder path ∈ [["cache"]] := by decide
  have hone : (Binary64.ofInt 1).IsMoment := ⟨by decide +kernel, by decide +kernel⟩
  have htwo : (Binary64.ofInt 2).IsMoment := ⟨by decide +kernel, by decide +kernel⟩
  have hopened := (World.Reached.single "new").step (.construct hcache)
  obtain ⟨stale, hstale, -⟩ := exists_of_toOption_map
    (by decide +kernel : (on (resolve 0 lone)
      (on (openSite Setup.small) (World.single "new")).2).1.toOption.map Artifact.compiledAt
        = some (.zero false))
  have hentry := (hopened.tended.remembers hstale).1
  have hresolved := hopened.step (.resolve 0 lone)
  -- the source is no entry, so others may write it
  have hbroken := hresolved.step (@World.Step.edit _ _ _ _ World.broken.host.files (by
      intro place file hfile
      rw [show World.broken.host.files.file? place = _ from
        FileTree.file?_put_file _ (by decide) _ place] at hfile
      split at hfile
      · cases hfile
        exact hone
      · exact hresolved.tended.host.times place file hfile) (by
      rintro place file ⟨dir, hdir, template, rfl⟩ hfile
      rw [show World.broken.host.files.file? _ = _ from
        FileTree.file?_put_file _ (by decide) _ _, if_neg] at hfile
      · exact hfile
      · intro hplace
        have hlength := congrArg List.length hplace
        rw [Store.length_place, List.mem_singleton.mp hdir] at hlength
        cases hlength))
  have hhas : World.broken.Has 0 lone stale := .inl ⟨_, hentry, rfl⟩
  have hfails : (on (resolve 0 lone) World.broken).1 = .error unclosed := by
    have hfault : faultOf (on (resolve 0 lone) World.broken).1 = some unclosed := by
      decide +kernel
    cases hanswer : (on (resolve 0 lone) World.broken).1 with
    | ok artifact =>
        rw [hanswer] at hfault
        cases hfault
    | error fault =>
        rw [hanswer] at hfault
        rw [Option.some.inj hfault]
  obtain ⟨hiff, hunchanged, hlater⟩ := resolve_failed World.broken 0 lone unclosed
  obtain ⟨hagain, hnever⟩ := hlater (hiff.mpr ⟨hfails, rfl⟩)
  have huniform : World.broken.Uniform [["cache"]] Setup.small.sources Setup.small.ns := by
    have hnone : (World.single "new").Uniform [["cache"]] Setup.small.sources Setup.small.ns :=
      fun site hsite => nomatch hsite
    exact (hnone.construct hcache).resolve 0 lone
  have hkept : ∀ asked ∈ World.broken.kept, asked.cacheKey = lone.cacheKey → asked = lone := by
    intro asked hasked _
    exact List.mem_singleton.mp (World.kept_resolve_subset _ 0 lone hasked)
  have hoff : ∀ place, Setup.small.sources.locate lone = .ok place →
      ∀ dir ∈ [["cache"]], Location.isWithin dir place = false := by
    intro place hlocate dir hdir
    rw [List.mem_singleton.mp hdir]
    exact Sources.Apart.locate Setup.small_apart hlocate
  have hmeanwhile : World.Meanwhile [["cache"]] Setup.small.sources Setup.small.ns lone
      World.broken (World.broken.atTime (.ofInt 2)) :=
    .step (.tick htwo) huniform (.refl _) hkept .refl
  exact ⟨_, stale, hbroken, hhas, hfails, hunchanged hfails,
    hagain _ _ _ _ (by decide +kernel) huniform hoff hmeanwhile,
    hnever _ _ _ _ _ _ hbroken (hbroken.step (.tick htwo)) (.refl _) hhas⟩

end Witness

end Stencil
