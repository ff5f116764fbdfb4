import Stencil.Proofs.Cache.Sharing

/-! # Custody — cache folders in which only engines write

    Engines of any configurations keep their entries in some folders.  Others may
    take entries away but write none; sources, clocks, switches and fragments
    change in any way, at any time and in any direction.  In every world that comes
    about so, the file at the place of an entry is one that was written for a
    template of its digest, so a store always finds an entry or none; and every
    memory says when its artifacts were stored and for which templates.

    Headline: `World.Reached.tended`. -/

namespace Stencil

open Engine

/-! ## Worlds -/

/-- A world at another time. -/
def World.atTime (world : World) (clock : Binary64) : World :=
  { world with host := { world.host with clock } }

/-- Whether an entry lies at a place, in one of some folders. -/
def IsEntryPlace (dirs : List Location) (place : Location) : Prop :=
  ∃ dir ∈ dirs, ∃ template, place = (Store.upon dir).place template

/-- What may happen in a world apart from purges: files change other than by writing entries, the
    clock, the switch and the fragments are set, an engine is made, a template is resolved or a
    fragment is rendered, to the end or in part. -/
inductive World.Step [Substrate] [FileSystem] (dirs : List Location) (world : World) : World → Prop
  | edit {files : FileTree} (htimes : ∀ place file, files.file? place = some file →
        file.changed.IsMoment)
      (hentries : ∀ place file, IsEntryPlace dirs place → files.file? place = some file →
        world.host.files.file? place = some file) : Step dirs world (world.withFiles files)
  | tick {clock : Binary64} (hclock : clock.IsMoment) :
      Step dirs world (world.atTime clock)
  | turn (switch : Option String) : Step dirs world { world with switch }
  | arrange (components : List Component) (views : List View) (streams : List (List Value)) :
      Step dirs world { world with components, views, streams }
  | construct {setup : Setup} (hcache : ∀ path ∈ setup.cache, Store.folder path ∈ dirs) :
      Step dirs world (on (openSite setup) world).2
  | resolve (site : Nat) (template : TemplateId) :
      Step dirs world (on (resolve site template) world).2
  | render (handle : Handle) : Step dirs world (on (render handle) world).2
  | part {refused : Bool} {next : World} (htrail : Trail world refused next) :
      Step dirs world next

/-- The worlds that steps and purges lead to where there were no engines and no entries, with the
    templates that were ever in a memory. -/
inductive World.Reached [Substrate] [FileSystem] (dirs : List Location) :
    List TemplateId → World → Prop
  | start {world : World} (hsites : world.sites = [])
      (hentries : ∀ place, IsEntryPlace dirs place → world.host.files.file? place = none)
      (htimes : ∀ place file, world.host.files.file? place = some file → file.changed.IsMoment)
      (hclock : world.host.clock.IsMoment) : Reached dirs [] world
  | step {kept : List TemplateId} {world next : World} (hstep : world.Step dirs next)
      (h : Reached dirs kept world) : Reached dirs (next.kept ++ kept) next
  | purge {kept : List TemplateId} {world : World} (site : Nat) (h : Reached dirs kept world) :
      Reached dirs kept (on (purge site) world).2

/-! ## The invariant -/

/-- Whether the file at the place of every entry is an entry, written for one of some templates. -/
structure Host.Tended (host : Host) (dirs : List Location) (kept : List TemplateId) : Prop where
  clock : host.clock.IsMoment
  times : ∀ place file, host.files.file? place = some file → file.changed.IsMoment
  entries : ∀ dir ∈ dirs, ∀ template file,
    host.files.file? ((Store.upon dir).place template) = some file →
    ∃ written ∈ kept, written.cacheKey = template.cacheKey ∧ ∃ code storedAt now,
      storedAt.IsCanonical ∧ file.bytes = Entry.bytes written code storedAt now

/-- Whether the entry of a template in a memory says when its artifact was stored, and the artifact
    is for the template or was read from an entry of its digest. -/
structure Entry.Tended (entry : Entry) (kept : List TemplateId) (template : TemplateId) :
    Prop where
  time : entry.storedAt = entry.artifact.compiledAt
  template : entry.artifact.template = template
    ∨ ∃ written ∈ kept, written.cacheKey = template.cacheKey
      ∧ entry.artifact.template = written.reread

/-- Whether a cache has a store in one of some folders, if any, and a memory of such entries. -/
structure Cache.Tended (cache : Cache) (dirs : List Location) (kept : List TemplateId) : Prop where
  store : ∀ store ∈ cache.store, store.dir ∈ dirs
  memory : ∀ entry ∈ cache.memory.entries, entry.2.Tended kept entry.1

/-- Whether the files and the caches of a world are in custody. -/
structure World.Tended (world : World) (dirs : List Location) (kept : List TemplateId) : Prop where
  host : world.host.Tended dirs kept
  sites : ∀ site ∈ world.sites, site.cache.Tended dirs kept
  kept : world.kept ⊆ kept

variable {dirs : List Location} {kept more : List TemplateId}

/-! ### More templates -/

theorem Host.Tended.mono {host : Host} (h : host.Tended dirs kept) (hkept : kept ⊆ more) :
    host.Tended dirs more where
  clock := h.clock
  times := h.times
  entries dir hdir template file hfile := by
    obtain ⟨written, hwritten, hentry⟩ := h.entries dir hdir template file hfile
    exact ⟨written, hkept hwritten, hentry⟩

theorem Entry.Tended.mono {entry : Entry} {template : TemplateId} (h : entry.Tended kept template)
    (hkept : kept ⊆ more) : entry.Tended more template where
  time := h.time
  template := h.template.imp_right fun ⟨written, hwritten, hread⟩ =>
    ⟨written, hkept hwritten, hread⟩

theorem Cache.Tended.mono {cache : Cache} (h : cache.Tended dirs kept) (hkept : kept ⊆ more) :
    cache.Tended dirs more where
  store := h.store
  memory entry hentry := (h.memory entry hentry).mono hkept

theorem World.Tended.mono {world : World} (h : world.Tended dirs kept) (hkept : kept ⊆ more) :
    world.Tended dirs more where
  host := h.host.mono hkept
  sites site hsite := (h.sites site hsite).mono hkept
  kept := List.Subset.trans h.kept hkept

/-! ## Files in custody -/

namespace Host.Tended

variable {host : Host}

/-- Where entries are as they were or vanish, they stay in custody. -/
theorem of_files (h : host.Tended dirs kept) {next : Host} (hclock : next.clock.IsMoment)
    (htimes : ∀ place file, next.files.file? place = some file → file.changed.IsMoment)
    (hentries : ∀ place file, IsEntryPlace dirs place → next.files.file? place = some file →
      host.files.file? place = some file) : next.Tended dirs kept where
  clock := hclock
  times := htimes
  entries dir hdir template file hfile :=
    h.entries dir hdir template file (hentries _ _ ⟨dir, hdir, template, rfl⟩ hfile)

/-- Where files only vanish, the entries stay in custody. -/
theorem of_subset (h : host.Tended dirs kept) {next : Host} (hclock : next.clock = host.clock)
    (hfiles : ∀ place file, next.files.file? place = some file →
      host.files.file? place = some file) : next.Tended dirs kept :=
  h.of_files (hclock ▸ h.clock) (fun place file hfile => h.times place file (hfiles _ _ hfile))
    fun place file _ => hfiles place file

/-- A store in one of the folders finds nothing, or what was written for a template of the same
    digest. -/
theorem find (h : host.Tended dirs kept) {store : Store} (hdir : store.dir ∈ dirs)
    (template : TemplateId) :
    store.find host.files template = .ok none
      ∨ ∃ written ∈ kept, ∃ code storedAt, written.cacheKey = template.cacheKey
        ∧ store.find host.files template = .ok (some ⟨written.reread, .text code, storedAt⟩) := by
  cases henabled : store.enabled with
  | false => exact .inl (Store.find_of_disabled henabled host.files template)
  | true =>
      cases hfile : host.files.file? (store.place template) with
      | none => exact .inl (Store.find_of_none hfile)
      | some file =>
          obtain ⟨written, hwritten, hkey, code, storedAt, now, hcanonical, hbytes⟩ :=
            h.entries store.dir hdir template file hfile
          refine .inr ⟨written, hwritten, code, storedAt, hkey, ?_⟩
          refine @Store.find_of_bytes store host.files template written code storedAt now
            file.changed henabled hcanonical ?_
          rw [hfile, ← hbytes]

/-- A store in one of the folders that writes an entry leaves the entries in custody. -/
theorem keep (h : host.Tended dirs kept) {cache : Cache} {template : TemplateId}
    (htemplate : template ∈ kept) {code : String} {storedAt : Binary64}
    (hcanonical : storedAt.IsCanonical) {compiles stamps : Nat} :
    Host.Tended ⟨cache.filesWith host.files template code storedAt host.clock, host.clock, compiles,
      stamps⟩ dirs kept := by
  rw [Cache.filesWith]
  cases cache.store with
  | none => exact h.of_subset rfl fun _ _ hfile => hfile
  | some store =>
      have hkeep := store.file?_keep host.files template code storedAt host.clock
      refine ⟨h.clock, ?_, ?_⟩
      · intro place file hfile
        rcases hkeep place with hsame | ⟨-, hwritten⟩
        · exact h.times place file (hsame.symm.trans hfile)
        · cases hwritten.symm.trans hfile
          exact h.clock
      · intro dir hdir asked file hfile
        rcases hkeep ((Store.upon dir).place asked) with hsame | ⟨hplace, hwritten⟩
        · exact h.entries dir hdir asked file (hsame.symm.trans hfile)
        · cases hwritten.symm.trans hfile
          have hkey := Store.cacheKey_eq_of_place_eq hplace
          exact ⟨template, htemplate, hkey.symm, code, storedAt, host.clock, hcanonical, rfl⟩

end Host.Tended

/-! ## Resolves -/

theorem Cache.Tended.remember {cache : Cache} (h : cache.Tended dirs kept) (host : Host)
    {template : TemplateId} {artifact : Artifact}
    (hartifact : Entry.Tended ⟨artifact, artifact.compiledAt⟩ kept template) :
    (cache.remember host template artifact).1.Tended dirs kept where
  store := h.store
  memory entry hentry := by
    rcases Table.mem_put hentry with rfl | hold
    · exact hartifact
    · exact h.memory entry hold

/-- A resolve keeps the files and the memory in custody. -/
theorem Cache.Resolution.tended [FileSystem] {sources : Sources} {ns : List Char}
    {template : TemplateId}
    {cache : Cache} {host : Host} {result : Cache.Resolved}
    (h : Cache.Resolution sources ns template cache host result) (hhost : host.Tended dirs kept)
    (hcache : cache.Tended dirs kept) (hmore : kept ⊆ more)
    (hasked : ∀ artifact, result.1 = .ok artifact → template ∈ more) :
    result.2.2.Tended dirs more ∧ result.2.1.Tended dirs more := by
  have hhost' := hhost.mono hmore
  have hcache' := hcache.mono hmore
  cases h with
  | missing => exact ⟨hhost', hcache'⟩
  | fresh => exact ⟨hhost', hcache'⟩
  | troubled => exact ⟨hhost', hcache'⟩
  | unreadable => exact ⟨hhost', hcache'⟩
  | refused => exact ⟨hhost'.of_subset rfl fun _ _ hfile => hfile, hcache'⟩
  | stored hfile hstale hsome hfind hfresh =>
      refine ⟨hhost'.of_subset rfl fun _ _ hfile => hfile, hcache'.remember host ⟨rfl, ?_⟩⟩
      rcases hhost.find (hcache.store _ hsome) template with hnone | ⟨written, hwritten, code,
        storedAt, hkey, hfound⟩
      · cases hfind.symm.trans hnone
      · cases hfind.symm.trans hfound
        exact .inr ⟨written, hmore hwritten, hkey, rfl⟩
  | @compiled file _ _ _ hfile hstale htext hcompile htime =>
      obtain ⟨place, -, hplace⟩ := Sources.sourceFile_eq_ok_iff.mp hfile
      have hcanonical : (host.clock.largest file.changed).IsCanonical :=
        hhost.clock.canonical.largest (hhost.times place file hplace).canonical
      subst htime
      exact ⟨hhost'.keep (hasked _ rfl) hcanonical, hcache'.remember host ⟨rfl, .inl rfl⟩⟩

namespace World.Tended

variable {world : World}

/-- Also where there is no site the cache is in custody. -/
theorem cache (h : world.Tended dirs kept) (i : Nat) : (world.site i).cache.Tended dirs kept := by
  rcases world.site_cases i with ⟨-, hmem⟩ | ⟨hdefault, -⟩
  · exact h.sites _ hmem
  · rw [hdefault]
    exact ⟨fun _ hstore => (nomatch hstore), fun _ hentry => (nomatch hentry)⟩

/-- A world of which only the host differs is in custody if the host is. -/
theorem with_host (h : world.Tended dirs kept) {host : Host} (hhost : host.Tended dirs kept) :
    World.Tended { world with host } dirs kept where
  host := hhost
  sites := h.sites
  kept := h.kept

/-- A world with one more site is in custody if the site is and has nothing in memory. -/
theorem add (h : world.Tended dirs kept) {site : Site} (hstore : ∀ store ∈ site.cache.store,
      store.dir ∈ dirs) (hmemory : site.cache.memory = .empty) :
    World.Tended { world with sites := world.sites ++ [site] } dirs kept where
  host := h.host
  sites other hother := by
    rcases List.mem_append.mp hother with hold | hnew
    · exact h.sites other hold
    · rw [List.mem_singleton.mp hnew]
      refine ⟨hstore, fun entry hentry => ?_⟩
      rw [hmemory] at hentry
      cases hentry
  kept template htemplate := by
    obtain ⟨other, hother, hkey⟩ := mem_kept.mp htemplate
    rcases List.mem_append.mp hother with hold | hnew
    · exact h.kept (mem_kept.mpr ⟨other, hold, hkey⟩)
    · rw [List.mem_singleton.mp hnew, hmemory] at hkey
      cases hkey

theorem construct [FileSystem] (h : world.Tended dirs kept) {setup : Setup}
    (hcache : ∀ path ∈ setup.cache, Store.folder path ∈ dirs) :
    (on (openSite setup) world).2.Tended dirs kept := by
  obtain ⟨files, hfiles, hrun⟩ := on_openSite setup world
  have hmade : (world.withFiles files).Tended dirs kept :=
    h.with_host (h.host.of_subset rfl fun place file hfile => (hfiles place).symm.trans hfile)
  rcases hrun with hrun | ⟨store, hstore, -, hrun⟩
  · rw [hrun]
    exact hmade
  · rw [hrun]
    refine hmade.add (fun made hmem => ?_) rfl
    obtain ⟨path, hpath, hdir⟩ := hstore made hmem
    exact hdir ▸ hcache path hpath

theorem purge (h : world.Tended dirs kept) (i : Nat) :
    (on (purge i) world).2.Tended dirs kept := by
  obtain ⟨host, memory, hclock, hmemory, hfiles, hrun⟩ := on_purge i world
  rw [hrun]
  refine ⟨h.host.of_subset hclock hfiles, World.forall_setSite h.sites fun _ => ?_, ?_⟩
  · refine ⟨(h.cache i).store, fun entry hentry => ?_⟩
    rw [hmemory] at hentry
    cases hentry
  · intro template htemplate
    rcases mem_kept_setSite htemplate with hold | hkey
    · exact h.kept hold
    · rw [hmemory] at hkey
      cases hkey

theorem resolve [FileSystem] (h : world.Tended dirs kept) (i : Nat) (template : TemplateId)
    (hmore : kept ⊆ more) (hnext : (on (resolve i template) world).2.kept ⊆ more) :
    (on (resolve i template) world).2.Tended dirs more := by
  have hsites : ∀ site ∈ world.sites, site.cache.Tended dirs more := fun site hsite =>
    (h.sites site hsite).mono hmore
  rcases world.site_cases i with ⟨hinside, -⟩ | ⟨hdefault, hset⟩
  · obtain ⟨result, hresult, hrun⟩ := on_resolve i template world
    rw [hrun] at hnext ⊢
    have hself : { world.site i with cache := result.2.1 } ∈
        (world.setSite i { world.site i with cache := result.2.1 }).sites :=
      List.mem_set hinside _
    obtain ⟨hhost, hcache⟩ := hresult.tended h.host (h.cache i) hmore fun artifact hok =>
      hnext (mem_kept.mpr ⟨_, hself, hresult.mem_keys hok⟩)
    exact ⟨hhost, World.forall_setSite hsites fun _ => hcache, hnext⟩
  · rw [on_resolve_default template hdefault hset] at hnext ⊢
    exact ⟨h.host.mono hmore, hsites, hnext⟩

/-- Along a trail a world stays in custody. -/
theorem trail [Substrate] [FileSystem] (h : world.Tended dirs kept) {refused : Bool} {next : World}
    (htrail : Trail world refused next) : next.Tended dirs (next.kept ++ kept) := by
  induction htrail with
  | refl => exact h.mono (List.subset_append_right _ _)
  | arrange components views streams _ ih => exact ⟨ih.host, ih.sites, ih.kept⟩
  | @hold middle i template code script hscript _ ih =>
      have hmiddle : middle.kept ⊆ (middle.setSite i { middle.site i with
          held := (middle.site i).held.put template (code, script) }).kept :=
        kept_subset_setSite (List.Subset.refl _)
      have hmore := ih.mono (List.append_subset.mpr
        ⟨List.subset_append_of_subset_left kept hmiddle, List.subset_append_right _ _⟩)
      exact ⟨hmore.host, World.forall_setSite hmore.sites fun _ => hmore.cache i,
        List.subset_append_left _ _⟩
  | @resolve middle i template _ ih =>
      have hmiddle := middle.kept_subset_resolve i template
      exact ih.resolve i template (List.append_subset.mpr
        ⟨List.subset_append_of_subset_left kept hmiddle, List.subset_append_right _ _⟩)
        (List.subset_append_left _ _)

/-- A step keeps a world in custody. -/
theorem step [Substrate] [FileSystem] (h : world.Tended dirs kept) {next : World}
    (hstep : world.Step dirs next) :
    next.Tended dirs (next.kept ++ kept) := by
  have hmore := List.subset_append_right next.kept kept
  cases hstep with
  | @edit files htimes hentries =>
      have hhost : Host.Tended { world.host with files } dirs kept :=
        h.host.of_files h.host.clock htimes hentries
      exact (h.with_host hhost).mono hmore
  | @tick clock hclock =>
      have hhost : Host.Tended { world.host with clock } dirs kept :=
        h.host.of_files hclock h.host.times fun _ _ _ hfile => hfile
      exact (h.with_host hhost).mono hmore
  | turn switch =>
      have hturned : World.Tended { world with switch } dirs kept := ⟨h.host, h.sites, h.kept⟩
      exact hturned.mono hmore
  | arrange components views streams =>
      have harranged : World.Tended { world with components, views, streams } dirs kept :=
        ⟨h.host, h.sites, h.kept⟩
      exact harranged.mono hmore
  | construct hcache => exact (h.construct hcache).mono hmore
  | resolve site template => exact h.trail (Follows.resolve site template world)
  | render handle => exact h.trail (render_follows handle world)
  | part htrail => exact h.trail htrail

end World.Tended

/-- **Custody**: in every world that is reached, each entry file was written for a template that was
    in a memory and has its digest, and each memory says when and for what its artifacts were
    stored. -/
theorem World.Reached.tended [Substrate] [FileSystem] {world : World}
    (h : Reached dirs kept world) :
    world.Tended dirs kept := by
  induction h with
  | @start world hsites hentries htimes hclock =>
      refine ⟨⟨hclock, htimes, ?_⟩, ?_, ?_⟩
      · intro dir hdir template file hfile
        cases (hentries _ ⟨dir, hdir, template, rfl⟩).symm.trans hfile
      · intro site hsite
        rw [hsites] at hsite
        cases hsite
      · intro template htemplate
        rw [World.kept, hsites] at htemplate
        cases htemplate
  | step hstep _ ih => exact ih.step hstep
  | purge site _ ih => exact ih.purge site

/-! ## One source -/

/-- What a result that is evaluated comes to. -/
theorem exists_of_toOption_map {ε α β : Type} {x : Except ε α} {f : α → β} {b : β}
    (h : x.toOption.map f = some b) : ∃ a, x = .ok a ∧ f a = b := by
  cases x with
  | error fault => cases h
  | ok a => exact ⟨a, rfl, Option.some.inj h⟩

/-- Where there is one source, no entry has been written. -/
theorem World.Reached.single [Substrate] [FileSystem] (text : String) :
    Reached [["cache"]] [] (World.single text) := by
  have hzero : (Binary64.zero false).IsMoment := ⟨by decide, by decide +kernel⟩
  refine .start rfl ?_ ?_ hzero
  · rintro place ⟨dir, hdir, template, rfl⟩
    rw [List.mem_singleton.mp hdir, World.file?_single, if_neg]
    intro hplace
    have hlength := congrArg List.length hplace
    rw [Store.length_place] at hlength
    cases hlength
  · intro place file hfile
    rw [World.file?_single] at hfile
    split at hfile
    · cases hfile
      exact hzero
    · cases hfile

end Stencil
