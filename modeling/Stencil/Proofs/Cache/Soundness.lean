import Stencil.Proofs.Cache.History

/-! # Soundness — every entry is backed by its source

    Every entry, in any memory or on disk, was compiled from some past version of
    its source; while the present version is not newer than the entry, it has the
    same text.  A resolve keeps this, so a trail does, and so does every step of
    a history.

    Headline: `History.sound`. -/

namespace Stencil

open Engine

section Theory

variable [FileSystem]

/-! ## The invariant -/

namespace Past

/-- Whether an entry is backed by its source: it was stored at a moment that the history has shown,
    and while the present version is not newer, that version compiles to the entry's code. -/
structure Backs (past : Past) (sources : Sources) (ns : List Char) (template : TemplateId)
    (code : Value) (storedAt : Binary64) : Prop where
  canonical : storedAt.IsCanonical
  source : ∃ place last earlier, sources.locate template = .ok place
    ∧ past.versions place = last :: earlier
    ∧ storedAt ∈ past.readings ++ past.times place
    ∧ (last.changed.le storedAt = true → ∃ text out, Sources.textOf last = .ok text
      ∧ Directive.compile ns Directive.standardRules text = .ok out
      ∧ code = .text (String.ofList out))

end Past

/-- Whether the files of a host are as the past says: the files of the cache folder are entries
    that are backed, the others are the latest versions. -/
structure Host.Sound (host : Host) (past : Past) (sources : Sources) (ns : List Char)
    (dir : Location) : Prop where
  clock : host.clock.IsCanonical
  disk : ∀ place file, dir.isWithin place → host.files.file? place = some file →
    ∃ template ∈ past.kept, ∃ code storedAt now, place = (Store.upon dir).place template
      ∧ file.bytes = Entry.bytes template code storedAt now
      ∧ past.Backs sources ns template (.text code) storedAt
  present : ∀ place file, dir.isWithin place = false → host.files.file? place = some file →
    ∃ earlier, past.versions place = file :: earlier
  times : ∀ place, ∀ file ∈ past.versions place, file.changed.IsCanonical

/-- Whether a site is one of the configuration, with a memory of backed entries. -/
structure Site.Sound (site : Site) (past : Past) (setup : Setup) (dir : Location) : Prop where
  sources : site.sources = setup.sources
  ns : site.ns = setup.ns
  store : ∀ store ∈ site.cache.store, store.dir = dir
  memory : ∀ entry ∈ site.cache.memory.entries,
    past.Backs setup.sources setup.ns.toList entry.1 entry.2.artifact.code entry.2.storedAt

/-- Whether a world is as the past says. -/
structure World.Sound (world : World) (past : Past) (setup : Setup) (dir : Location) : Prop where
  host : world.host.Sound past setup.sources setup.ns.toList dir
  sites : ∀ site ∈ world.sites, site.Sound past setup dir
  kept : world.kept ⊆ past.kept

/-! ## The past grows -/

namespace Past

variable {past : Past} {sources : Sources} {ns : List Char} {template : TemplateId} {code : Value}
  {storedAt : Binary64}

/-- More readings back no entry less. -/
theorem Backs.of_readings {next : Past} (h : past.Backs sources ns template code storedAt)
    (hversions : next.versions = past.versions) (hreadings : past.readings ⊆ next.readings) :
    next.Backs sources ns template code storedAt := by
  obtain ⟨hcanonical, place, last, earlier, hlocate, hlast, hmoment, hcode⟩ := h
  refine ⟨hcanonical, place, last, earlier, hlocate, ?_, ?_, hcode⟩
  · rw [hversions]
    exact hlast
  · rw [times] at hmoment ⊢
    rw [hversions]
    rcases List.mem_append.mp hmoment with h | h
    · exact List.mem_append_left _ (hreadings h)
    · exact List.mem_append_right _ h

/-- A version that is admitted leaves every entry backed: with another text it is newer than all of
    them. -/
theorem Backs.wrote {place : Location} {file : File} (hadmits : past.Admits place file)
    (h : past.Backs sources ns template code storedAt) :
    (past.wrote place file).Backs sources ns template code storedAt := by
  obtain ⟨hcanonical, source, last, earlier, hlocate, hlast, hmoment, hcode⟩ := h
  by_cases hplace : source = place
  · subst hplace
    have hversions : (past.wrote source file).versions source = file :: last :: earlier := by
      rw [versions_wrote, hlast]
    obtain ⟨hlater, hchange⟩ := hadmits last (by rw [hlast]; rfl)
    refine ⟨hcanonical, source, file, last :: earlier, hlocate, hversions, ?_, ?_⟩
    · rw [times] at hmoment ⊢
      rw [hversions]
      rw [hlast] at hmoment
      rcases List.mem_append.mp hmoment with h | h
      · exact List.mem_append_left _ h
      · exact List.mem_append_right _ (List.mem_cons_of_mem _ h)
    · intro hfresh
      -- a version with another text would be newer than the entry
      have htext : Sources.textOf last = Sources.textOf file := by
        by_contra hne
        rw [hchange hne storedAt hmoment] at hfresh
        cases hfresh
      rw [← htext]
      exact hcode (Binary64.le_trans hlater hfresh)
  · have hversions : (past.wrote place file).versions source = past.versions source := if_neg hplace
    refine ⟨hcanonical, source, last, earlier, hlocate, ?_, ?_, hcode⟩
    · rw [hversions]
      exact hlast
    · rw [times] at hmoment ⊢
      rw [hversions]
      exact hmoment

end Past

/-! ## The files of a sound host -/

namespace Host.Sound

variable {host : Host} {past : Past} {sources : Sources} {ns : List Char} {dir : Location}

/-- Where files only vanish, the others are still as the past says. -/
theorem of_files (h : host.Sound past sources ns dir) {next : Host}
    (hclock : next.clock.IsCanonical) (hfiles : ∀ place file,
      next.files.file? place = some file → host.files.file? place = some file) :
    next.Sound past sources ns dir where
  clock := hclock
  disk place file hplace hfile := h.disk place file hplace (hfiles place file hfile)
  present place file hplace hfile := h.present place file hplace (hfiles place file hfile)
  times := h.times

/-- A past that has shown more says of the files what it said. -/
theorem of_past (h : host.Sound past sources ns dir) {next : Past}
    (hversions : next.versions = past.versions) (hreadings : past.readings ⊆ next.readings)
    (hkept : past.kept ⊆ next.kept) : host.Sound next sources ns dir where
  clock := h.clock
  disk place file hplace hfile := by
    obtain ⟨template, htemplate, code, storedAt, now, hentry, hbytes, hbacks⟩ :=
      h.disk place file hplace hfile
    exact ⟨template, hkept htemplate, code, storedAt, now, hentry, hbytes,
      hbacks.of_readings hversions hreadings⟩
  present place file hplace hfile := by
    rw [hversions]
    exact h.present place file hplace hfile
  times place file hfile := by
    rw [hversions] at hfile
    exact h.times place file hfile

/-- What is found in the store of a sound host is an entry that is backed, written for a template
    whose key has the same digest. -/
theorem find (h : host.Sound past sources ns dir) {store : Store} (hdir : store.dir = dir)
    (template : TemplateId) :
    store.find host.files template = .ok none
      ∨ ∃ written ∈ past.kept, ∃ code storedAt, written.cacheKey = template.cacheKey
        ∧ store.find host.files template = .ok (some ⟨written.reread, .text code, storedAt⟩)
        ∧ past.Backs sources ns written (.text code) storedAt := by
  cases henabled : store.enabled with
  | false => exact .inl (Store.find_of_disabled henabled host.files template)
  | true =>
      cases hfile : host.files.file? (store.place template) with
      | none => exact .inl (Store.find_of_none hfile)
      | some file =>
          subst hdir
          obtain ⟨written, hwritten, code, storedAt, now, hplace, hbytes, hbacks⟩ :=
            h.disk _ file (store.place_isWithin template) hfile
          have hplaces : store.place template = store.place written := hplace
          refine .inr ⟨written, hwritten, code, storedAt,
            (Store.cacheKey_eq_of_place_eq hplaces).symm, ?_, hbacks⟩
          refine @Store.find_of_bytes store host.files template written code storedAt now
            file.changed henabled hbacks.canonical ?_
          rw [hfile, ← hbytes]

end Host.Sound

/-- A past that has shown more says of a site what it said. -/
theorem Site.Sound.of_past {site : Site} {past next : Past} {setup : Setup} {dir : Location}
    (h : site.Sound past setup dir) (hversions : next.versions = past.versions)
    (hreadings : past.readings ⊆ next.readings) : site.Sound next setup dir where
  sources := h.sources
  ns := h.ns
  store := h.store
  memory entry hentry := (h.memory entry hentry).of_readings hversions hreadings

/-! ## One resolve -/

section Resolving

variable {sources : Sources} {ns : List Char} {dir : Location} {past : Past} {template : TemplateId}
  {cache : Cache} {host : Host}

/-- An entry that is not older than the present source has the code of that source. -/
theorem Past.Backs.compiled {code : Value} {storedAt : Binary64} {file : File}
    (h : past.Backs sources ns template code storedAt) (hhost : host.Sound past sources ns dir)
    (houtside : ∀ place, sources.locate template = .ok place → dir.isWithin place = false)
    (hfile : sources.sourceFile host.files template = .ok file)
    (hfresh : file.changed.le storedAt = true) :
    ∃ out, sources.compiled ns host.files template = .ok out
      ∧ code = .text (String.ofList out) := by
  obtain ⟨_, place, last, earlier, hlocate, hlast, _, hcode⟩ := h
  obtain ⟨found, hfound, hpresent⟩ := Sources.sourceFile_eq_ok_iff.mp hfile
  have hplace : found = place := Except.ok.inj (hfound.symm.trans hlocate)
  subst hplace
  obtain ⟨others, hversions⟩ := hhost.present found file (houtside found hlocate) hpresent
  have hsame : file = last := (List.cons.inj (hversions.symm.trans hlast)).1
  subst hsame
  obtain ⟨text, out, htext, hcompile, hvalue⟩ := hcode hfresh
  refine ⟨out, ?_, hvalue⟩
  rw [Sources.compiled_of_file hfile, htext]
  show (Directive.compile ns _ text).mapError _ = _
  rw [hcompile]
  rfl

/-- With sound files and a memory of backed entries, resolving gives what compiling would. -/
theorem Cache.Resolution.code_eq {result : Cache.Resolved}
    (h : Cache.Resolution sources ns template cache host result)
    (hhost : host.Sound past sources ns dir) (hstore : ∀ store ∈ cache.store, store.dir = dir)
    (hmemory : ∀ entry ∈ cache.memory.entries,
      past.Backs sources ns entry.1 entry.2.artifact.code entry.2.storedAt)
    (houtside : ∀ place, sources.locate template = .ok place → dir.isWithin place = false)
    (hcollision : ∀ other ∈ past.kept, other.cacheKey = template.cacheKey → other = template) :
    result.1.map Artifact.code = (sources.compiled ns host.files template).map fun out =>
      .text (String.ofList out) := by
  cases h with
  | missing hfile =>
      rw [Sources.compiled, hfile]
      rfl
  | fresh hfile hentry hfresh =>
      obtain ⟨out, hout, hcode⟩ := (hmemory _ (Table.mem_of_get? hentry)).compiled hhost houtside
        hfile hfresh
      rw [hout]
      exact congrArg Except.ok hcode
  | troubled hfile hstale hsome hfind =>
      rcases hhost.find (hstore _ hsome) template with hnone | ⟨_, _, _, _, _, hfound, _⟩
      · rw [hfind] at hnone
        cases hnone
      · rw [hfind] at hfound
        cases hfound
  | stored hfile hstale hsome hfind hfresh =>
      rcases hhost.find (hstore _ hsome) template with hnone | ⟨written, hwritten, code, storedAt,
        hkey, hfound, hbacks⟩
      · rw [hfind] at hnone
        cases hnone
      · rw [hfind] at hfound
        cases hfound
        -- an entry under this digest was written for this template
        cases hcollision written hwritten hkey
        obtain ⟨out, hout, hcode⟩ := hbacks.compiled hhost houtside hfile hfresh
        rw [hout]
        exact congrArg Except.ok hcode
  | unreadable hfile hstale htext =>
      rw [Sources.compiled_of_file hfile, htext]
      rfl
  | refused hfile hstale htext hcompile =>
      rw [Sources.compiled_of_file hfile, htext]
      show _ = ((Directive.compile ns _ _).mapError _).map _
      rw [hcompile]
      rfl
  | compiled hfile hstale htext hcompile htime =>
      rw [Sources.compiled_of_file hfile, htext]
      show _ = ((Directive.compile ns _ _).mapError _).map _
      rw [hcompile]
      rfl

/-- What is compiled now is backed by the present source. -/
theorem Past.backs_compiled {file : File} {text code : List Char}
    (hhost : host.Sound past sources ns dir)
    (houtside : ∀ place, sources.locate template = .ok place → dir.isWithin place = false)
    (hfile : sources.sourceFile host.files template = .ok file)
    (htext : Sources.textOf file = .ok text)
    (hcompile : Directive.compile ns Directive.standardRules text = .ok code)
    (hclock : host.clock ∈ past.readings) :
    past.Backs sources ns template (.text (String.ofList code))
      (host.clock.largest file.changed) := by
  obtain ⟨place, hlocate, hpresent⟩ := Sources.sourceFile_eq_ok_iff.mp hfile
  obtain ⟨earlier, hversions⟩ := hhost.present place file (houtside place hlocate) hpresent
  have hmem : file ∈ past.versions place := by
    rw [hversions]
    exact List.mem_cons_self
  refine ⟨hhost.clock.largest (hhost.times place file hmem), place, file, earlier, hlocate,
    hversions, ?_, fun _ => ⟨text, code, htext, hcompile, rfl⟩⟩
  rcases Binary64.largest_eq_or host.clock file.changed with h | h
  · rw [h]
    exact List.mem_append_left _ hclock
  · rw [h]
    exact List.mem_append_right _ (List.mem_map_of_mem hmem)

/-- After an entry was written to the store the files are still as the past says, if the entry is
    backed. -/
theorem Host.Sound.keep {code : List Char} {storedAt : Binary64}
    (hhost : host.Sound past sources ns dir) (hstore : ∀ store ∈ cache.store, store.dir = dir)
    (htemplate : template ∈ past.kept)
    (hbacks : past.Backs sources ns template (.text (String.ofList code)) storedAt)
    {compiles stamps : Nat} :
    Host.Sound ⟨cache.filesWith host.files template (String.ofList code) storedAt host.clock,
      host.clock, compiles, stamps⟩ past sources ns dir := by
  rw [Cache.filesWith]
  cases hsome : cache.store with
  | none => exact hhost.of_files hhost.clock fun _ _ h => h
  | some store =>
      cases hstore store hsome
      have hkeep := store.file?_keep host.files template (String.ofList code) storedAt host.clock
      refine ⟨hhost.clock, ?_, ?_, hhost.times⟩
      · intro place file hplace hfile
        rcases hkeep place with hsame | ⟨hentry, hwritten⟩
        · exact hhost.disk place file hplace (hsame ▸ hfile)
        · rw [hwritten] at hfile
          cases hfile
          exact ⟨template, htemplate, _, storedAt, host.clock, hentry, rfl, hbacks⟩
      · intro place file hplace hfile
        rcases hkeep place with hsame | ⟨hentry, _⟩
        · exact hhost.present place file hplace (hsame ▸ hfile)
        · rw [hentry, store.place_isWithin] at hplace
          cases hplace

/-- A resolve keeps the files and the memory as the past says, the past after it included. -/
theorem Cache.Resolution.sound {result : Cache.Resolved}
    (h : Cache.Resolution sources ns template cache host result)
    (hhost : host.Sound past sources ns dir) (hstore : ∀ store ∈ cache.store, store.dir = dir)
    (hmemory : ∀ entry ∈ cache.memory.entries,
      past.Backs sources ns entry.1 entry.2.artifact.code entry.2.storedAt)
    (houtside : ∀ place, sources.locate template = .ok place → dir.isWithin place = false)
    {next : Past} (hversions : next.versions = past.versions)
    (hreadings : past.readings ⊆ next.readings) (hkept : past.kept ⊆ next.kept)
    (hclock : host.compiles < result.2.2.compiles → isRefused result.1 = false →
      host.clock ∈ next.readings)
    (hasked : ∀ artifact, result.1 = .ok artifact → template ∈ next.kept
      ∧ ∀ other ∈ past.kept, other.cacheKey = template.cacheKey → other = template) :
    result.2.2.Sound next sources ns dir ∧ result.2.1.store = cache.store
      ∧ ∀ entry ∈ result.2.1.memory.entries,
        next.Backs sources ns entry.1 entry.2.artifact.code entry.2.storedAt := by
  have hhost' := hhost.of_past hversions hreadings hkept
  have hmemory' : ∀ entry ∈ cache.memory.entries,
      next.Backs sources ns entry.1 entry.2.artifact.code entry.2.storedAt := fun entry hentry =>
    (hmemory entry hentry).of_readings hversions hreadings
  have hremember : ∀ artifact : Artifact,
      next.Backs sources ns template artifact.code artifact.compiledAt →
      ∀ entry ∈ (cache.remember host template artifact).1.memory.entries,
        next.Backs sources ns entry.1 entry.2.artifact.code entry.2.storedAt := by
    intro artifact hbacks entry hentry
    rcases Table.mem_put hentry with rfl | hold
    · exact hbacks
    · exact hmemory' entry hold
  cases h with
  | missing => exact ⟨hhost', rfl, hmemory'⟩
  | fresh => exact ⟨hhost', rfl, hmemory'⟩
  | troubled => exact ⟨hhost', rfl, hmemory'⟩
  | unreadable => exact ⟨hhost', rfl, hmemory'⟩
  | refused => exact ⟨hhost'.of_files hhost'.clock fun _ _ h => h, rfl, hmemory'⟩
  | stored hfile hstale hsome hfind hfresh =>
      obtain ⟨_, hcollision⟩ := hasked _ rfl
      rcases hhost.find (hstore _ hsome) template with hnone | ⟨written, hwritten, code, storedAt,
        hkey, hfound, hbacks⟩
      · rw [hfind] at hnone
        cases hnone
      · rw [hfind] at hfound
        cases hfound
        cases hcollision written hwritten hkey
        exact ⟨hhost'.of_files hhost'.clock fun _ _ h => h, rfl,
          hremember _ (hbacks.of_readings hversions hreadings)⟩
  | compiled hfile hstale htext hcompile htime =>
      subst htime
      obtain ⟨htemplate, _⟩ := hasked _ rfl
      have hbacks := Past.backs_compiled hhost' houtside hfile htext hcompile
        (hclock (Nat.lt_succ_self _) rfl)
      exact ⟨hhost'.keep hstore htemplate hbacks, rfl, hremember _ hbacks⟩

end Resolving

/-! ## Resolves in a world -/

variable {setup : Setup} {dir : Location} {past : Past} {world : World}

/-- A resolve in a sound world leaves it sound, the past after it included. -/
theorem World.Sound.resolve (h : world.Sound past setup dir)
    (houtside : ∀ template place, setup.sources.locate template = .ok place →
      dir.isWithin place = false) (i : Nat) (template : TemplateId) {next : Past}
    (hversions : next.versions = past.versions) (hreadings : past.readings ⊆ next.readings)
    (hkept : past.kept ⊆ next.kept)
    (hnext : (on (Engine.resolve i template) world).2.kept ⊆ next.kept)
    (hclock : world.host.compiles < (on (Engine.resolve i template) world).2.host.compiles →
      isRefused (on (Engine.resolve i template) world).1 = false →
      world.host.clock ∈ next.readings)
    (hcollision : Sha1.CollisionFree (next.kept.map TemplateId.key)) :
    (on (Engine.resolve i template) world).2.Sound next setup dir := by
  have hsites : ∀ site ∈ world.sites, site.Sound next setup dir := fun site hsite =>
    (h.sites site hsite).of_past hversions hreadings
  rcases world.site_cases i with ⟨hinside, hmem⟩ | ⟨hdefault, hset⟩
  · obtain ⟨hsources, hns, hstore, hmemory⟩ := h.sites _ hmem
    obtain ⟨result, hresult, hrun⟩ := on_resolve i template world
    rw [hrun] at hnext hclock ⊢
    rw [hsources, hns] at hresult
    have hself : { world.site i with cache := result.2.1 } ∈
        (world.setSite i { world.site i with cache := result.2.1 }).sites :=
      List.mem_set hinside _
    obtain ⟨hhost, hsame, hentries⟩ := hresult.sound h.host hstore hmemory (houtside template)
      hversions hreadings hkept hclock fun artifact hok => by
        have hasked : template ∈ next.kept :=
          hnext (World.mem_kept.mpr ⟨_, hself, hresult.mem_keys hok⟩)
        exact ⟨hasked, fun other hother => hcollision.eq hasked (hkept hother)⟩
    refine ⟨hhost, ?_, hnext⟩
    intro site hsite
    rcases World.mem_sites_setSite hsite with hold | rfl
    · exact hsites site hold
    · exact ⟨hsources, hns, hsame ▸ hstore, hentries⟩
  · rw [on_resolve_default template hdefault hset] at hnext ⊢
    exact ⟨h.host.of_past hversions hreadings hkept, hsites, hnext⟩

omit [FileSystem] in
theorem eq_error_of_map {ε α β : Type} {f : α → β} {x : Except ε α} {fault : ε}
    (h : x.map f = .error fault) : x = .error fault := by
  cases x with
  | error other => rw [← Except.error.inj h]
  | ok a => cases h

omit [FileSystem] in
theorem eq_ok_of_map {ε α β : Type} {f : α → β} {x : Except ε α} {b : β}
    (h : x.map f = .ok b) : ∃ a, x = .ok a ∧ f a = b := by
  cases x with
  | error fault => cases h
  | ok a => exact ⟨a, rfl, Except.ok.inj h⟩

/-- In a sound world a resolve gives what compiling the present source would. -/
theorem World.Sound.code_resolve (h : world.Sound past setup dir) {template : TemplateId}
    (houtside : ∀ place, setup.sources.locate template = .ok place → dir.isWithin place = false)
    (hcollision : Sha1.CollisionFree ((template :: past.kept).map TemplateId.key))
    {i : Nat} (hsite : i < world.sites.length) :
    (on (Engine.resolve i template) world).1.map Artifact.code
      = (setup.sources.compiled setup.ns.toList world.host.files template).map fun out =>
        .text (String.ofList out) := by
  obtain ⟨hsources, hns, hstore, hmemory⟩ := h.sites _ (World.site_mem hsite)
  obtain ⟨result, hresult, hrun⟩ := on_resolve i template world
  rw [hsources, hns] at hresult
  rw [hrun]
  exact hresult.code_eq h.host hstore hmemory houtside fun other hother =>
    hcollision.eq List.mem_cons_self (List.mem_cons_of_mem _ hother)

/-! ## Trails in a sound world -/

/-- A past that has shown more fits a sound world. -/
theorem World.Sound.of_past (h : world.Sound past setup dir) {next : Past}
    (hversions : next.versions = past.versions) (hreadings : past.readings ⊆ next.readings)
    (hkept : past.kept ⊆ next.kept) : world.Sound next setup dir where
  host := h.host.of_past hversions hreadings hkept
  sites site hsite := (h.sites site hsite).of_past hversions hreadings
  kept := List.Subset.trans h.kept hkept

omit [FileSystem] in
theorem Past.readings_after (past : Past) {world next : World} {refused : Bool}
    (h : world.host.compiles + refused.toNat < next.host.compiles) :
    (past.after world next refused).readings = world.host.clock :: past.readings :=
  if_pos (decide_eq_true h)

omit [FileSystem] in
theorem Past.readings_after_of_le (past : Past) {world next : World} {refused : Bool}
    (h : next.host.compiles ≤ world.host.compiles + refused.toNat) :
    (past.after world next refused).readings = past.readings :=
  if_neg (by simpa [readsClock] using h)

omit [FileSystem] in
theorem Past.readings_subset_after (past : Past) (world next : World) (refused : Bool) :
    past.readings ⊆ (past.after world next refused).readings := by
  rcases Nat.lt_or_ge (world.host.compiles + refused.toNat) next.host.compiles with h | h
  · rw [past.readings_after h]
    exact List.subset_cons_self _ _
  · rw [past.readings_after_of_le h]
    exact List.Subset.refl _

/-- Along a trail a sound world stays sound. -/
theorem World.Sound.trail [Substrate] (h : world.Sound past setup dir)
    (houtside : ∀ template place, setup.sources.locate template = .ok place →
      dir.isWithin place = false) {refused : Bool} {next : World}
    (htrail : Trail world refused next)
    (hcollision : Sha1.CollisionFree ((next.kept ++ past.kept).map TemplateId.key)) :
    next.Sound (past.after world next refused) setup dir := by
  induction htrail with
  | refl =>
      exact h.of_past rfl (past.readings_subset_after _ _ _) (List.subset_append_right _ _)
  | arrange components views streams _ ih =>
      obtain ⟨hhost, hsites, hkept⟩ := ih hcollision
      exact ⟨hhost, hsites, hkept⟩
  | @hold middle i template code script hscript htrail ih =>
      have hmiddle : middle.kept ⊆ (middle.setSite i { middle.site i with
          held := (middle.site i).held.put template (code, script) }).kept :=
        World.kept_subset_setSite (List.Subset.refl _)
      have hsubset := List.append_subset.mpr
        ⟨List.subset_append_of_subset_left past.kept hmiddle, List.subset_append_right _ _⟩
      have hsound : middle.Sound (past.after world (middle.setSite i { middle.site i with
          held := (middle.site i).held.put template (code, script) }) false) setup dir :=
        (ih (hcollision.mono (List.map_subset _ hsubset))).of_past rfl (List.Subset.refl _) hsubset
      obtain ⟨hhost, hsites, hkept⟩ := hsound
      refine ⟨hhost, World.forall_setSite hsites ?_, List.subset_append_left _ _⟩
      intro hmem
      obtain ⟨hsources, hns, hstore, hmemory⟩ := hsites _ hmem
      exact ⟨hsources, hns, hstore, hmemory⟩
  | @resolve middle i template htrail ih =>
      have hmiddle := middle.kept_subset_resolve i template
      have hsubset := List.append_subset.mpr
        ⟨List.subset_append_of_subset_left past.kept hmiddle, List.subset_append_right _ _⟩
      have hsound := ih (hcollision.mono (List.map_subset _ hsubset))
      have hbefore : world.host.compiles ≤ middle.host.compiles := htrail.compiles_le
      have hcount := ((.refl : Trail middle false middle).resolve i template).compiles_le
      refine hsound.resolve houtside i template rfl ?_ hsubset (List.subset_append_left _ _) ?_
        hcollision
      -- the clock stands still along a trail, so its one reading is shown from the first compile on
      · rcases Nat.lt_or_ge (world.host.compiles + false.toNat) middle.host.compiles with h | h
        · rw [past.readings_after h, past.readings_after (Nat.lt_of_lt_of_le
            (Nat.add_lt_add_right h _) hcount)]
          exact List.Subset.refl _
        · rw [past.readings_after_of_le h]
          exact past.readings_subset_after _ _ _
      · intro hcompiled hrefused
        rw [htrail.clock_eq, past.readings_after]
        · exact List.mem_cons_self
        · rw [hrefused]
          exact Nat.lt_of_le_of_lt hbefore hcompiled

/-! ## The steps of a history -/

theorem Host.Sound.wrote {host : Host} {sources : Sources} {ns : List Char} {place : Location}
    {file : File} (h : host.Sound past sources ns dir) (hplace : dir.isWithin place = false)
    (hadmits : past.Admits place file) (htime : file.changed.IsCanonical) {files : FileTree}
    (hfiles : ∀ there, files.file? there
      = if there = place then some file else host.files.file? there) :
    Host.Sound { host with files } (past.wrote place file) sources ns dir where
  clock := h.clock
  disk there found hthere hfound := by
    have hne : there ≠ place := by
      rintro rfl
      rw [hplace] at hthere
      cases hthere
    rw [show ({ host with files } : Host).files = files from rfl, hfiles, if_neg hne] at hfound
    obtain ⟨template, htemplate, code, storedAt, now, hentry, hbytes, hbacks⟩ :=
      h.disk there found hthere hfound
    exact ⟨template, htemplate, code, storedAt, now, hentry, hbytes, hbacks.wrote hadmits⟩
  present there found hthere hfound := by
    rw [show ({ host with files } : Host).files = files from rfl, hfiles] at hfound
    by_cases heq : there = place
    · rw [if_pos heq] at hfound
      cases hfound
      exact ⟨past.versions there, if_pos heq⟩
    · rw [if_neg heq] at hfound
      obtain ⟨earlier, hversions⟩ := h.present there found hthere hfound
      exact ⟨earlier, (if_neg heq).trans hversions⟩
  times there found hfound := by
    by_cases heq : there = place
    · rcases List.mem_cons.mp (show found ∈ file :: past.versions there from by
        simpa only [Past.wrote, if_pos heq] using hfound) with rfl | hold
      · exact htime
      · exact h.times there found hold
    · exact h.times there found (by simpa only [Past.wrote, if_neg heq] using hfound)

namespace World.Sound

/-- A world of which only the host differs is sound if the host is. -/
theorem with_host (h : world.Sound past setup dir) {host : Host}
    (hhost : host.Sound past setup.sources setup.ns.toList dir) :
    World.Sound { world with host } past setup dir where
  host := hhost
  sites := h.sites
  kept := h.kept

theorem purge (h : world.Sound past setup dir) (i : Nat) :
    (on (purge i) world).2.Sound past setup dir := by
  obtain ⟨host, memory, hclock, hmemory, hfiles, hrun⟩ := on_purge i world
  rw [hrun]
  have hhost : host.Sound past setup.sources setup.ns.toList dir :=
    h.host.of_files (hclock ▸ h.host.clock) hfiles
  refine ⟨hhost, World.forall_setSite h.sites ?_, ?_⟩
  · intro hmem
    obtain ⟨hsources, hns, hstore, _⟩ := h.sites _ hmem
    refine ⟨hsources, hns, hstore, ?_⟩
    intro entry hentry
    rw [hmemory] at hentry
    cases hentry
  · intro template htemplate
    rcases World.mem_kept_setSite htemplate with hold | hkey
    · exact h.kept hold
    · rw [hmemory] at hkey
      cases hkey

theorem construct (h : world.Sound past setup dir)
    (hcache : ∀ path ∈ setup.cache, Store.folder path = dir) :
    (on (openSite setup) world).2.Sound past setup dir := by
  obtain ⟨files, hfiles, hrun⟩ := on_openSite setup world
  have hhost : Host.Sound { world.host with files } past setup.sources setup.ns.toList dir :=
    h.host.of_files h.host.clock fun place file hfile => (hfiles place).symm.trans hfile
  rcases hrun with hrun | ⟨store, hstore, _, hrun⟩
  · rw [hrun]
    exact h.with_host hhost
  · rw [hrun]
    refine ⟨hhost, ?_, ?_⟩
    · intro site hsite
      rcases List.mem_append.mp hsite with hold | hnew
      · exact h.sites site hold
      · rw [List.mem_singleton.mp hnew]
        refine ⟨rfl, rfl, fun made hmade => ?_, fun entry hentry => (nomatch hentry)⟩
        obtain ⟨path, hpath, hdir⟩ := hstore made hmade
        exact hdir.symm.trans (hcache path hpath)
    · intro template htemplate
      obtain ⟨site, hsite, hkey⟩ := World.mem_kept.mp htemplate
      rcases List.mem_append.mp hsite with hold | hnew
      · exact h.kept (World.mem_kept.mpr ⟨site, hold, hkey⟩)
      · rw [List.mem_singleton.mp hnew] at hkey
        cases hkey

end World.Sound

/-- After every history, all entries are backed by the versions of their sources. -/
theorem History.sound [Substrate] (h : History setup dir past world)
    (hcache : ∀ path ∈ setup.cache, Store.folder path = dir) (hapart : setup.Apart dir)
    (hcollision : Sha1.CollisionFree (past.kept.map TemplateId.key)) :
    world.Sound past setup dir := by
  induction h with
  | @start world hsites hempty htimes hclock =>
      refine ⟨⟨hclock, ?_, ?_, ?_⟩, ?_, ?_⟩
      · intro place file hplace hfile
        rw [hempty place hplace] at hfile
        cases hfile
      · intro place file _ hfile
        exact ⟨[], congrArg Option.toList hfile⟩
      · intro place file hfile
        exact htimes place file (Option.mem_toList.mp hfile)
      · intro site hsite
        rw [hsites] at hsite
        cases hsite
      · intro template htemplate
        rw [World.kept, hsites] at htemplate
        cases htemplate
  | write place file hplace hadmits htime hfiles _ ih =>
      obtain ⟨hhost, hsites, hkept⟩ := ih hcollision
      refine ⟨hhost.wrote hplace hadmits htime hfiles, ?_, hkept⟩
      intro site hsite
      obtain ⟨hsources, hns, hstore, hmemory⟩ := hsites site hsite
      exact ⟨hsources, hns, hstore, fun entry hentry => (hmemory entry hentry).wrote hadmits⟩
  | @remove past world place _ ih =>
      have hsound := ih hcollision
      refine hsound.with_host (hsound.host.of_files hsound.host.clock ?_)
      intro there file hfile
      rw [show Host.files { world.host with files := world.host.files.remove place }
        = world.host.files.remove place from rfl, FileTree.file?_remove] at hfile
      split at hfile
      · cases hfile
      · exact hfile
  | tick clock hclock _ ih =>
      have hsound := ih hcollision
      exact hsound.with_host (hsound.host.of_files hclock fun _ _ h => h)
  | resolve site template _ ih =>
      have hkept := hcollision.mono (List.map_subset _ (List.subset_append_right _ _))
      exact (ih hkept).trail (fun _ _ => Sources.Apart.locate hapart)
        (Follows.resolve site template _) hcollision
  | render handle _ ih =>
      have hkept := hcollision.mono (List.map_subset _ (List.subset_append_right _ _))
      exact (ih hkept).trail (fun _ _ => Sources.Apart.locate hapart) (render_follows handle _)
        hcollision
  | purge site _ ih => exact (ih hcollision).purge site
  | construct _ ih => exact (ih hcollision).construct hcache
  | arrange components views streams _ ih =>
      obtain ⟨hhost, hsites, hkept⟩ := ih hcollision
      exact ⟨hhost, hsites, hkept⟩

end Theory

end Stencil
