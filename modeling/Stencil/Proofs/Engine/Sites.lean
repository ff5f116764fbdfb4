import Stencil.Project
import Stencil.Proofs.Cache.Resolve
import Stencil.Proofs.Engine.Trail

/-! # Sites — what happens at the sites of a world

    A resolve or a purge works at one site and leaves the others as they were; a
    new engine is one more site.  What a site keeps in memory it keeps until a
    purge, and a resolve adds to it at most the template that was asked for.

    Headline: `Engine.on_resolve`. -/

namespace Stencil

open Engine

/-- The sources of the engines of a configuration. -/
def Setup.sources (setup : Setup) : Sources :=
  ⟨Sources.rootsOf setup.roots, setup.extension⟩

/-- The templates with an entry in some memory of a world. -/
def World.kept (world : World) : List TemplateId :=
  world.sites.flatMap fun site => site.cache.memory.entries.map Prod.fst

/-- A world with other files. -/
def World.withFiles (world : World) (files : FileTree) : World :=
  { world with host := { world.host with files } }

namespace World

theorem mem_kept {world : World} {template : TemplateId} : template ∈ world.kept
    ↔ ∃ site ∈ world.sites, template ∈ site.cache.memory.entries.map Prod.fst :=
  List.mem_flatMap

theorem site_mem {world : World} {i : Nat} (h : i < world.sites.length) :
    world.site i ∈ world.sites := by
  rw [site, List.getElem?_eq_getElem h]
  exact List.getElem_mem h

/-- A number is that of a site, or the world has no site of that number to change. -/
theorem site_cases (world : World) (i : Nat) :
    (i < world.sites.length ∧ world.site i ∈ world.sites)
      ∨ (world.site i = default ∧ ∀ site, world.setSite i site = world) := by
  rcases Nat.lt_or_ge i world.sites.length with hinside | hbeyond
  · exact .inl ⟨hinside, site_mem hinside⟩
  · refine .inr ⟨?_, ?_⟩
    · rw [site, List.getElem?_eq_none hbeyond]
      rfl
    · intro site
      rw [setSite, List.set_eq_of_length_le hbeyond]

/-- A template has a source at a site of the world only. -/
theorem site_mem_of_sourceFile [FileSystem] {world : World} {i : Nat} {tree : FileTree}
    {template : TemplateId}
    {file : File} (h : (world.site i).sources.sourceFile tree template = .ok file) :
    world.site i ∈ world.sites := by
  rcases world.site_cases i with ⟨-, hmem⟩ | ⟨hdefault, -⟩
  · exact hmem
  · rw [hdefault] at h
    exact nomatch h

theorem mem_sites_setSite {world : World} {i : Nat} {site other : Site}
    (h : other ∈ (world.setSite i site).sites) : other ∈ world.sites ∨ other = site :=
  List.mem_or_eq_of_mem_set h

/-- A site that is put in the place of another is there, and the others are as they were. -/
theorem site_setSite {world : World} {i : Nat} (h : i < world.sites.length) (site : Site)
    (j : Nat) : (world.setSite i site).site j = if j = i then site else world.site j := by
  rw [World.site, setSite, World.site]
  by_cases hj : j = i
  · rw [if_pos hj, hj, List.getElem?_set_self h]
    rfl
  · rw [if_neg hj, List.getElem?_set_ne (Ne.symm hj)]

/-- A site that is put in the place of another is there, whatever the host is. -/
theorem site_setSite_self {world : World} {i : Nat} (h : i < world.sites.length) (site : Site)
    (host : Host) : World.site { (world.setSite i site) with host } i = site :=
  (site_setSite h site i).trans (if_pos rfl)

theorem site_setSite_of_ne {world : World} {i j : Nat} (hj : j ≠ i) (site : Site) :
    (world.setSite i site).site j = world.site j := by
  rw [World.site, setSite, List.getElem?_set_ne (Ne.symm hj)]
  rfl

/-- What a site that is put in the place of another has as that one, every site has as before. -/
theorem site_setSite_congr {β : Type} (f : Site → β) {world : World} {i : Nat} {site : Site}
    (h : f site = f (world.site i)) (j : Nat) :
    f ((world.setSite i site).site j) = f (world.site j) := by
  by_cases hj : j = i
  · subst hj
    rcases world.site_cases j with ⟨hinside, -⟩ | ⟨-, hset⟩
    · rw [site_setSite hinside, if_pos rfl, h]
    · rw [hset]
  · rw [site_setSite_of_ne hj]

/-- A site that is put where it is changes nothing. -/
theorem setSite_site (world : World) (i : Nat) : world.setSite i (world.site i) = world := by
  have hsites : world.sites.set i (world.site i) = world.sites := by
    rcases Nat.lt_or_ge i world.sites.length with hinside | hbeyond
    · rw [site, List.getElem?_eq_getElem hinside]
      exact List.set_getElem_self hinside
    · exact List.set_eq_of_length_le hbeyond
  rw [setSite, hsites]

/-- A site that is the same to paths and templates shows no difference in its place. -/
theorem bare_setSite {world : World} {i : Nat} {site : Site}
    (h : site.bare = (world.site i).bare) : (world.setSite i site).bare = world.bare := by
  have hsites : (world.setSite i site).sites.map Site.bare = world.sites.map Site.bare := by
    rw [setSite, List.map_set, h]
    rcases Nat.lt_or_ge i world.sites.length with hinside | hbeyond
    · rw [World.site, List.getElem?_eq_getElem hinside, Option.getD_some, ← List.map_set,
        List.set_getElem_self]
    · exact List.set_eq_of_length_le (by rw [List.length_map]; exact hbeyond)
  rw [bare, hsites]
  rfl

/-- A site that is added has the next number. -/
theorem site_concat (world : World) (site : Site) (j : Nat) :
    World.site { world with sites := world.sites ++ [site] } j
      = if j = world.sites.length then site else world.site j := by
  rw [World.site, World.site]
  show ((world.sites ++ [site])[j]?).getD default = _
  by_cases hj : j = world.sites.length
  · rw [if_pos hj, hj, List.getElem?_concat_length]
    rfl
  · rw [if_neg hj]
    rcases Nat.lt_or_gt_of_ne hj with hinside | hbeyond
    · rw [List.getElem?_append_left hinside]
    · rw [List.getElem?_eq_none (by rw [List.length_append]; exact hbeyond),
        List.getElem?_eq_none (Nat.le_of_lt hbeyond)]

/-- What holds of all sites, and of one that is put in the place of another, holds of all after
    it. -/
theorem forall_setSite {p : Site → Prop} {world : World} (h : ∀ site ∈ world.sites, p site)
    {i : Nat} {site : Site} (hsite : world.site i ∈ world.sites → p site) :
    ∀ other ∈ (world.setSite i site).sites, p other := by
  intro other hother
  rcases world.site_cases i with ⟨_, hmem⟩ | ⟨_, hset⟩
  · rcases mem_sites_setSite hother with hold | rfl
    · exact h other hold
    · exact hsite hmem
  · rw [hset] at hother
    exact h other hother

theorem keys_site_subset (world : World) (i : Nat) :
    (world.site i).cache.memory.entries.map Prod.fst ⊆ world.kept := by
  intro template hkey
  rcases world.site_cases i with ⟨_, hmem⟩ | ⟨hdefault, _⟩
  · exact mem_kept.mpr ⟨_, hmem, hkey⟩
  · rw [hdefault] at hkey
    cases hkey

theorem mem_kept_setSite {world : World} {i : Nat} {site : Site} {template : TemplateId}
    (h : template ∈ (world.setSite i site).kept) :
    template ∈ world.kept ∨ template ∈ site.cache.memory.entries.map Prod.fst := by
  obtain ⟨other, hother, hkey⟩ := mem_kept.mp h
  rcases mem_sites_setSite hother with hold | rfl
  · exact .inl (mem_kept.mpr ⟨other, hold, hkey⟩)
  · exact .inr hkey

/-- A site that holds what it held and perhaps more loses no template. -/
theorem kept_subset_setSite {world : World} {i : Nat} {site : Site}
    (h : (world.site i).cache.memory.entries.map Prod.fst
      ⊆ site.cache.memory.entries.map Prod.fst) : world.kept ⊆ (world.setSite i site).kept := by
  intro template htemplate
  obtain ⟨other, hother, hkey⟩ := mem_kept.mp htemplate
  obtain ⟨j, hj⟩ := List.getElem?_of_mem hother
  -- the site that is replaced keeps its templates by assumption, the others are the same sites
  by_cases hij : i = j
  · subst hij
    have hsite : world.site i = other := by
      rw [World.site, hj]
      rfl
    obtain ⟨hlength, _⟩ := List.getElem?_eq_some_iff.mp hj
    refine mem_kept.mpr ⟨site, ?_, h (hsite ▸ hkey)⟩
    exact List.mem_of_getElem? (List.getElem?_set_self hlength)
  · refine mem_kept.mpr ⟨other, ?_, hkey⟩
    refine List.mem_of_getElem? (i := j) ?_
    show (world.sites.set i site)[j]? = some other
    rw [List.getElem?_set_ne hij, hj]

end World

/-! ## What a resolve leaves as it was -/

section Facts

variable [FileSystem] {sources : Sources} {ns : List Char} {template : TemplateId} {cache : Cache}
  {host : Host}
  {result : Cache.Resolved}

/-- A resolve forgets no template. -/
theorem Cache.Resolution.keys_subset (h : Cache.Resolution sources ns template cache host result) :
    cache.memory.entries.map Prod.fst ⊆ result.2.1.memory.entries.map Prod.fst := by
  cases h with
  | stored => exact fun _ hkey => Table.mem_keys_put.mpr (.inr hkey)
  | compiled => exact fun _ hkey => Table.mem_keys_put.mpr (.inr hkey)
  | _ => exact fun _ hkey => hkey

/-- A resolve remembers no template but its own. -/
theorem Cache.Resolution.keys_subset_cons
    (h : Cache.Resolution sources ns template cache host result) :
    result.2.1.memory.entries.map Prod.fst ⊆ template :: cache.memory.entries.map Prod.fst := by
  cases h with
  | stored => exact fun _ hkey => List.mem_cons.mpr (Table.mem_keys_put.mp hkey)
  | compiled => exact fun _ hkey => List.mem_cons.mpr (Table.mem_keys_put.mp hkey)
  | _ => exact fun _ hkey => List.mem_cons_of_mem _ hkey

/-- A template that was resolved is in the memory. -/
theorem Cache.Resolution.mem_keys (h : Cache.Resolution sources ns template cache host result)
    {artifact : Artifact} (hresult : result.1 = .ok artifact) :
    template ∈ result.2.1.memory.entries.map Prod.fst := by
  cases h with
  | fresh hfile hentry hfresh => exact List.mem_map_of_mem (Table.mem_of_get? hentry)
  | stored => exact Table.mem_keys_put.mpr (.inl rfl)
  | compiled => exact Table.mem_keys_put.mpr (.inl rfl)
  | _ => cases hresult

theorem Cache.Resolution.clock_eq (h : Cache.Resolution sources ns template cache host result) :
    result.2.2.clock = host.clock := by
  cases h <;> rfl

/-- A source that is refused is counted as compiled. -/
theorem Cache.Resolution.compiles_le (h : Cache.Resolution sources ns template cache host result) :
    host.compiles + (isRefused result.1).toNat ≤ result.2.2.compiles := by
  cases h with
  | missing hfile => cases Sources.lacks_of_sourceFile hfile <;> exact Nat.le_refl _
  | unreadable hfile hstale htext =>
      rw [Sources.undecodable_of_textOf htext]
      exact Nat.le_refl _
  | compiled => exact Nat.le_succ _
  | _ => exact Nat.le_refl _

/-- A resolve changes nothing beside the folder of its store. -/
theorem Cache.Resolution.agreeBeside
    (h : Cache.Resolution sources ns template cache host result) {dir : Location}
    (hdir : ∀ store ∈ cache.store, store.dir = dir) :
    host.files.AgreeBeside dir result.2.2.files := by
  cases h with
  | compiled =>
      show host.files.AgreeBeside dir (cache.filesWith host.files template _ _ _)
      rw [filesWith]
      cases hstore : cache.store with
      | none => exact fun _ _ _ => rfl
      | some store =>
          rw [← hdir store hstore]
          exact store.agreeBeside_keep host.files template _ _ _
  | _ => exact fun _ _ _ => rfl

end Facts

/-! ## Resolves, new engines and purges in a world -/

section Resolving

variable [FileSystem]

/-- A resolve in a world is one by the cache of its site. -/
theorem Engine.on_resolve_eq (i : Nat) (template : TemplateId) (world : World) :
    on (resolve i template) world
      = let result := (world.site i).cache.resolve (world.site i).sources
          (world.site i).ns.toList template world.host
        (result.1, { (world.setSite i { world.site i with cache := result.2.1 }) with
          host := result.2.2 }) := by
  rw [Engine.resolve, on_bind_ok (on_get world)]
  simp only
  rw [on_bind_ok (on_set _ world)]
  cases (Cache.resolve _ _ template _ world.host).1 <;> rfl

/-- A resolve leaves the other sites as they were. -/
theorem World.site_resolve_of_ne {i j : Nat} (h : j ≠ i) (template : TemplateId) (world : World) :
    (on (Engine.resolve i template) world).2.site j = world.site j := by
  rw [on_resolve_eq]
  exact site_setSite_of_ne h _

/-- A resolve in a world comes to one of the resolutions at its site. -/
theorem Engine.on_resolve (i : Nat) (template : TemplateId) (world : World) :
    ∃ result, Cache.Resolution (world.site i).sources (world.site i).ns.toList template
        (world.site i).cache world.host result
      ∧ on (resolve i template) world = (result.1,
        { (world.setSite i { world.site i with cache := result.2.1 }) with
          host := result.2.2 }) :=
  ⟨_, Cache.resolution _ _ _ _ _, on_resolve_eq i template world⟩

/-- A resolve changes nothing beside the folder of the store of its site. -/
theorem World.agreeBeside_resolve {world : World} {i : Nat} {dir : Location}
    (hdir : ∀ store ∈ (world.site i).cache.store, store.dir = dir) (template : TemplateId) :
    world.host.files.AgreeBeside dir (on (Engine.resolve i template) world).2.host.files := by
  obtain ⟨result, hresult, hrun⟩ := on_resolve i template world
  rw [hrun]
  exact hresult.agreeBeside hdir

/-- Where there is no site, nothing is found and nothing changes. -/
theorem Engine.on_resolve_default {i : Nat} {world : World} (template : TemplateId)
    (hsite : world.site i = default) (hset : ∀ site, world.setSite i site = world) :
    on (resolve i template) world = (.error (.notFound template none), world) := by
  obtain ⟨result, hresult, hrun⟩ := on_resolve i template world
  rw [hsite] at hresult
  have herror : (default : Site).sources.sourceFile world.host.files template
      = .error (.notFound template none) := rfl
  rw [hrun, hset]
  cases hresult with
  | missing hfile =>
      rw [herror] at hfile
      cases hfile
      rfl
  | fresh hfile => cases herror.symm.trans hfile
  | troubled hfile => cases herror.symm.trans hfile
  | stored hfile => cases herror.symm.trans hfile
  | unreadable hfile => cases herror.symm.trans hfile
  | refused hfile => cases herror.symm.trans hfile
  | compiled hfile => cases herror.symm.trans hfile

/-- The store that a new engine gets over a cache folder, and the files once it is made. -/
def World.opened (world : World) (cache : Option Location) : Option Store × FileTree :=
  match cache with
  | none => (none, world.host.files)
  | some dir =>
    if cacheSwitchedOn world.switch true then
      (some (Store.make world.host.files dir).1, (Store.make world.host.files dir).2)
    else (none, world.host.files)

theorem World.dir_of_mem_opened {world : World} {cache : Option Location} {made : Store}
    (h : made ∈ (world.opened cache).1) : ∃ path ∈ cache, Store.folder path = made.dir := by
  cases cache with
  | none => exact nomatch h
  | some path =>
      rw [opened] at h
      split at h
      · obtain rfl := Option.some.inj h
        exact ⟨path, rfl, (Store.dir_make _ path).symm⟩
      · exact nomatch h

theorem World.file?_opened (world : World) (cache : Option Location) (there : Location) :
    (world.opened cache).2.file? there = world.host.files.file? there := by
  cases cache with
  | none => rfl
  | some path =>
      rw [opened]
      split
      · exact Store.file?_make world.host.files path there
      · rfl

/-- Making the store of a cache folder changes nothing beside it. -/
theorem World.agreeBeside_opened (world : World) (path : Location) :
    world.host.files.AgreeBeside (Store.folder path) (world.opened (some path)).2 := by
  rw [opened]
  split
  · exact Store.agreeBeside_make world.host.files path
  · exact fun _ _ _ => rfl

theorem Engine.on_openStore (cache : Option Location) (world : World) :
    on (openStore cache) world
      = (.ok (world.opened cache).1, world.withFiles (world.opened cache).2) := by
  rw [openStore, on_bind_ok (on_get world)]
  cases cache with
  | none => rfl
  | some dir =>
      simp only [World.opened]
      split <;> rfl

/-- A new engine, if its namespace is one, has nothing in memory, and the store of its folder. -/
theorem Engine.on_openSite_eq (setup : Setup) (world : World) :
    (on (openSite setup) world).2
      = if Directive.isNamespace setup.ns.toList then
          { world.withFiles (world.opened setup.cache).2 with sites := world.sites
            ++ [⟨setup.sources, setup.ns, setup.strict, ⟨.empty, (world.opened setup.cache).1⟩,
              .empty⟩] }
        else world.withFiles (world.opened setup.cache).2 := by
  rw [openSite, on_bind_ok (on_openStore setup.cache world)]
  cases Directive.isNamespace setup.ns.toList <;> rfl

/-- The files after a new engine are those with the store of its folder made. -/
theorem Engine.files_openSite (setup : Setup) (world : World) :
    (on (openSite setup) world).2.host.files = (world.opened setup.cache).2 := by
  rw [on_openSite_eq]
  split <;> rfl

/-- A new engine, if its namespace is one, has nothing in memory; every file is as it was. -/
theorem Engine.on_openSite (setup : Setup) (world : World) :
    ∃ files, (∀ there, files.file? there = world.host.files.file? there)
      ∧ ((on (openSite setup) world).2 = world.withFiles files
        ∨ ∃ store, (∀ made ∈ store, ∃ path ∈ setup.cache, Store.folder path = made.dir)
          ∧ Directive.isNamespace setup.ns.toList = true
          ∧ (on (openSite setup) world).2 = { world.withFiles files with sites := world.sites
            ++ [⟨setup.sources, setup.ns, setup.strict, ⟨.empty, store⟩, .empty⟩] }) := by
  refine ⟨_, world.file?_opened setup.cache, ?_⟩
  rw [on_openSite_eq]
  split
  case isTrue hns => exact .inr ⟨_, fun made => World.dir_of_mem_opened, hns, rfl⟩
  case isFalse => exact .inl rfl

/-- A new engine of a configuration whose namespace is one is one more site. -/
theorem Engine.on_openSite_concat {setup : Setup}
    (hns : Directive.isNamespace setup.ns.toList = true) (world : World) :
    ∃ files site, (∀ there, files.file? there = world.host.files.file? there)
      ∧ site.sources = setup.sources ∧ site.ns = setup.ns
      ∧ (on (openSite setup) world).2
        = { world.withFiles files with sites := world.sites ++ [site] } := by
  refine ⟨_, _, world.file?_opened setup.cache, ?_, ?_, (on_openSite_eq setup world).trans
    (if_pos hns)⟩
  · rfl
  · rfl

end Resolving

/-- A purge leaves the store of a cache and nothing in its memory. -/
theorem Cache.purge_fst (cache : Cache) (host : Host) :
    (cache.purge host).1 = ⟨.empty, cache.store⟩ := by
  rcases cache with ⟨memory, _ | store⟩ <;> rfl

/-- Of a host a purge changes the files only: they are those of the store that was emptied. -/
theorem Cache.purge_snd (cache : Cache) (host : Host) : (cache.purge host).2
    = { host with files := (cache.store.map fun store => store.purge host.files).getD host.files }
    := by
  rcases cache with ⟨memory, _ | store⟩ <;> rfl

/-- A purge in a world is one of the cache of its site. -/
theorem Engine.on_purge_eq (i : Nat) (world : World) :
    on (purge i) world = (.ok (), { (world.setSite i { world.site i with
      cache := ⟨.empty, (world.site i).cache.store⟩ }) with
      host := ((world.site i).cache.purge world.host).2 }) := by
  rw [Engine.purge, on_bind_ok (on_get world), ← Cache.purge_fst]
  rfl

/-- A purge empties the memory of a site, if there is one, and no file is new after it. -/
theorem Engine.on_purge (i : Nat) (world : World) :
    ∃ host memory, host.clock = world.host.clock ∧ memory.entries = []
      ∧ (∀ place file, host.files.file? place = some file →
        world.host.files.file? place = some file)
      ∧ on (purge i) world = (.ok (), { (world.setSite i { world.site i with
          cache := ⟨memory, (world.site i).cache.store⟩ }) with host }) := by
  refine ⟨_, .empty, ?_, rfl, ?_, on_purge_eq i world⟩
  · rw [Cache.purge_snd]
  · rw [Cache.purge_snd]
    cases (world.site i).cache.store with
    | none => exact fun _ _ h => h
    | some store => exact fun _ _ => store.file?_purge world.host.files

/-- A purge leaves the other sites as they were. -/
theorem World.site_purge_of_ne {i j : Nat} (h : j ≠ i) (world : World) :
    (on (Engine.purge i) world).2.site j = world.site j := by
  rw [on_purge_eq]
  exact site_setSite_of_ne h _

/-- A site that is purged has nothing in memory, and is else as it was. -/
theorem World.site_purge (world : World) (i : Nat) : (on (Engine.purge i) world).2.site i
    = { world.site i with cache := ⟨.empty, (world.site i).cache.store⟩ } := by
  rw [on_purge_eq]
  rcases world.site_cases i with ⟨hinside, -⟩ | ⟨hdefault, hset⟩
  · exact site_setSite_self hinside _ _
  · rw [hset]
    show world.site i = _
    rw [hdefault]
    rfl

/-- A purge adds no site and takes none away. -/
theorem World.length_sites_purge (world : World) (i : Nat) :
    (on (Engine.purge i) world).2.sites.length = world.sites.length := by
  rw [on_purge_eq]
  exact List.length_set

/-! ## What is kept and counted -/

section Keeping

variable [FileSystem]

/-- What a world keeps, it keeps along a resolve. -/
theorem World.kept_subset_resolve (world : World) (i : Nat) (template : TemplateId) :
    world.kept ⊆ (on (Engine.resolve i template) world).2.kept := by
  obtain ⟨result, hresult, hrun⟩ := on_resolve i template world
  rw [hrun]
  exact World.kept_subset_setSite hresult.keys_subset

/-- What is kept after a resolve was kept before it, or is what was asked for. -/
theorem World.kept_resolve_subset (world : World) (i : Nat) (template : TemplateId) :
    (on (Engine.resolve i template) world).2.kept ⊆ template :: world.kept := by
  obtain ⟨result, hresult, hrun⟩ := on_resolve i template world
  rw [hrun]
  intro other hother
  rcases World.mem_kept_setSite hother with hold | hkey
  · exact List.mem_cons_of_mem _ hold
  · rcases List.mem_cons.mp (hresult.keys_subset_cons hkey) with rfl | hheld
    · exact List.mem_cons_self
    · exact List.mem_cons_of_mem _ (world.keys_site_subset i hheld)

/-- What a site has answered is kept. -/
theorem World.mem_kept_resolve {world : World} {i : Nat} {template : TemplateId}
    {artifact : Artifact} (hok : (on (Engine.resolve i template) world).1 = .ok artifact) :
    template ∈ (on (Engine.resolve i template) world).2.kept := by
  rcases world.site_cases i with ⟨hinside, -⟩ | ⟨hdefault, hset⟩
  · obtain ⟨result, hresult, hrun⟩ := on_resolve i template world
    rw [hrun] at hok ⊢
    exact World.mem_kept.mpr ⟨_, List.mem_set hinside _, hresult.mem_keys hok⟩
  · rw [on_resolve_default template hdefault hset] at hok
    cases hok

/-- A resolve adds no site and takes none away. -/
theorem World.length_sites_resolve (world : World) (i : Nat) (template : TemplateId) :
    (on (Engine.resolve i template) world).2.sites.length = world.sites.length := by
  obtain ⟨result, _, hrun⟩ := on_resolve i template world
  rw [hrun]
  exact List.length_set

theorem Engine.Trail.clock_eq [Substrate] {start next : World} {refused : Bool}
    (h : Trail start refused next) :
    next.host.clock = start.host.clock := by
  induction h with
  | refl => rfl
  | arrange components views streams _ ih => exact ih
  | hold site template hscript _ ih => exact ih
  | resolve site template _ ih =>
      obtain ⟨result, hresult, hrun⟩ := on_resolve site template _
      rw [hrun]
      exact hresult.clock_eq.trans ih

/-- A trail that ends with a source that does not compile has compiled it. -/
theorem Engine.Trail.compiles_le [Substrate] {start next : World} {refused : Bool}
    (h : Trail start refused next) :
    start.host.compiles + refused.toNat ≤ next.host.compiles := by
  induction h with
  | refl => exact Nat.le_refl _
  | arrange components views streams _ ih => exact ih
  | hold site template hscript _ ih => exact ih
  | resolve site template _ ih =>
      obtain ⟨result, hresult, hrun⟩ := on_resolve site template _
      rw [hrun]
      have hcount := hresult.compiles_le
      exact Nat.le_trans (Nat.add_le_add_right ih _) hcount

end Keeping

end Stencil
