import Stencil.Proofs.Cache.Folder
import Stencil.Proofs.Engine.Sites

/-! # Ledgers — what engines over one cache folder answer, without memories and files

    A ledger lists what each engine has answered for each template, and what was
    kept in the folder under each digest, the latest first.  An engine answers what
    it answered before, then what the folder has, as long as that is not older than
    its source; else it compiles.  The memories of the engines and the files of the
    folder are such a ledger before every resolve and after it.

    Headline: `Ledger.Fits.resolve`. -/

namespace Stencil

open Engine

variable [FileSystem]

/-! ## Ledgers -/

/-- What engines over one folder have answered for templates, and what was kept in the folder under
    the digests of their keys, the latest first. -/
structure Ledger where
  held : List ((Nat × TemplateId) × Build)
  kept : List (String × Build)

/-- What compiling the source of a template at a site comes to. -/
def World.own (world : World) (i : Nat) (template : TemplateId) : Except Fault (List Char) :=
  (world.site i).sources.compiled (world.site i).ns.toList world.host.files template

/-- Whether only folders lie above the folder of a path that ends in a link. -/
def Stands (path : Location) (files : FileTree) : Prop :=
  Store.isLinked path = true → files.isFolder (Store.folder path) = true →
    ∀ above ∈ FileTree.wayTo (Store.folder path), files.file? above = none

/-- Whether engines over a folder find there what they keep. -/
def World.shares (world : World) (path : Location) : Bool :=
  (world.opened (some path)).1.any Store.enabled

namespace Ledger

/-- The build that a site need not make anew: it has answered it before, or the folder has it. -/
def build? (ledger : Ledger) (i : Nat) (template : TemplateId) (changed : Binary64) :
    Option Build :=
  ((ledger.held.lookup (i, template)).filter fun build => changed.le build.storedAt).or
    ((ledger.kept.lookup template.cacheKey).filter fun build => changed.le build.storedAt)

/-- What a site answers for a template, and whether that is compiled now. -/
def answer (ledger : Ledger) (world : World) (i : Nat) (template : TemplateId) :
    Except Fault (Build × Bool) :=
  match (world.site i).sources.sourceFile world.host.files template with
  | .error fault => .error fault
  | .ok file =>
    match ledger.build? i template file.changed with
    | some build => .ok (build, false)
    | none => (world.own i template).map fun code =>
        (⟨code, world.host.clock.largest file.changed⟩, true)

/-- The ledger after a site was asked for a template. -/
def resolved (ledger : Ledger) (path : Location) (world : World) (i : Nat)
    (template : TemplateId) : Ledger :=
  match ledger.answer world i template with
  | .error _ => ledger
  | .ok (build, isNew) => {
      held := ((i, template), build) :: ledger.held
      kept := if isNew && world.shares path then (template.cacheKey, build) :: ledger.kept
        else ledger.kept }

end Ledger

/-! ## Worlds that are as a ledger says -/

/-- Whether the memories of a world and the folder that its engines share are as a ledger says. -/
structure Ledger.Fits (ledger : Ledger) (setups : List Setup) (path : Location) (world : World) :
    Prop where
  clock : world.host.clock.IsCanonical
  times : ∀ place file, world.host.files.file? place = some file → file.changed.IsCanonical
  keeps : KeptIn ledger.kept (Store.folder path) world.host.files
  stands : Stands path world.host.files
  alone : world.shares path = false → ledger.kept = []
  store : ∀ site ∈ world.sites, site.cache.store = (world.opened (some path)).1
  setup : ∀ site ∈ world.sites,
    ∃ setup ∈ setups, site.sources = setup.sources ∧ site.ns = setup.ns
  memory : ∀ i template, ((world.site i).cache.memory.get? template).map Entry.shown
    = (ledger.held.lookup (i, template)).map Build.shown

namespace Ledger

variable {ledger : Ledger} {setups : List Setup} {path : Location} {world : World} {i : Nat}
  {template : TemplateId} {file : File} {build : Build}

/-! ### Answers -/

theorem answer_of_missing {fault : Fault}
    (hfile : (world.site i).sources.sourceFile world.host.files template = .error fault) :
    ledger.answer world i template = .error fault := by
  rw [answer, hfile]

theorem answer_of_build? (hfile : (world.site i).sources.sourceFile world.host.files template
      = .ok file) (hbuild : ledger.build? i template file.changed = some build) :
    ledger.answer world i template = .ok (build, false) := by
  rw [answer, hfile]
  simp only [hbuild]

theorem answer_of_own (hfile : (world.site i).sources.sourceFile world.host.files template
      = .ok file) (hbuild : ledger.build? i template file.changed = none) :
    ledger.answer world i template = (world.own i template).map fun code =>
      (⟨code, world.host.clock.largest file.changed⟩, true) := by
  rw [answer, hfile]
  simp only [hbuild]

theorem resolved_of_error {fault : Fault} (h : ledger.answer world i template = .error fault) :
    ledger.resolved path world i template = ledger := by
  rw [resolved, h]

theorem resolved_of_ok {isNew : Bool} (h : ledger.answer world i template = .ok (build, isNew)) :
    ledger.resolved path world i template = ⟨((i, template), build) :: ledger.held,
      if isNew && world.shares path then (template.cacheKey, build) :: ledger.kept
      else ledger.kept⟩ := by
  rw [resolved, h]

omit [FileSystem] in
theorem lookup_hold (held : List ((Nat × TemplateId) × Build)) (build : Build) (j : Nat)
    (other : TemplateId) : List.lookup (j, other) (((i, template), build) :: held)
      = if j = i ∧ other = template then some build else held.lookup (j, other) := by
  rw [lookup_cons_if]
  simp only [Prod.mk.injEq]

/-! ### Folders that are shared -/

/-- Above the folder nothing changes if nothing changes outside it. -/
theorem file?_above {kept others : List (String × Build)} {files next : FileTree}
    (hfiles : KeptIn kept (Store.folder path) files)
    (hnext : KeptIn others (Store.folder path) next)
    (houtside : ∀ place, (Store.folder path).isWithin place = false →
      next.file? place = files.file? place) {above : Location}
    (habove : above ∈ FileTree.wayTo (Store.folder path)) :
    next.file? above = files.file? above := by
  have hlength := FileTree.length_le_of_mem_wayTo habove
  cases hwithin : (Store.folder path).isWithin above with
  | false => exact houtside above hwithin
  | true =>
      rw [hfiles.file?_of_length_le hwithin (by omega),
        hnext.file?_of_length_le hwithin (by omega)]

/-- While nothing changes outside the folder, its store stays the same. -/
theorem opened_eq {kept others : List (String × Build)} {next : World}
    (hswitch : next.switch = world.switch)
    (hworld : KeptIn kept (Store.folder path) world.host.files)
    (hnext : KeptIn others (Store.folder path) next.host.files)
    (houtside : ∀ place, (Store.folder path).isWithin place = false →
      next.host.files.file? place = world.host.files.file? place)
    (hfolder : Store.isLinked path = true → next.host.files.isFolder (Store.folder path)
      = world.host.files.isFolder (Store.folder path)) :
    (next.opened (some path)).1 = (world.opened (some path)).1 := by
  have hway : ∀ above ∈ FileTree.wayTo (Store.folder path),
      next.host.files.file? above = world.host.files.file? above :=
    fun _ => file?_above hworld hnext houtside
  have henabled : (Store.make next.host.files path).1.enabled
      = (Store.make world.host.files path).1.enabled := by
    cases hlinked : Store.isLinked path with
    | true => rw [Store.enabled_make_of_isLinked hlinked, Store.enabled_make_of_isLinked hlinked,
        hfolder hlinked]
    | false =>
        rw [Bool.eq_iff_iff, Store.enabled_make_iff hlinked, Store.enabled_make_iff hlinked]
        constructor
        · exact fun h above habove => hway above habove ▸ h above habove
        · exact fun h above habove => (hway above habove).trans (h above habove)
  have hstore : (Store.make next.host.files path).1 = (Store.make world.host.files path).1 := by
    rw [Store.make_fst, henabled, ← Store.make_fst]
  rw [World.opened, World.opened, hswitch]
  split
  · exact congrArg some hstore
  · rfl

/-- An engine over a folder has no store, or one in the folder, which is shared if it is
    enabled. -/
theorem opened_cases (h : Stands path world.host.files) :
    ((world.opened (some path)).1 = some ⟨Store.folder path, true, path, Store.isLinked path⟩
        ∧ world.shares path = true
        ∧ (∀ above ∈ FileTree.wayTo (Store.folder path), world.host.files.file? above = none)
        ∧ (Store.isLinked path = true → world.host.files.isFolder (Store.folder path) = true))
      ∨ ((∀ store ∈ (world.opened (some path)).1, store.enabled = false)
        ∧ world.shares path = false) := by
  rw [World.shares, World.opened]
  split
  case isFalse => exact .inr ⟨by rintro _ ⟨⟩, rfl⟩
  case isTrue =>
    have hmake := Store.make_fst world.host.files path
    cases henabled : (Store.make world.host.files path).1.enabled with
    | false => exact .inr ⟨by rintro _ ⟨⟩; exact henabled, henabled⟩
    | true =>
        rw [henabled] at hmake
        have hfolder (hlinked : Store.isLinked path = true) :
            world.host.files.isFolder (Store.folder path) = true := by
          rw [Store.enabled_make_of_isLinked hlinked] at henabled
          exact (Bool.and_eq_true_iff.mp henabled).2
        refine .inl ⟨congrArg some hmake, henabled, ?_, hfolder⟩
        cases hlinked : Store.isLinked path with
        | true => exact h hlinked (hfolder hlinked)
        | false => exact (Store.enabled_make_iff hlinked).mp henabled

/-! ### New engines -/

/-- Making the folder makes no other folder below it. -/
theorem node?_opened {there : Location}
    (h : (world.opened (some path)).2.node? there = some .folder) :
    there.length ≤ (Store.folder path).length ∨ world.host.files.node? there = some .folder := by
  rw [World.opened] at h
  split at h
  case isFalse => exact .inr h
  case isTrue =>
    rcases Store.make_snd_cases world.host.files path with hsame | ⟨-, made, hmade, hsame⟩
    · rw [hsame] at h
      exact .inr h
    · rw [hsame, FileTree.node?_makeFolders? hmade] at h
      split at h
      case isTrue hway => exact .inl (FileTree.length_le_of_mem_wayTo hway)
      case isFalse => exact .inr h

/-- No folder is made in the place of a link. -/
theorem isFolder_opened (hlinked : Store.isLinked path = true) :
    (world.opened (some path)).2.isFolder (Store.folder path)
      = world.host.files.isFolder (Store.folder path) := by
  rw [World.opened]
  split
  · rcases Store.make_snd_cases world.host.files path with hsame | ⟨hfree, -⟩
    · rw [hsame]
    · exact absurd (hlinked.symm.trans hfree) (by simp)
  · rfl

namespace Fits

/-- Before anything happened, the ledger is empty. -/
theorem start (hsites : world.sites = []) (hdir : world.host.files.file? (Store.folder path) = none)
    (hempty : ∀ place, (Store.folder path).isWithin place → place ≠ Store.folder path →
      world.host.files.node? place = none)
    (htimes : ∀ place file, world.host.files.file? place = some file → file.changed.IsCanonical)
    (hclock : world.host.clock.IsCanonical) (hstands : Stands path world.host.files) :
    Fits ⟨[], []⟩ setups path world where
  clock := hclock
  times := htimes
  keeps := .empty hdir hempty
  stands := hstands
  alone _ := rfl
  store site hsite := by
    rw [hsites] at hsite
    exact nomatch hsite
  setup site hsite := by
    rw [hsites] at hsite
    exact nomatch hsite
  memory i template := by
    rw [World.site, hsites]
    rfl

/-- The time that the clock shows is in no ledger. -/
theorem tick (h : ledger.Fits setups path world) {clock : Binary64} (hclock : clock.IsCanonical) :
    ledger.Fits setups path { world with host := { world.host with clock } } where
  clock := hclock
  times := h.times
  keeps := h.keeps
  stands := h.stands
  alone := h.alone
  store := h.store
  setup := h.setup
  memory := h.memory

/-- A site with nothing in memory has answered nothing. -/
theorem add (h : ledger.Fits setups path world) {site : Site} (hmemory : site.cache.memory = .empty)
    (hstore : site.cache.store = (world.opened (some path)).1)
    (hsetup : ∃ setup ∈ setups, site.sources = setup.sources ∧ site.ns = setup.ns) :
    ledger.Fits setups path { world with sites := world.sites ++ [site] } where
  clock := h.clock
  times := h.times
  keeps := h.keeps
  stands := h.stands
  alone := h.alone
  store other hother := by
    rcases List.mem_append.mp hother with hold | hnew
    · exact h.store other hold
    · rw [List.mem_singleton.mp hnew]
      exact hstore
  setup other hother := by
    rcases List.mem_append.mp hother with hold | hnew
    · exact h.setup other hold
    · rw [List.mem_singleton.mp hnew]
      exact hsetup
  memory j template := by
    rw [World.site_concat]
    by_cases hj : j = world.sites.length
    · -- before, there was no site of this number
      have hnone := h.memory j template
      rw [World.site, List.getElem?_eq_none (Nat.le_of_eq hj.symm)] at hnone
      rw [if_pos hj, hmemory]
      exact hnone
    · rw [if_neg hj]
      exact h.memory j template

theorem construct (h : ledger.Fits setups path world) {setup : Setup} (hsetup : setup ∈ setups)
    (hcache : setup.cache = some path) :
    ledger.Fits setups path (on (openSite setup) world).2 := by
  have hfiles := world.file?_opened (some path)
  have hkeeps := h.keeps.of_folders hfiles fun _ => node?_opened
  have hopened : ((world.withFiles (world.opened (some path)).2).opened (some path)).1
      = (world.opened (some path)).1 :=
    opened_eq rfl h.keeps hkeeps (fun place _ => hfiles place) isFolder_opened
  have hmade : ledger.Fits setups path (world.withFiles (world.opened (some path)).2) := by
    refine ⟨h.clock, ?_, hkeeps, ?_, ?_, ?_, h.setup, h.memory⟩
    · exact fun place file hplace => h.times place file ((hfiles place).symm.trans hplace)
    · intro hlinked hfolder above habove
      exact (hfiles above).trans (h.stands hlinked (isFolder_opened hlinked ▸ hfolder) above habove)
    · rw [World.shares, hopened]
      exact h.alone
    · rw [hopened]
      exact h.store
  rw [on_openSite_eq, hcache]
  split
  case isTrue => exact hmade.add rfl hopened.symm ⟨setup, hsetup, rfl, rfl⟩
  case isFalse => exact hmade

end Fits

/-! ### One resolve -/

namespace Fits

/-- A fresh entry in memory is what the site has answered. -/
theorem fresh? (h : ledger.Fits setups path world) (i : Nat) (template : TemplateId)
    (changed : Binary64) :
    ((world.site i).cache.fresh? template changed).map Entry.shown
      = ((ledger.held.lookup (i, template)).filter fun build =>
        changed.le build.storedAt).map Build.shown :=
  map_filter_shown (h.memory i template) changed

/-- What a site has not answered since its source changed is not fresh in its memory. -/
theorem stale (h : ledger.Fits setups path world)
    (hheld : ((ledger.held.lookup (i, template)).filter fun build =>
      file.changed.le build.storedAt) = none) :
    (world.site i).cache.fresh? template file.changed = none := by
  have hfresh := h.fresh? i template file.changed
  rw [hheld] at hfresh
  exact Option.map_eq_none_iff.mp hfresh

/-- What the store of a site has for a template is what was kept. -/
theorem stored (h : ledger.Fits setups path world) (hsite : world.site i ∈ world.sites)
    (template : TemplateId) (changed : Binary64) :
    ∃ found, (world.site i).cache.stored world.host.files template changed = .ok found
      ∧ found.map Stored.shown = ((ledger.kept.lookup template.cacheKey).filter fun build =>
        changed.le build.storedAt).map Build.shown := by
  rcases opened_cases h.stands with ⟨hopened, -, -, -⟩ | ⟨hdisabled, hshares⟩
  · obtain ⟨found, hfind, hshown⟩ := h.keeps.find template
    refine ⟨found.filter fun stored => changed.le stored.storedAt, ?_,
      map_filter_shown hshown changed⟩
    rw [Cache.stored, (h.store _ hsite).trans hopened]
    show (do return (← (Store.upon (Store.folder path)).find _ template).filter _) = _
    rw [hfind]
    rfl
  · refine ⟨none, ?_, by rw [h.alone hshares]; rfl⟩
    rw [Cache.stored, h.store _ hsite]
    cases hopened : (world.opened (some path)).1 with
    | none => rfl
    | some store =>
        simp only [Store.find_of_disabled (hdisabled store hopened)]
        rfl

/-- A world in which the cache of one site and the host are others is as another ledger says, if
    they are and the ledgers agree on the other sites. -/
theorem step (h : ledger.Fits setups path world) (hi : i < world.sites.length) {next : Ledger}
    {cache : Cache} {host : Host} (hstore : cache.store = (world.site i).cache.store)
    (hclock : host.clock = world.host.clock)
    (htimes : ∀ place file, host.files.file? place = some file → file.changed.IsCanonical)
    (houtside : ∀ place, (Store.folder path).isWithin place = false →
      host.files.file? place = world.host.files.file? place)
    (hfolder : Store.isLinked path = true →
      host.files.isFolder (Store.folder path) = world.host.files.isFolder (Store.folder path))
    (hkeeps : KeptIn next.kept (Store.folder path) host.files)
    (halone : world.shares path = false → next.kept = [])
    (hmemory : ∀ other, (cache.memory.get? other).map Entry.shown
      = (next.held.lookup (i, other)).map Build.shown)
    (hothers : ∀ j other, j ≠ i → next.held.lookup (j, other) = ledger.held.lookup (j, other)) :
    next.Fits setups path { (world.setSite i { world.site i with cache }) with host } := by
  have hopened : (World.opened { (world.setSite i { world.site i with cache }) with host }
      (some path)).1 = (world.opened (some path)).1 :=
    opened_eq rfl h.keeps hkeeps houtside hfolder
  have hmem := World.site_mem hi
  constructor
  case clock => exact hclock ▸ h.clock
  case times => exact htimes
  case keeps => exact hkeeps
  case stands =>
    intro hlinked hthere above habove
    exact (file?_above h.keeps hkeeps houtside habove).trans
      (h.stands hlinked (hfolder hlinked ▸ hthere) above habove)
  case alone =>
    intro hshares
    rw [World.shares, hopened] at hshares
    exact halone hshares
  case store =>
    rw [hopened]
    exact World.forall_setSite h.store fun _ => hstore.trans (h.store _ hmem)
  case setup =>
    exact World.forall_setSite h.setup fun _ => h.setup (world.site i) hmem
  case memory =>
    intro j other
    show ((World.site (world.setSite i { world.site i with cache }) j).cache.memory.get?
      other).map _ = _
    rw [World.site_setSite hi]
    by_cases hj : j = i
    · rw [if_pos hj, hj]
      exact hmemory other
    · rw [if_neg hj, hothers j other hj]
      exact h.memory j other

/-- A resolve that fails leaves the ledger as it was. -/
theorem failed (h : ledger.Fits setups path world) (hi : i < world.sites.length) {host : Host}
    (hclock : host.clock = world.host.clock) (hfiles : host.files = world.host.files) :
    ledger.Fits setups path
      { (world.setSite i { world.site i with cache := (world.site i).cache }) with host } :=
  h.step hi rfl hclock (hfiles ▸ h.times) (fun _ _ => by rw [hfiles]) (fun _ => by rw [hfiles])
    (hfiles ▸ h.keeps) h.alone
    (h.memory i) fun _ _ _ => rfl

/-- A site that holds a build for a template has answered it. -/
theorem holds (h : ledger.Fits setups path world) (hi : i < world.sites.length)
    {memory : Table TemplateId Entry} {entry : Entry} (hshown : entry.shown = build.shown)
    (hmemory : ∀ other, memory.get? other = if other = template then some entry
      else (world.site i).cache.memory.get? other)
    {kept : List (String × Build)} {host : Host} (hclock : host.clock = world.host.clock)
    (htimes : ∀ place file, host.files.file? place = some file → file.changed.IsCanonical)
    (houtside : ∀ place, (Store.folder path).isWithin place = false →
      host.files.file? place = world.host.files.file? place)
    (hfolder : Store.isLinked path = true →
      host.files.isFolder (Store.folder path) = world.host.files.isFolder (Store.folder path))
    (hkeeps : KeptIn kept (Store.folder path) host.files)
    (halone : world.shares path = false → kept = []) :
    Fits ⟨((i, template), build) :: ledger.held, kept⟩ setups path
      { (world.setSite i { world.site i with
        cache := ⟨memory, (world.site i).cache.store⟩ }) with host } := by
  refine h.step hi rfl hclock htimes houtside hfolder hkeeps halone ?_ ?_
  · intro other
    rw [hmemory, lookup_hold]
    by_cases hother : other = template
    · rw [if_pos hother, if_pos ⟨rfl, hother⟩]
      exact congrArg some hshown
    · rw [if_neg hother, if_neg fun hboth => hother hboth.2]
      exact h.memory i other
  · intro j other hj
    rw [lookup_hold, if_neg fun hboth => hj hboth.1]

/-- After a build was kept in the store of a site, if it has one, the folder is as the ledger
    says. -/
theorem filesWith (h : ledger.Fits setups path world) (hsite : world.site i ∈ world.sites)
    (template : TemplateId) (hcanonical : build.storedAt.IsCanonical) {files : FileTree}
    (hfiles : (world.site i).cache.filesWith world.host.files template (String.ofList build.code)
      build.storedAt world.host.clock = files) :
    KeptIn (if world.shares path then (template.cacheKey, build) :: ledger.kept else ledger.kept)
        (Store.folder path) files
      ∧ (∀ place file, files.file? place = some file → file.changed.IsCanonical)
      ∧ (∀ place, (Store.folder path).isWithin place = false →
        files.file? place = world.host.files.file? place)
      ∧ (Store.isLinked path = true → files.isFolder (Store.folder path)
        = world.host.files.isFolder (Store.folder path)) := by
  rw [Cache.filesWith, h.store _ hsite] at hfiles
  rcases opened_cases h.stands with ⟨hopened, hshares, hdir, hfolder⟩ | ⟨hdisabled, hshares⟩
  · rw [hopened] at hfiles
    change (Store.upon (Store.folder path)).keep _ _ _ _ _ = files at hfiles
    subst hfiles
    -- that the entry is written at all needs the depths; what else it changes does not
    have hkeep := Store.file?_keep (.upon (Store.folder path)) world.host.files template
      (String.ofList build.code) build.storedAt world.host.clock
    rw [hshares, if_pos rfl]
    refine ⟨h.keeps.keep hdir template hcanonical _, ?_, ?_, ?_⟩
    · intro place file hplace
      rcases hkeep place with hsame | ⟨-, hwritten⟩
      · exact h.times place file (hsame ▸ hplace)
      · rw [hwritten] at hplace
        exact Option.some.inj hplace ▸ h.clock
    · intro place hplace
      rcases hkeep place with hsame | ⟨hentry, -⟩
      · exact hsame
      · rw [hentry, Store.place_isWithin (.upon (Store.folder path))] at hplace
        cases hplace
    · intro hlinked
      rw [hfolder hlinked]
      exact @Store.isFolder_keep (.upon (Store.folder path)) _ (hfolder hlinked) _ _ _ _
  · have hsame : files = world.host.files := by
      rw [← hfiles]
      cases hopened : (world.opened (some path)).1 with
      | none => rfl
      | some store =>
          simp only [Store.keep_eq, hdisabled store hopened, Bool.false_eq_true, if_false]
    rw [hshares, if_neg Bool.false_ne_true, hsame]
    exact ⟨h.keeps, h.times, fun _ _ => rfl, fun _ => rfl⟩

/-- Whether a resolve comes to what the ledger answers, and leads to a world that is as the ledger
    then says, with every file outside the folder as it was. -/
def Resolves (ledger : Ledger) (setups : List Setup) (path : Location) (world : World) (i : Nat)
    (template : TemplateId) : Prop :=
  (on (Engine.resolve i template) world).1.map Artifact.code
      = (ledger.answer world i template).map (fun answer => .text (String.ofList answer.1.code))
    ∧ (ledger.resolved path world i template).Fits setups path
      (on (Engine.resolve i template) world).2
    ∧ ∀ place, (Store.folder path).isWithin place = false →
      (on (Engine.resolve i template) world).2.host.files.file? place
        = world.host.files.file? place

theorem resolves_missing (h : ledger.Fits setups path world) (hi : i < world.sites.length)
    {fault : Fault}
    (hfile : (world.site i).sources.sourceFile world.host.files template = .error fault) :
    Resolves ledger setups path world i template := by
  rw [Resolves, on_resolve_eq, Cache.resolve_of_missing hfile, answer_of_missing hfile,
    resolved_of_error (answer_of_missing hfile)]
  exact ⟨rfl, h.failed hi rfl rfl, fun _ _ => rfl⟩

/-- A site that has answered a template answers it again. -/
theorem resolves_held (h : ledger.Fits setups path world) (hi : i < world.sites.length)
    (hfile : (world.site i).sources.sourceFile world.host.files template = .ok file)
    (hheld : ((ledger.held.lookup (i, template)).filter fun build =>
      file.changed.le build.storedAt) = some build) :
    Resolves ledger setups path world i template := by
  have hanswer : ledger.answer world i template = .ok (build, false) := by
    refine answer_of_build? hfile ?_
    rw [build?, hheld, Option.some_or]
  obtain ⟨entry, hentry, hshown⟩ : ∃ entry,
      (world.site i).cache.fresh? template file.changed = some entry
        ∧ entry.shown = build.shown := by
    have hfresh := h.fresh? i template file.changed
    rw [hheld] at hfresh
    exact Option.map_eq_some_iff.mp hfresh
  -- nothing is put in memory, but what is there counts as held once more
  have hmemory : ∀ other, (world.site i).cache.memory.get? other
      = if other = template then some entry
        else (world.site i).cache.memory.get? other := by
    intro other
    split
    case isTrue heq => rw [heq, (Option.filter_eq_some_iff.mp hentry).1]
    case isFalse => rfl
  rw [Resolves, on_resolve_eq, Cache.resolve_of_fresh hfile hentry, hanswer,
    resolved_of_ok hanswer]
  refine ⟨congrArg Except.ok (Prod.mk.inj hshown).1, ?_, fun _ _ => rfl⟩
  exact h.holds hi hshown hmemory rfl h.times (fun _ _ => rfl) (fun _ => rfl) h.keeps h.alone

/-- Otherwise a site answers what the folder has. -/
theorem resolves_kept (h : ledger.Fits setups path world) (hi : i < world.sites.length)
    (hfile : (world.site i).sources.sourceFile world.host.files template = .ok file)
    (hheld : ((ledger.held.lookup (i, template)).filter fun build =>
      file.changed.le build.storedAt) = none)
    (hkept : ((ledger.kept.lookup template.cacheKey).filter fun build =>
      file.changed.le build.storedAt) = some build) :
    Resolves ledger setups path world i template := by
  have hanswer : ledger.answer world i template = .ok (build, false) := by
    refine answer_of_build? hfile ?_
    rw [build?, hheld, hkept, Option.none_or]
  obtain ⟨found, hfound, hshown⟩ := h.stored (World.site_mem hi) template file.changed
  rw [hkept] at hshown
  obtain ⟨entry, rfl, hentry⟩ := Option.map_eq_some_iff.mp hshown
  rw [Resolves, on_resolve_eq, Cache.resolve_of_stale hfile (h.stale hheld), hfound, hanswer,
    resolved_of_ok hanswer]
  refine ⟨congrArg Except.ok (Prod.mk.inj hentry).1, ?_, fun _ _ => rfl⟩
  have hadopted : Entry.shown ⟨entry.artifact world.host.stamps, entry.storedAt⟩ = build.shown :=
    hentry
  exact h.holds hi hadopted (Table.get?_put_if _ _ _) rfl h.times (fun _ _ => rfl)
    (fun _ => rfl) h.keeps h.alone

/-- Otherwise a site compiles its source. -/
theorem resolves_own (h : ledger.Fits setups path world) (hi : i < world.sites.length)
    (hfile : (world.site i).sources.sourceFile world.host.files template = .ok file)
    (hheld : ((ledger.held.lookup (i, template)).filter fun build =>
      file.changed.le build.storedAt) = none)
    (hkept : ((ledger.kept.lookup template.cacheKey).filter fun build =>
      file.changed.le build.storedAt) = none) :
    Resolves ledger setups path world i template := by
  have hnone : ledger.build? i template file.changed = none := by
    rw [build?, hheld, hkept, Option.none_or]
  have hanswer := answer_of_own hfile hnone
  obtain ⟨found, hfound, hshown⟩ := h.stored (World.site_mem hi) template file.changed
  rw [hkept] at hshown
  obtain rfl := Option.map_eq_none_iff.mp hshown
  have hown : world.own i template = (do
      let text ← Sources.textOf file
      (Directive.compile (world.site i).ns.toList Directive.standardRules text).mapError
        (.uncompilable template)) := Sources.compiled_of_file hfile
  rw [Resolves, on_resolve_eq, Cache.resolve_of_stale hfile (h.stale hheld), hfound]
  cases htext : Sources.textOf file with
  | error fault =>
      rw [htext] at hown
      rw [hown] at hanswer
      rw [Cache.build_of_unreadable hfile htext, hanswer, resolved_of_error hanswer]
      exact ⟨rfl, h.failed hi rfl rfl, fun _ _ => rfl⟩
  | ok text =>
      rw [htext] at hown
      change _ = (Directive.compile _ _ text).mapError _ at hown
      cases hcompile : Directive.compile (world.site i).ns.toList Directive.standardRules text with
      | error error =>
          rw [hcompile] at hown
          rw [hown] at hanswer
          rw [Cache.build_of_refused hfile htext hcompile, hanswer, resolved_of_error hanswer]
          exact ⟨rfl, h.failed hi rfl rfl, fun _ _ => rfl⟩
      | ok code =>
          rw [hcompile] at hown
          rw [hown] at hanswer
          rw [Cache.build_of_compile hfile htext hcompile, hanswer, resolved_of_ok hanswer,
            Bool.true_and]
          -- the time is read back as it was written only if it is canonical
          have hcanonical : (world.host.clock.largest file.changed).IsCanonical := by
            obtain ⟨place, -, hplace⟩ := Sources.sourceFile_eq_ok_iff.mp hfile
            exact h.clock.largest (h.times place file hplace)
          obtain ⟨hkeeps, htimes, houtside, hfolder⟩ :=
            @filesWith _ ledger setups path world i
              ⟨code, world.host.clock.largest file.changed⟩ h (World.site_mem hi) template
              hcanonical _ rfl
          refine ⟨rfl, ?_, houtside⟩
          refine h.holds hi rfl (Table.get?_put_if _ _ _) rfl htimes houtside hfolder hkeeps ?_
          intro hshares
          rw [hshares, if_neg Bool.false_ne_true, h.alone hshares]

/-- From a world that is as a ledger says, resolving gives what the ledger answers, and leads to a
    world that is as the ledger then says. -/
theorem resolve (h : ledger.Fits setups path world) (i : Nat) (template : TemplateId) :
    Resolves ledger setups path world i template := by
  rcases world.site_cases i with ⟨hi, -⟩ | ⟨hdefault, hset⟩
  · -- the memory is asked first, then the folder, and last the source is compiled
    cases hfile : (world.site i).sources.sourceFile world.host.files template with
    | error fault => exact h.resolves_missing hi hfile
    | ok file =>
        cases hheld : (ledger.held.lookup (i, template)).filter fun build =>
            file.changed.le build.storedAt with
        | some build => exact h.resolves_held hi hfile hheld
        | none =>
            cases hkept : (ledger.kept.lookup template.cacheKey).filter fun build =>
                file.changed.le build.storedAt with
            | some build => exact h.resolves_kept hi hfile hheld hkept
            | none => exact h.resolves_own hi hfile hheld hkept
  · have hmissing : (world.site i).sources.sourceFile world.host.files template
        = .error (.notFound template none) := by
      rw [hdefault]
      rfl
    rw [Resolves, on_resolve_default template hdefault hset, answer_of_missing hmissing,
      resolved_of_error (answer_of_missing hmissing)]
    exact ⟨rfl, h, fun _ _ => rfl⟩

end Fits

end Ledger

end Stencil
