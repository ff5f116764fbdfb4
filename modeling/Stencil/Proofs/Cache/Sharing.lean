import Stencil.Proofs.Cache.History
import Stencil.Proofs.Cache.Ledger

/-! # Sharing — engines of several configurations over one cache folder

    Entries are kept under the role and the name of their template, and say nothing
    of the namespace, the extension or the roots that they were compiled with.  So
    what an engine answers can be what another compiled: exactly what the ledger of
    the folder says.  Where the configurations do not differ for a template, that
    is what compiling its source comes to.

    Headline: `resolve_shared`. -/

namespace Stencil

open Engine

section Theory

variable [FileSystem]

/-! ## Histories -/

/-- The histories of engines of some configurations over a folder that was empty, with their
    ledgers and the worlds they lead to.  No source changes. -/
inductive Sharing (setups : List Setup) (path : Location) : Ledger → World → Prop
  | start {world : World} (hsites : world.sites = [])
      (hfolder : world.host.files.file? (Store.folder path) = none)
      (hempty : ∀ place, (Store.folder path).isWithin place → place ≠ Store.folder path →
        world.host.files.node? place = none) (hstands : Stands path world.host.files)
      (htimes : ∀ place file, world.host.files.file? place = some file → file.changed.IsCanonical)
      (hclock : world.host.clock.IsCanonical) : Sharing setups path ⟨[], []⟩ world
  | construct {ledger : Ledger} {world : World} {setup : Setup} (hsetup : setup ∈ setups)
      (hcache : setup.cache = some path) (h : Sharing setups path ledger world) :
      Sharing setups path ledger (on (openSite setup) world).2
  | tick {ledger : Ledger} {world : World} {clock : Binary64} (hclock : clock.IsCanonical)
      (h : Sharing setups path ledger world) :
      Sharing setups path ledger { world with host := { world.host with clock } }
  | resolve {ledger : Ledger} {world : World} (i : Nat) (template : TemplateId)
      (h : Sharing setups path ledger world) :
      Sharing setups path (ledger.resolved path world i template)
        (on (resolve i template) world).2

variable {setups : List Setup} {path : Location} {ledger : Ledger} {world : World}

/-- After every history the world is as its ledger says. -/
theorem Sharing.fits (h : Sharing setups path ledger world) : ledger.Fits setups path world := by
  induction h with
  | start hsites hfolder hempty hstands htimes hclock =>
      exact .start hsites hfolder hempty htimes hclock hstands
  | construct hsetup hcache _ ih => exact ih.construct hsetup hcache
  | tick hclock _ ih => exact ih.tick hclock
  | resolve i template _ ih => exact (ih.resolve i template).2.1

/-! ## Where builds come from -/

/-- What a configuration compiles for a template. -/
def Setup.compiled (setup : Setup) (tree : FileTree) (template : TemplateId) :
    Except Fault (List Char) :=
  setup.sources.compiled setup.ns.toList tree template

/-- The templates that some engine has answered. -/
def Ledger.templates (ledger : Ledger) : List TemplateId :=
  ledger.held.map fun entry => entry.1.2

/-- Whether a build is what one of the configurations compiles for one of some templates, of which
    the key has a digest. -/
def Build.Made (templates : List TemplateId) (setups : List Setup) (tree : FileTree)
    (digest : String) (build : Build) : Prop :=
  ∃ template ∈ templates, template.cacheKey = digest
    ∧ ∃ setup ∈ setups, setup.compiled tree template = .ok build.code

/-- Whether every build of a ledger is made by one of the configurations. -/
structure Ledger.Made (ledger : Ledger) (setups : List Setup) (tree : FileTree) : Prop where
  held : ∀ entry ∈ ledger.held,
    entry.2.Made ledger.templates setups tree entry.1.2.cacheKey
  kept : ∀ entry ∈ ledger.kept, entry.2.Made ledger.templates setups tree entry.1

theorem Build.Made.mono {templates others : List TemplateId} {tree : FileTree} {digest : String}
    {build : Build} (h : build.Made templates setups tree digest) (hsubset : templates ⊆ others) :
    build.Made others setups tree digest := by
  obtain ⟨template, hmem, hdigest, hmade⟩ := h
  exact ⟨template, hsubset hmem, hdigest, hmade⟩

/-- What changes nothing beside a folder apart from the roots leaves every build made. -/
theorem Ledger.Made.of_files {tree next : FileTree} (h : ledger.Made setups tree)
    (hapart : ∀ setup ∈ setups, setup.Apart (Store.folder path))
    (hfiles : tree.AgreeBeside (Store.folder path) next) : ledger.Made setups next := by
  have hbuild {digest : String} {build : Build}
      (hmade : build.Made ledger.templates setups tree digest) :
      build.Made ledger.templates setups next digest := by
    obtain ⟨template, hmem, hdigest, setup, hsetup, hcode⟩ := hmade
    refine ⟨template, hmem, hdigest, setup, hsetup, ?_⟩
    rw [← hcode]
    exact Sources.compiled_congr (Sources.Apart.agreeFor (hapart setup hsetup) hfiles template)
  exact ⟨fun entry hentry => hbuild (h.held entry hentry),
    fun entry hentry => hbuild (h.kept entry hentry)⟩

/-- Every store that an engine has is one in the folder. -/
theorem Ledger.Fits.dir_of_mem (h : ledger.Fits setups path world) (i : Nat) :
    ∀ store ∈ (world.site i).cache.store, store.dir = Store.folder path := by
  intro store hstore
  rcases world.site_cases i with ⟨-, hmem⟩ | ⟨hdefault, -⟩
  · rw [h.store _ hmem] at hstore
    obtain ⟨_, hpath, hdir⟩ := World.dir_of_mem_opened hstore
    rw [← hdir, ← Option.some.inj hpath]
  · rw [hdefault] at hstore
    cases hstore

/-- What a site compiles is what its configuration compiles. -/
theorem Ledger.Fits.own_eq (h : ledger.Fits setups path world) {i : Nat}
    (hsite : world.site i ∈ world.sites) (template : TemplateId) :
    ∃ setup ∈ setups, world.own i template = setup.compiled world.host.files template := by
  obtain ⟨setup, hsetup, hsources, hns⟩ := h.setup _ hsite
  refine ⟨setup, hsetup, ?_⟩
  rw [World.own, hsources, hns]
  rfl

/-- What a ledger answers is made by one of the configurations. -/
theorem Ledger.Made.answer (h : ledger.Made setups world.host.files)
    (hfits : ledger.Fits setups path world) {i : Nat} {template : TemplateId} {build : Build}
    {isNew : Bool} (hanswer : ledger.answer world i template = .ok (build, isNew)) :
    build.Made (template :: ledger.templates) setups world.host.files template.cacheKey := by
  cases hfile : (world.site i).sources.sourceFile world.host.files template with
  | error fault => exact nomatch (answer_of_missing hfile).symm.trans hanswer
  | ok file =>
      cases hbuild : ledger.build? i template file.changed with
      | some found =>
          rw [answer_of_build? hfile hbuild] at hanswer
          obtain ⟨rfl, -⟩ := Prod.mk.inj (Except.ok.inj hanswer)
          have hsubset := List.subset_cons_self template ledger.templates
          rcases Option.or_eq_some_iff.mp hbuild with hheld | ⟨-, hkept⟩
          · have hmem := mem_of_lookup (Option.filter_eq_some_iff.mp hheld).1
            exact (h.held _ hmem).mono hsubset
          · have hmem := mem_of_lookup (Option.filter_eq_some_iff.mp hkept).1
            exact (h.kept _ hmem).mono hsubset
      | none =>
          rw [answer_of_own hfile hbuild] at hanswer
          obtain ⟨setup, hsetup, hown⟩ := hfits.own_eq (World.site_mem_of_sourceFile hfile) template
          cases hcode : world.own i template with
          | error fault =>
              rw [hcode] at hanswer
              exact nomatch hanswer
          | ok code =>
              rw [hcode] at hanswer
              obtain ⟨rfl, -⟩ := Prod.mk.inj (Except.ok.inj hanswer)
              exact ⟨template, List.mem_cons_self, rfl, setup, hsetup, hown.symm.trans hcode⟩

/-- What is answered is added to the ledger, and is made like the rest. -/
theorem Ledger.Made.resolved (h : ledger.Made setups world.host.files)
    (hfits : ledger.Fits setups path world) (i : Nat) (template : TemplateId) :
    (ledger.resolved path world i template).Made setups world.host.files := by
  cases hanswer : ledger.answer world i template with
  | error fault =>
      rw [resolved_of_error hanswer]
      exact h
  | ok answer =>
      obtain ⟨build, isNew⟩ := answer
      have hnew := h.answer hfits hanswer
      have hsubset := List.subset_cons_self template ledger.templates
      rw [resolved_of_ok hanswer]
      constructor
      · intro entry hentry
        rcases List.mem_cons.mp hentry with rfl | hold
        · exact hnew
        · exact (h.held entry hold).mono hsubset
      · intro entry hentry
        split at hentry
        · rcases List.mem_cons.mp hentry with rfl | hold
          · exact hnew
          · exact (h.kept entry hold).mono hsubset
        · exact (h.kept entry hentry).mono hsubset

/-- After every history, every build is made by one of the configurations from its source. -/
theorem Sharing.made (h : Sharing setups path ledger world)
    (hapart : ∀ setup ∈ setups, setup.Apart (Store.folder path)) :
    ledger.Made setups world.host.files := by
  induction h with
  | start => exact ⟨fun entry hentry => (nomatch hentry), fun entry hentry => (nomatch hentry)⟩
  | @construct ledger world setup _ hcache _ ih =>
      refine ih.of_files hapart ?_
      rw [files_openSite, hcache]
      exact world.agreeBeside_opened path
  | tick _ _ ih => exact ih
  | @resolve ledger world i template h ih =>
      exact (ih.resolved h.fits i template).of_files hapart
        (World.agreeBeside_resolve (h.fits.dir_of_mem i) template)

/-! ## Every resolve answers what the ledger says -/

/-- Where the configurations compile a template to the same, so does the ledger. -/
theorem Sharing.answer_eq (h : Sharing setups path ledger world)
    (hapart : ∀ setup ∈ setups, setup.Apart (Store.folder path)) {i : Nat} {template : TemplateId}
    (hcollision : Sha1.CollisionFree ((template :: ledger.templates).map TemplateId.key))
    (hagree : ∀ setup ∈ setups, ∀ other ∈ setups, setup.compiled world.host.files template
      = other.compiled world.host.files template) :
    (ledger.answer world i template).map (fun answer => answer.1.code) = world.own i template := by
  cases hfile : (world.site i).sources.sourceFile world.host.files template with
  | error fault =>
      rw [Ledger.answer_of_missing hfile, World.own, Sources.compiled, hfile]
      rfl
  | ok file =>
      cases hbuild : ledger.build? i template file.changed with
      | none =>
          rw [Ledger.answer_of_own hfile hbuild]
          cases world.own i template <;> rfl
      | some build =>
          have hanswer := Ledger.answer_of_build? hfile hbuild
          obtain ⟨other, hother, hdigest, setup, hsetup, hcode⟩ :=
            (h.made hapart).answer h.fits hanswer
          -- an entry under this digest was made for this template
          obtain rfl := hcollision.eq List.mem_cons_self hother hdigest
          obtain ⟨own, hmem, hown⟩ := h.fits.own_eq (World.site_mem_of_sourceFile hfile) other
          rw [hanswer, hown, hagree own hmem setup hsetup, hcode]
          rfl

/-- **Shared folders**: every resolve over a folder that engines share gives the code that its
    engine has answered before, or that the folder has under the digest of the template, as long as
    that is no older than the source of the engine; otherwise it compiles that source.  Where the
    configurations compile the template to the same, it gives what the engine's own source compiles
    to, whatever came before. -/
theorem resolve_shared (history : Sharing setups path ledger world) (i : Nat)
    (template : TemplateId) :
    (on (resolve i template) world).1.map Artifact.code
        = (ledger.answer world i template).map (fun answer => .text (String.ofList answer.1.code))
      ∧ ((∀ setup ∈ setups, setup.Apart (Store.folder path)) →
        Sha1.CollisionFree ((template :: ledger.templates).map TemplateId.key) →
        (∀ setup ∈ setups, ∀ other ∈ setups, setup.compiled world.host.files template
          = other.compiled world.host.files template) →
        (on (resolve i template) world).1.map Artifact.code
          = (world.own i template).map (fun code => .text (String.ofList code))) := by
  have hresolve := (history.fits.resolve i template).1
  refine ⟨hresolve, ?_⟩
  intro hapart hcollision hagree
  rw [hresolve, ← history.answer_eq hapart hcollision hagree]
  cases ledger.answer world i template <;> rfl

end Theory

/-! ## Two engines and one template -/

section Witnesses

attribute [local instance] FileSystem.plain

/-- A template of one name. -/
def lone : TemplateId :=
  ⟨.component, "a"⟩

/-- A world with one source in it. -/
def World.single (text : String) : World :=
  World.blank.withFiles (World.blank.host.files.put ["site", "a.html"]
    (.file ⟨encodeText text, .zero false⟩))

theorem World.file?_single (text : String) (place : Location) :
    (single text).host.files.file? place
      = if place = ["site", "a.html"] then some ⟨encodeText text, .zero false⟩ else none := by
  rw [single, withFiles, FileTree.file?_put_file _ (by decide), file?_blank]

/-- Nothing has happened where there is one source. -/
theorem Sharing.single (setups : List Setup) (text : String) :
    Sharing setups ["cache"] ⟨[], []⟩ (World.single text) := by
  have hzero : (Binary64.zero false).IsCanonical := by decide
  have hfolder : Store.folder ["cache"] = ["cache"] := by decide
  refine .start rfl ?_ ?_ ?_ ?_ hzero
  · rw [hfolder, World.file?_single]
    rfl
  · rw [hfolder]
    intro place hwithin hplace
    have hother : place ≠ ["site", "a.html"] := by
      rintro rfl
      exact absurd hwithin (by decide)
    rw [World.single, World.withFiles, FileTree.node?_put_of_ne _ hother]
    cases place with
    | nil => exact absurd hwithin (by decide)
    | cons name names => rfl
  · exact fun hlinked => absurd hlinked (by decide)
  · intro place file hfile
    rw [World.file?_single] at hfile
    split at hfile
    · exact Option.some.inj hfile ▸ hzero
    · exact nomatch hfile

/-- Engines share a folder that can be made, if the disk cache is switched on. -/
theorem World.shares_of_file? {world : World} {path : Location}
    (hlinked : Store.isLinked path = false)
    (hswitch : cacheSwitchedOn world.switch true = true)
    (hway : ∀ above ∈ FileTree.wayTo (Store.folder path), world.host.files.file? above = none) :
    world.shares path = true := by
  rw [shares, opened, if_pos hswitch]
  exact (Store.enabled_make_iff hlinked).mpr hway

/-- Two engines over one folder, before they were asked for anything. -/
theorem Sharing.exists_both {other : Setup} (hcache : other.cache = some ["cache"])
    (hns : Directive.isNamespace other.ns.toList = true) (text : String) :
    ∃ world, Sharing [Setup.small, other] ["cache"] ⟨[], []⟩ world
      ∧ (world.site 0).sources = Setup.small.sources ∧ (world.site 0).ns = Setup.small.ns
      ∧ (world.site 1).sources = other.sources ∧ (world.site 1).ns = other.ns
      ∧ world.host.clock = .zero false ∧ world.switch = none
      ∧ ∀ place, world.host.files.file? place
        = if place = ["site", "a.html"] then some ⟨encodeText text, .zero false⟩ else none := by
  have hboth := ((Sharing.single [Setup.small, other] text).construct List.mem_cons_self
    rfl).construct (List.mem_cons_of_mem _ List.mem_cons_self) hcache
  refine ⟨_, hboth, ?_⟩
  obtain ⟨files, first, hfiles, hsources, hname, hfirst⟩ :=
    on_openSite_concat (by decide : Directive.isNamespace Setup.small.ns.toList = true)
      (World.single text)
  obtain ⟨others, second, hothers, hotherSources, hotherName, hsecond⟩ :=
    on_openSite_concat hns (on (openSite Setup.small) (World.single text)).2
  rw [hsecond]
  rw [hfirst] at hothers ⊢
  refine ⟨hsources, hname, hotherSources, hotherName, rfl, rfl, ?_⟩
  intro place
  rw [← World.file?_single]
  exact (hothers place).trans (hfiles place)

/-- After the first of two engines has compiled the source, the second answers its build. -/
theorem Sharing.exists_second {other : Setup} (hcache : other.cache = some ["cache"])
    (hns : Directive.isNamespace other.ns.toList = true)
    (hlocate : other.sources.locate lone = .ok ["site", "a.html"]) (text : String)
    {code : List Char} (hcompile : Directive.compile Setup.small.ns.toList
      Directive.standardRules (Text.unifyLines text.toList) = .ok code) :
    ∃ ledger world, Sharing [Setup.small, other] ["cache"] ledger world
      ∧ ledger.templates = [lone]
      ∧ (world.site 1).sources = other.sources ∧ (world.site 1).ns = other.ns
      ∧ (world.site 1).sources.sourceFile world.host.files lone
        = .ok ⟨encodeText text, .zero false⟩
      ∧ ledger.answer world 1 lone = .ok (⟨code, .zero false⟩, false) := by
  obtain ⟨world, hboth, hsources, hname, hotherSources, hotherName, hclock, hswitch, hfiles⟩ :=
    Sharing.exists_both hcache hns text
  have hshares : world.shares ["cache"] = true := by
    refine World.shares_of_file? (by decide) (by rw [hswitch]; rfl) ?_
    intro above habove
    rw [hfiles, List.mem_singleton.mp (show above ∈ [["cache"]] from habove)]
    rfl
  have hfile : (world.site 0).sources.sourceFile world.host.files lone
      = .ok ⟨encodeText text, .zero false⟩ := by
    rw [hsources]
    exact Sources.sourceFile_eq_ok_iff.mpr ⟨["site", "a.html"], by decide +kernel,
      (hfiles _).trans (if_pos rfl)⟩
  have hown : world.own 0 lone = .ok code := Sources.compiled_of_text hfile (hname ▸ hcompile)
  have hanswer : Ledger.answer ⟨[], []⟩ world 0 lone = .ok (⟨code, .zero false⟩, true) := by
    rw [Ledger.answer_of_own hfile rfl, hown, hclock]
    rfl
  have hresolved := hboth.resolve 0 lone
  rw [Ledger.resolved_of_ok hanswer, hshares] at hresolved
  have hone := World.site_resolve_of_ne (by decide : 1 ≠ 0) lone world
  have hthere : (on (Engine.resolve 0 lone) world).2.host.files.file? ["site", "a.html"]
      = some ⟨encodeText text, .zero false⟩ :=
    ((hboth.fits.resolve 0 lone).2.2 _ (by decide)).trans ((hfiles _).trans (if_pos rfl))
  have hsecond : ((on (Engine.resolve 0 lone) world).2.site 1).sources.sourceFile
      (on (Engine.resolve 0 lone) world).2.host.files lone
        = .ok ⟨encodeText text, .zero false⟩ := by
    rw [hone, hotherSources]
    exact Sources.sourceFile_eq_ok_iff.mpr ⟨_, hlocate, hthere⟩
  refine ⟨_, _, hresolved, rfl, hone ▸ hotherSources, hone ▸ hotherName, hsecond, ?_⟩
  -- the second engine has answered nothing, and the folder has the build of the first
  refine Ledger.answer_of_build? hsecond ?_
  rw [Ledger.build?, Ledger.lookup_hold, if_neg (by decide), Bool.true_and, if_pos rfl,
    lookup_cons_if, if_pos rfl]
  rfl

/-- A configuration of another namespace over the folder. -/
def Setup.renamed : Setup :=
  { small with ns := "ui" }

/-- A source with a tag of the other namespace. -/
def tagged : String :=
  "<ui:if cond='a'>b</ui:if>"

/-- An engine answers what one of another namespace has compiled, and not what its own source
    compiles to. -/
theorem resolve_mixed : ∃ ledger world,
    Sharing [Setup.small, Setup.renamed] ["cache"] ledger world
      ∧ world.own 1 lone = .ok "{% if a %}b{% endif %}".toList
      ∧ (on (resolve 1 lone) world).1.map Artifact.code = .ok (.text tagged) := by
  have hcompile : Directive.compile Setup.small.ns.toList Directive.standardRules
      (Text.unifyLines tagged.toList) = .ok tagged.toList := by decide +kernel
  obtain ⟨ledger, world, history, -, -, hns, hfile, hanswer⟩ :=
    @Sharing.exists_second Setup.renamed rfl (by decide) (by decide +kernel) tagged _ hcompile
  refine ⟨ledger, world, history, ?_, ?_⟩
  · refine Sources.compiled_of_text hfile ?_
    rw [hns]
    decide +kernel
  · rw [(history.fits.resolve 1 lone).1, hanswer]
    rfl

/-- Of a source without tags an engine answers what one of another namespace has compiled, and that
    is what its own source compiles to. -/
theorem resolve_shared_plain : ∃ ledger world,
    Sharing [Setup.small, Setup.renamed] ["cache"] ledger world
      ∧ ledger.answer world 1 lone = .ok (⟨"new".toList, .zero false⟩, false)
      ∧ world.own 1 lone = .ok "new".toList
      ∧ (on (resolve 1 lone) world).1.map Artifact.code = .ok (.text "new") := by
  have hcompile : ∀ setup ∈ [Setup.small, Setup.renamed], Directive.compile setup.ns.toList
      Directive.standardRules (Text.unifyLines "new".toList) = .ok "new".toList := by
    intro setup hsetup
    simp only [List.mem_cons, List.not_mem_nil, or_false] at hsetup
    rcases hsetup with rfl | rfl <;> decide +kernel
  obtain ⟨ledger, world, history, htemplates, hsources, hns, hfile, hanswer⟩ :=
    @Sharing.exists_second Setup.renamed rfl (by decide) (by decide +kernel) "new" _
      (hcompile _ List.mem_cons_self)
  have hown : world.own 1 lone = .ok "new".toList :=
    Sources.compiled_of_text hfile
      (hns ▸ hcompile _ (List.mem_cons_of_mem _ List.mem_cons_self))
  rw [hsources] at hfile
  have hcompiled : ∀ setup ∈ [Setup.small, Setup.renamed],
      setup.compiled world.host.files lone = .ok "new".toList := by
    intro setup hsetup
    have hplain := hcompile setup hsetup
    simp only [List.mem_cons, List.not_mem_nil, or_false] at hsetup
    rcases hsetup with rfl | rfl <;> exact Sources.compiled_of_text hfile hplain
  have hapart : ∀ setup ∈ [Setup.small, Setup.renamed], setup.Apart ["cache"] := by
    intro setup hsetup
    simp only [List.mem_cons, List.not_mem_nil, or_false] at hsetup
    rcases hsetup with rfl | rfl <;> exact Setup.small_apart
  have hcollision : Sha1.CollisionFree ((lone :: ledger.templates).map TemplateId.key) := by
    rw [htemplates]
    exact @Sha1.CollisionFree.of_forall_eq [lone, lone] lone (by simp)
  refine ⟨ledger, world, history, hanswer, hown, ?_⟩
  rw [(resolve_shared history 1 lone).2 hapart hcollision fun setup hsetup other hother =>
    (hcompiled setup hsetup).trans (hcompiled other hother).symm, hown]
  rfl

end Witnesses

end Stencil
