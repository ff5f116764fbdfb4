import Stencil.Proofs.Cache.Failure
import Stencil.Proofs.Engine.Memo
import Stencil.Proofs.Files.Folders

/-! # Forgetting — what is left after a purge

    A purge empties the memory of a site and the folder of its store, and changes
    nothing else: of the files outside of the folder none, and of the scripts that
    the evaluator holds none either.  Those cannot bring back what was forgotten,
    since each is held under the code that it was built from.  So the next time
    that a template is asked for its present source is compiled, and the next
    execution runs what was compiled, whatever the entries were marked with.  Only
    a folder for which a link stands keeps its entries, and then they are answered
    again.

    Headline: `purge_forgets`. -/

namespace Stencil

open Engine

section Theory

variable {world next : World} {i : Nat} {template : TemplateId}

/-! ## Folders of stores -/

namespace Store

variable {store : Store} {tree : FileTree}

/-- A store for which a link stands is not emptied. -/
theorem purge_of_linked (hlinked : store.linked = true) (tree : FileTree) :
    store.purge tree = tree :=
  if_pos hlinked

/-- After a store was emptied nothing lies below its folder, also if that is no folder or cannot be
    made. -/
theorem eq_dir_of_mem_purge (hlinked : store.linked = false) (h : tree.IsGrounded)
    {entry : Location × Node} (hentry : entry ∈ (store.purge tree).nodes)
    (hwithin : store.dir.isWithin entry.1 = true) : entry.1 = store.dir := by
  rw [purge, hlinked, if_neg Bool.false_ne_true] at hentry
  dsimp only at hentry
  generalize hcleared : (if tree.isFolder store.dir then tree.remove store.dir else tree)
    = cleared at hentry
  have hbelow {entry : Location × Node} (hmem : entry ∈ cleared.nodes)
      (hwithin : store.dir.isWithin entry.1 = true) : entry.1 = store.dir := by
    rw [← hcleared] at hmem
    split at hmem
    case isTrue =>
      have hoff := (List.mem_filter.mp hmem).2
      rw [hwithin] at hoff
      cases hoff
    case isFalse hfolder =>
      exact h.eq_of_isWithin (Bool.eq_false_iff.mpr hfolder) hmem hwithin
  cases hmade : cleared.makeFolders? store.dir with
  | none =>
      rw [hmade] at hentry
      exact hbelow hentry hwithin
  | some made =>
      rw [hmade] at hentry
      rcases FileTree.mem_nodes_makeFolders? hmade hentry with hold | hway
      · exact hbelow hold hwithin
      · have hbefore := List.isPrefixOf_iff_prefix.mp hwithin
        exact (hbefore.eq_of_length_le (FileTree.length_le_of_mem_wayTo hway)).symm

theorem filesBelow_purge (hlinked : store.linked = false) (h : tree.IsGrounded) :
    (store.purge tree).filesBelow store.dir = [] := by
  rw [FileTree.filesBelow, List.filterMap_eq_nil_iff]
  rintro ⟨place, node⟩ hentry
  cases node with
  | folder => rfl
  | file file =>
      refine if_neg fun hbelow => ?_
      obtain ⟨hwithin, hne⟩ := Bool.and_eq_true_iff.mp hbelow
      exact bne_iff_ne.mp hne (eq_dir_of_mem_purge hlinked h hentry hwithin)

/-- After a store was emptied there is no entry for any template. -/
theorem file?_place_purge (hlinked : store.linked = false) (h : tree.IsGrounded)
    (template : TemplateId) : (store.purge tree).file? (store.place template) = none := by
  cases hfile : (store.purge tree).file? (store.place template) with
  | none => rfl
  | some file =>
      have hnode := FileTree.file?_eq_some_iff.mp hfile
      rw [FileTree.node?] at hnode
      split at hnode
      · cases hnode
      · have heq := eq_dir_of_mem_purge hlinked h (mem_of_lookup hnode)
          (store.place_isWithin template)
        have hlength := congrArg List.length heq
        rw [length_place] at hlength
        omega

/-- Emptying a store changes no file outside of its folder. -/
theorem file?_purge_outside (store : Store) (tree : FileTree) {there : Location}
    (houtside : store.dir.isWithin there = false) :
    (store.purge tree).file? there = tree.file? there := by
  have hmade (tree : FileTree) :
      ((tree.makeFolders? store.dir).getD tree).file? there = tree.file? there := by
    cases hfolders : tree.makeFolders? store.dir with
    | none => rfl
    | some made => exact FileTree.file?_makeFolders? hfolders there
  rw [purge]
  split
  · rfl
  · simp only [hmade]
    split
    case isTrue => rw [FileTree.file?_remove, houtside, if_neg Bool.false_ne_true]
    case isFalse => rfl

/-- Emptying a store changes nothing beside its folder. -/
theorem agreeBeside_purge (store : Store) (tree : FileTree) :
    tree.AgreeBeside store.dir (store.purge tree) := by
  have hmade (tree : FileTree) :
      tree.AgreeBeside store.dir ((tree.makeFolders? store.dir).getD tree) := by
    cases hfolders : tree.makeFolders? store.dir with
    | none => exact fun _ _ _ => rfl
    | some made => exact FileTree.agreeBeside_makeFolders? hfolders
  intro place habove hbelow
  rw [purge]
  split
  · rfl
  · refine (hmade _ place habove hbelow).trans ?_
    split
    · exact tree.node?_remove habove
    · rfl

theorem snapshot_purge (hlinked : store.linked = false) (h : tree.IsGrounded) :
    (store.snapshot (store.purge tree)).entries = 0
      ∧ (store.snapshot (store.purge tree)).size = 0 := by
  have hfiles : store.files (store.purge tree) = [] := by
    rw [files, filesBelow_purge hlinked h]
    rfl
  rw [snapshot, hfiles]
  exact ⟨rfl, rfl⟩

end Store

namespace FileTree.IsGrounded

variable {tree : FileTree}

/-- Folders that are made if they can be. -/
theorem getD_makeFolders? (h : tree.IsGrounded) (here : Location) :
    ((tree.makeFolders? here).getD tree).IsGrounded := by
  cases hmade : tree.makeFolders? here with
  | none => exact h
  | some made => exact h.makeFolders? hmade

theorem purge (h : tree.IsGrounded) (store : Store) : (store.purge tree).IsGrounded := by
  rw [Store.purge]
  split
  · exact h
  · split
    · exact (h.remove store.dir).getD_makeFolders? store.dir
    · exact h.getD_makeFolders? store.dir

theorem keep (h : tree.IsGrounded) (store : Store) (template : TemplateId) (code : String)
    (storedAt now : Binary64) : (store.keep tree template code storedAt now).IsGrounded := by
  rw [Store.keep_eq]
  split
  · exact h.getD_write? _ _
  · exact h

theorem make [FileSystem] (h : tree.IsGrounded) (path : Location) :
    (Store.make tree path).2.IsGrounded := by
  rcases Store.make_snd_cases tree path with hsame | ⟨-, made, hmade, hsame⟩
  · rw [hsame]
    exact h
  · rw [hsame]
    exact h.makeFolders? hmade

end FileTree.IsGrounded

/-! ## Worlds that can arise -/

variable [Substrate] [FileSystem]

/-- The worlds that anything can lead to from a world without engines: others change the files in
    any way, entries among them, the clock, the switch and the fragments are set, engines of any
    configurations are made, purged and asked for templates, and fragments are rendered to the end
    or in part. -/
inductive World.Arisen : World → Prop
  | start {world : World} (hsites : world.sites = [])
      (hfiles : world.host.files.IsGrounded) : Arisen world
  | edit {world : World} {files : FileTree} (hfiles : files.IsGrounded) (h : Arisen world) :
      Arisen (world.withFiles files)
  | tick {world : World} (clock : Binary64) (h : Arisen world) : Arisen (world.atTime clock)
  | turn {world : World} (switch : Option String) (h : Arisen world) :
      Arisen { world with switch }
  | arrange {world : World} (components : List Component) (views : List View)
      (streams : List (List Value)) (h : Arisen world) :
      Arisen { world with components, views, streams }
  | construct {world : World} (setup : Setup) (h : Arisen world) :
      Arisen (on (openSite setup) world).2
  | purge {world : World} (i : Nat) (h : Arisen world) : Arisen (on (purge i) world).2
  | part {world next : World} {refused : Bool} (htrail : Trail world refused next)
      (h : Arisen world) : Arisen next

/-- Whether the files of a world lie in folders, and its evaluators hold scripts under their own
    codes. -/
structure World.Orderly (world : World) : Prop where
  files : world.host.files.IsGrounded
  held : ∀ site ∈ world.sites, IsMemo site.held

namespace World

omit [FileSystem] in
/-- Also where there is no site, scripts are held under their own codes. -/
theorem Orderly.isMemo (h : world.Orderly) (i : Nat) : IsMemo (world.site i).held := by
  rcases world.site_cases i with ⟨-, hmem⟩ | ⟨hdefault, -⟩
  · exact h.held _ hmem
  · rw [hdefault]
    exact .empty

theorem Orderly.resolve (h : world.Orderly) (j : Nat) (other : TemplateId) :
    (on (Engine.resolve j other) world).2.Orderly := by
  obtain ⟨result, hresult, hrun⟩ := Engine.on_resolve j other world
  rw [hrun]
  refine ⟨?_, forall_setSite h.held fun hmem => h.held (world.site j) hmem⟩
  cases hresult with
  | compiled =>
      show (Cache.filesWith _ _ _ _ _ _).IsGrounded
      rw [Cache.filesWith]
      cases (world.site j).cache.store with
      | none => exact h.files
      | some store => exact h.files.keep store _ _ _ _
  | _ => exact h.files

omit [FileSystem] in
theorem Orderly.hold (h : world.Orderly) (j : Nat) (other : TemplateId) {code : String}
    {script : Script} (hscript : Substrate.build code = .ok script) :
    (world.setSite j { world.site j with
      held := (world.site j).held.put other (code, script) }).Orderly :=
  ⟨h.files, forall_setSite h.held fun hmem => (h.held _ hmem).put other hscript⟩

theorem Orderly.construct (h : world.Orderly) (setup : Setup) :
    (on (openSite setup) world).2.Orderly := by
  have hfiles : (world.opened setup.cache).2.IsGrounded := by
    cases hcache : setup.cache with
    | none => exact h.files
    | some path =>
        rw [opened]
        split
        · exact h.files.make path
        · exact h.files
  rw [on_openSite_eq]
  split
  · refine ⟨hfiles, fun site hsite => ?_⟩
    rcases List.mem_append.mp hsite with hold | hnew
    · exact h.held site hold
    · rw [List.mem_singleton.mp hnew]
      exact .empty
  · exact ⟨hfiles, h.held⟩

omit [FileSystem] in
theorem Orderly.purge (h : world.Orderly) (j : Nat) :
    (on (Engine.purge j) world).2.Orderly := by
  rw [on_purge_eq]
  refine ⟨?_, forall_setSite h.held fun hmem => h.held (world.site j) hmem⟩
  rw [Cache.purge_snd]
  cases (world.site j).cache.store with
  | none => exact h.files
  | some store => exact h.files.purge store

/-- In every world that can arise files lie in folders, and scripts are held under their codes. -/
theorem Arisen.orderly (h : world.Arisen) : world.Orderly := by
  induction h with
  | start hsites hfiles => exact ⟨hfiles, fun site hsite => by rw [hsites] at hsite; cases hsite⟩
  | edit hfiles _ ih => exact ⟨hfiles, ih.held⟩
  | tick clock _ ih => exact ⟨ih.files, ih.held⟩
  | turn switch _ ih => exact ⟨ih.files, ih.held⟩
  | arrange components views streams _ ih => exact ⟨ih.files, ih.held⟩
  | construct setup _ ih => exact ih.construct setup
  | purge i _ ih => exact ih.purge i
  | part htrail _ ih =>
      induction htrail with
      | refl => exact ih
      | arrange components views streams _ ih' => exact ⟨ih'.files, ih'.held⟩
      | hold j other hscript _ ih' => exact ih'.hold j other hscript
      | resolve j other _ ih' => exact ih'.resolve j other

end World

/-! ## Sites that have forgotten a template -/

/-- Whether a site has nothing for a template: its memory has no entry, and at the place of one in
    its store there is no file. -/
structure World.Forgot (world : World) (i : Nat) (template : TemplateId) : Prop where
  memory : (world.site i).cache.memory.get? template = none
  store : ∀ store ∈ (world.site i).cache.store,
    world.host.files.file? (store.place template) = none

/-- What may happen without a template of a digest being asked for, and without others writing an
    entry for it into the store of a site.  What a render does in between is made of such events. -/
inductive World.Without (i : Nat) (template : TemplateId) (start : World) : World → Prop
  | refl : Without i template start start
  | edit {world : World} {files : FileTree} (hfiles : files.IsGrounded)
      (hentry : ∀ store ∈ (world.site i).cache.store, files.file? (store.place template) = none)
      (h : Without i template start world) : Without i template start (world.withFiles files)
  | tick {world : World} (clock : Binary64) (h : Without i template start world) :
      Without i template start (world.atTime clock)
  | turn {world : World} (switch : Option String) (h : Without i template start world) :
      Without i template start { world with switch }
  | arrange {world : World} (components : List Component) (views : List View)
      (streams : List (List Value)) (h : Without i template start world) :
      Without i template start { world with components, views, streams }
  | hold {world : World} (j : Nat) (other : TemplateId) {code : String}
      {script : Script} (hscript : Substrate.build code = .ok script)
      (h : Without i template start world) :
      Without i template start (world.setSite j { world.site j with
        held := (world.site j).held.put other (code, script) })
  | resolve {world : World} (j : Nat) (other : TemplateId)
      (hother : other.cacheKey ≠ template.cacheKey) (h : Without i template start world) :
      Without i template start (on (resolve j other) world).2
  | construct {world : World} (setup : Setup) (h : Without i template start world) :
      Without i template start (on (openSite setup) world).2
  | purge {world : World} (j : Nat) (h : Without i template start world) :
      Without i template start (on (purge j) world).2

namespace World

omit [FileSystem] in
/-- A site that is purged has forgotten every template, but for an entry in a folder for which a
    link stands. -/
theorem Orderly.forgot_purge (h : world.Orderly) (i : Nat) {template : TemplateId}
    (hentry : ∀ store ∈ (world.site i).cache.store, store.linked = true →
      world.host.files.file? (store.place template) = none) :
    (on (Engine.purge i) world).2.Forgot i template := by
  refine ⟨?_, fun store hstore => ?_⟩
  · rw [site_purge]
    rfl
  · rw [site_purge] at hstore
    rw [on_purge_eq]
    show (((world.site i).cache.purge world.host).2.files).file? _ = none
    rw [Cache.purge_snd, Option.mem_def.mp hstore]
    show (store.purge world.host.files).file? _ = none
    cases hlinked : store.linked with
    | true =>
        rw [Store.purge_of_linked hlinked]
        exact hentry store hstore hlinked
    | false => exact Store.file?_place_purge hlinked h.files template

omit [Substrate] [FileSystem] in
theorem Forgot.of_site (h : world.Forgot i template) (hcache : (next.site i).cache
      = (world.site i).cache)
    (hfiles : ∀ store ∈ (world.site i).cache.store,
      next.host.files.file? (store.place template) = none) : next.Forgot i template where
  memory := by
    rw [hcache]
    exact h.memory
  store := by
    rw [hcache]
    exact hfiles

omit [Substrate] in
/-- A resolve of a template of another digest brings nothing back. -/
theorem Forgot.resolve (h : world.Forgot i template) (j : Nat) {other : TemplateId}
    (hother : other.cacheKey ≠ template.cacheKey) :
    (on (Engine.resolve j other) world).2.Forgot i template := by
  refine ⟨?_, fun store hstore => ?_⟩
  · rw [memory_resolve]
    · exact h.memory
    · rintro - rfl
      exact hother rfl
  · rw [store_resolve] at hstore
    rcases world.file?_resolve j other (store.place template) with hsame | ⟨kept, -, heq, -⟩
    · exact hsame.trans (h.store store hstore)
    · exact absurd (Store.cacheKey_eq_of_place_eq heq).symm hother

omit [Substrate] [FileSystem] in
theorem Forgot.purge (h : world.Forgot i template) (j : Nat) :
    (on (Engine.purge j) world).2.Forgot i template := by
  obtain ⟨host, memory, -, -, hfiles, hrun⟩ := on_purge j world
  have hnone (there : Location) (hthere : world.host.files.file? there = none) :
      (on (Engine.purge j) world).2.host.files.file? there = none := by
    rw [hrun]
    cases hfile : host.files.file? there with
    | none => rfl
    | some file => exact nomatch hthere.symm.trans (hfiles there file hfile)
  by_cases hj : i = j
  · subst hj
    refine ⟨?_, fun store hstore => hnone _ ?_⟩
    · rw [site_purge]
      rfl
    · rw [site_purge] at hstore
      exact h.store store hstore
  · exact h.of_site (by rw [site_purge_of_ne hj]) fun store hstore => hnone _ (h.store store hstore)

/-- What is forgotten stays so, as long as no template of its digest is asked for. -/
theorem Without.forgot (h : world.Without i template next) (hworld : world.Arisen)
    (hi : i < world.sites.length) (hforgot : world.Forgot i template) :
    next.Forgot i template ∧ next.Arisen ∧ i < next.sites.length := by
  induction h with
  | refl => exact ⟨hforgot, hworld, hi⟩
  | edit hfiles hentry _ ih =>
      obtain ⟨hmiddle, harisen, hinside⟩ := ih
      exact ⟨hmiddle.of_site rfl hentry, harisen.edit hfiles, hinside⟩
  | tick clock _ ih =>
      obtain ⟨hmiddle, harisen, hinside⟩ := ih
      exact ⟨hmiddle.of_site rfl hmiddle.store, harisen.tick clock, hinside⟩
  | turn switch _ ih =>
      obtain ⟨hmiddle, harisen, hinside⟩ := ih
      exact ⟨hmiddle.of_site rfl hmiddle.store, harisen.turn switch, hinside⟩
  | arrange components views streams _ ih =>
      obtain ⟨hmiddle, harisen, hinside⟩ := ih
      exact ⟨hmiddle.of_site rfl hmiddle.store, harisen.arrange components views streams, hinside⟩
  | hold j other hscript _ ih =>
      obtain ⟨hmiddle, harisen, hinside⟩ := ih
      refine ⟨hmiddle.of_site (site_setSite_congr Site.cache (by rfl) i) hmiddle.store,
        harisen.part (Trail.refl.hold j other hscript), ?_⟩
      exact Nat.lt_of_lt_of_eq hinside List.length_set.symm
  | resolve j other hother _ ih =>
      obtain ⟨hmiddle, harisen, hinside⟩ := ih
      refine ⟨hmiddle.resolve j hother, harisen.part (Follows.resolve j other _), ?_⟩
      rw [length_sites_resolve]
      exact hinside
  | @construct middle setup _ ih =>
      obtain ⟨hmiddle, harisen, hinside⟩ := ih
      have hcache := congrArg Site.cache (site_openSite hinside setup)
      refine ⟨hmiddle.of_site hcache fun store hstore => ?_, harisen.construct setup,
        lt_length_openSite hinside setup⟩
      exact (file?_openSite setup middle _).trans (hmiddle.store store hstore)
  | purge j _ ih =>
      obtain ⟨hmiddle, harisen, hinside⟩ := ih
      refine ⟨hmiddle.purge j, harisen.purge j, ?_⟩
      rw [length_sites_purge]
      exact hinside

end World

/-! ## Templates that are compiled anew -/

/-- Whether a site that is asked for a template now compiles its present source, and a fragment of
    the template that is executed now executes what was compiled. -/
structure World.Recompiles (world : World) (i : Nat) (template : TemplateId) : Prop where
  code : (on (resolve i template) world).1.map Artifact.code
    = (world.own i template).map fun code => .text (String.ofList code)
  compiles : ∀ file, world.sourceAt i template = .ok file →
    (on (resolve i template) world).2.host.compiles
      = world.host.compiles + (Sources.textOf file).isOk.toNat
  executes : ∀ render handle scope, world.siteOf handle = i →
    match world.own i template with
    | .error fault =>
      (on (executeFor render handle template.role template.name scope) world).1 = .error fault
    | .ok code => ∃ held, IsMemo held
      ∧ on (executeFor render handle template.role template.name scope) world
        = on (runCode render i template scope (some (.fragment handle)) (String.ofList code))
          ((on (resolve i template) world).2.withHeld i held)

namespace Cache

variable {sources : Sources} {ns : List Char} {cache : Cache} {host : Host} {file : File}

omit [Substrate] in
/-- What is built for a template is its artifact. -/
theorem template_build {artifact : Artifact}
    (hfile : sources.sourceFile host.files template = .ok file)
    (hok : (build sources ns template cache host).1 = .ok artifact) :
    artifact.template = template := by
  cases htext : Sources.textOf file with
  | error fault =>
      rw [build_of_unreadable hfile htext] at hok
      cases hok
  | ok text =>
      cases hcompile : Directive.compile ns Directive.standardRules text with
      | error error =>
          rw [build_of_refused hfile htext hcompile] at hok
          cases hok
      | ok code =>
          rw [build_of_compile hfile htext hcompile] at hok
          cases hok
          rfl

end Cache

namespace World

omit [Substrate] in
/-- A template that is forgotten is built anew. -/
theorem Forgot.resolve_eq_build (h : world.Forgot i template) {file : File}
    (hfile : world.sourceAt i template = .ok file) :
    (world.site i).cache.resolve (world.site i).sources (world.site i).ns.toList template world.host
      = Cache.build (world.site i).sources (world.site i).ns.toList template (world.site i).cache
        world.host := by
  have hfind : ∀ store ∈ (world.site i).cache.store,
      store.find world.host.files template = .ok none :=
    fun store hstore => Store.find_of_none (h.store store hstore)
  have hstale : ¬ (world.site i).cache.HasFresh world.host.files template file.changed := by
    rintro (⟨entry, hentry, -⟩ | ⟨store, hstore, found, hfound, -⟩)
    · cases h.memory.symm.trans hentry
    · cases (hfind store hstore).symm.trans hfound
  exact Cache.resolve_of_not_hasFresh hfile (fun store hstore => ⟨none, hfind store hstore⟩) hstale

omit [Substrate] in
theorem Forgot.code_resolve (h : world.Forgot i template) :
    (on (Engine.resolve i template) world).1.map Artifact.code
      = (world.own i template).map fun code => .text (String.ofList code) := by
  rw [on_resolve_eq]
  show (Cache.resolve _ _ _ _ _).1.map _ = _
  cases hfile : world.sourceAt i template with
  | error missing =>
      rw [Cache.resolve_of_missing hfile, World.own, Sources.compiled_of_missing hfile]
      rfl
  | ok file =>
      rw [h.resolve_eq_build hfile]
      exact Cache.code_build hfile

omit [Substrate] in
theorem Forgot.template_resolve (h : world.Forgot i template) {artifact : Artifact}
    (hartifact : (on (Engine.resolve i template) world).1 = .ok artifact) :
    artifact.template = template := by
  rw [on_resolve_eq] at hartifact
  change (Cache.resolve _ _ _ _ _).1 = _ at hartifact
  cases hfile : world.sourceAt i template with
  | error missing =>
      rw [Cache.resolve_of_missing hfile] at hartifact
      cases hartifact
  | ok file =>
      rw [h.resolve_eq_build hfile] at hartifact
      exact Cache.template_build hfile hartifact

/-- Where a template is forgotten, it is compiled anew. -/
theorem Forgot.recompiles (h : world.Forgot i template) (horderly : world.Orderly)
    (hi : i < world.sites.length) : world.Recompiles i template := by
  have hcode := h.code_resolve
  refine ⟨hcode, fun file hfile => ?_, fun render handle scope hsite => ?_⟩
  · rw [on_resolve_eq]
    show (Cache.resolve _ _ _ _ _).2.2.compiles = _
    rw [h.resolve_eq_build hfile, Cache.compiles_build hfile]
    cases (Sources.textOf file).isOk <;> rfl
  · have hexecute : on (executeFor render handle template.role template.name scope) world
        = on (Engine.resolve i template >>= fun artifact =>
          execute render i artifact scope (some (.fragment handle))) world := by
      rw [executeFor, on_bind_ok (on_get world), hsite]
    rw [hexecute]
    cases hown : world.own i template with
    | error fault =>
        rw [hown] at hcode
        have herror := eq_error_of_map hcode
        rw [on_bind_error (Prod.ext herror rfl)]
    | ok code =>
        rw [hown] at hcode
        obtain ⟨artifact, hartifact, htext⟩ := eq_ok_of_map hcode
        have hinside : i < (on (Engine.resolve i template) world).2.sites.length := by
          rw [length_sites_resolve]
          exact hi
        obtain ⟨held, hheld, hrun⟩ := @on_execute_code _ _ _ render hinside
          ((horderly.resolve i template).isMemo i) _ _ htext scope (some (.fragment handle))
        refine ⟨held, hheld, ?_⟩
        rw [on_bind_ok (Prod.ext hartifact rfl), hrun, h.template_resolve hartifact]

/-- Whether a world is another after a purge of one of its sites: the memory of the site and the
    folder of its store are empty, unless a link stands for the folder, and all else is as it
    was. -/
structure Purged (world after : World) (i : Nat) : Prop where
  memory : (after.site i).cache.memory.entries = []
  entries : (∀ store ∈ (world.site i).cache.store, store.linked = false) →
    ((after.site i).cache.snapshot after.host).entries = 0
  size : (∀ store ∈ (world.site i).cache.store, store.linked = false) →
    ((after.site i).cache.snapshot after.host).size = 0
  linked : (∃ store ∈ (world.site i).cache.store, store.linked = true) →
    after.host.files = world.host.files
  files : ∀ there, (∀ store ∈ (world.site i).cache.store, store.dir.isWithin there = false) →
    after.host.files.file? there = world.host.files.file? there
  rest : ∃ files, after = { world.setSite i { world.site i with
      cache := ⟨.empty, (world.site i).cache.store⟩ } with host := { world.host with files } }

omit [FileSystem] [Substrate] in
/-- What a purge makes of the files is what emptying the store makes of them. -/
theorem files_purge (world : World) (i : Nat) : (on (Engine.purge i) world).2.host.files
    = ((world.site i).cache.store.map fun store => store.purge world.host.files).getD
      world.host.files := by
  rw [on_purge_eq]
  exact congrArg Host.files (Cache.purge_snd _ _)

omit [FileSystem] [Substrate] in
/-- What a site counts after a purge is what its store does. -/
theorem snapshot_purge (world : World) (i : Nat) :
    ((on (Engine.purge i) world).2.site i).cache.snapshot (on (Engine.purge i) world).2.host
      = ((world.site i).cache.store.map fun store =>
        store.snapshot (store.purge world.host.files)).getD .none := by
  rw [site_purge, Cache.snapshot, files_purge]
  cases (world.site i).cache.store <;> rfl

omit [FileSystem] in
theorem Orderly.purged (h : world.Orderly) (i : Nat) :
    world.Purged (on (Engine.purge i) world).2 i := by
  refine ⟨?_, fun hfree => ?_, fun hfree => ?_, ?_, fun there houtside => ?_, ?_⟩
  · rw [site_purge]
    rfl
  · rw [snapshot_purge]
    cases hstore : (world.site i).cache.store with
    | none => rfl
    | some store => exact (Store.snapshot_purge (hfree store hstore) h.files).1
  · rw [snapshot_purge]
    cases hstore : (world.site i).cache.store with
    | none => rfl
    | some store => exact (Store.snapshot_purge (hfree store hstore) h.files).2
  · rintro ⟨store, hstore, hlinked⟩
    rw [files_purge, Option.mem_def.mp hstore]
    exact Store.purge_of_linked hlinked world.host.files
  · rw [files_purge]
    cases hstore : (world.site i).cache.store with
    | none => rfl
    | some store => exact store.file?_purge_outside _ (houtside store hstore)
  · rw [on_purge_eq, Cache.purge_snd]
    exact ⟨_, rfl⟩

omit [Substrate] in
/-- Where the roots are apart from the folder of the store, a purge leaves every source. -/
theorem sourceAt_purge
    (hapart : ∀ store ∈ (world.site i).cache.store, (world.site i).sources.Apart store.dir)
    (template : TemplateId) :
    (on (Engine.purge i) world).2.sourceAt i template = world.sourceAt i template := by
  rw [sourceAt, sourceAt, site_purge, files_purge]
  cases hstore : (world.site i).cache.store with
  | none => rfl
  | some store =>
      exact Sources.sourceFile_congr
        ((hapart store hstore).agreeFor (store.agreeBeside_purge world.host.files) template)

omit [Substrate] in
/-- What a folder for which a link stands has is answered after a purge as before it, if it is not
    older than the source. -/
theorem Purged.resolve_linked (h : world.Purged next i) (hi : i < world.sites.length)
    {store : Store} (hstore : store ∈ (world.site i).cache.store) (hlinked : store.linked = true)
    {file : File} (hfile : world.sourceAt i template = .ok file) {found : Stored}
    (hfound : store.find world.host.files template = .ok (some found))
    (hfresh : file.changed.le found.storedAt = true) :
    (on (Engine.resolve i template) next).1.map Artifact.code = .ok found.code
      ∧ (on (Engine.resolve i template) next).2.host.compiles = next.host.compiles := by
  have hsame := h.linked ⟨store, hstore, hlinked⟩
  obtain ⟨files, rfl⟩ := h.rest
  obtain rfl : files = world.host.files := hsame
  have hsite : World.site { world.setSite i { world.site i with
      cache := ⟨.empty, (world.site i).cache.store⟩ } with
      host := { world.host with files := world.host.files } } i
      = { world.site i with cache := ⟨.empty, (world.site i).cache.store⟩ } :=
    site_setSite_self hi _ _
  have hstored : Cache.stored ⟨.empty, (world.site i).cache.store⟩ world.host.files template
      file.changed = .ok (some found) := by
    rw [Cache.stored]
    simp only [Option.mem_def.mp hstore, hfound]
    exact congrArg Except.ok (if_pos hfresh)
  rw [on_resolve_eq, hsite]
  dsimp only
  rw [Cache.resolve_of_stale hfile rfl, hstored]
  exact ⟨rfl, rfl⟩

end World

/-! ## Purges -/

/-- **Forgetting**: in every world that can arise, a purge leaves nothing in the memory of the site
    and nothing that its store counts, and all files outside of the folder as they were, the sources
    among them if the roots are apart from it.  From then on, whatever happens until a template is
    asked for, being asked for it the site compiles its present source, and an execution of it runs
    what was compiled.  A folder for which a link stands is left as it is: a template without an
    entry there is forgotten all the same, and an entry that is not older than the source is
    answered. -/
theorem purge_forgets (arisen : world.Arisen) (hi : i < world.sites.length) :
    (on (purge i) world).1 = .ok ()
    ∧ world.Purged (on (purge i) world).2 i
    ∧ ((∀ store ∈ (world.site i).cache.store, (world.site i).sources.Apart store.dir) →
      ∀ template, (on (purge i) world).2.sourceAt i template = world.sourceAt i template)
    ∧ (∀ template later, (∀ store ∈ (world.site i).cache.store, store.linked = true →
        world.host.files.file? (store.place template) = none) →
      (on (purge i) world).2.Without i template later → later.Recompiles i template)
    ∧ ∀ template store file found, store ∈ (world.site i).cache.store → store.linked = true →
      world.sourceAt i template = .ok file →
      store.find world.host.files template = .ok (some found) →
      file.changed.le found.storedAt = true →
      (on (resolve i template) (on (purge i) world).2).1.map Artifact.code = .ok found.code
        ∧ (on (resolve i template) (on (purge i) world).2).2.host.compiles
          = (on (purge i) world).2.host.compiles := by
  have horderly := arisen.orderly
  have hpurged := horderly.purged i
  refine ⟨?_, hpurged, World.sourceAt_purge,
    fun template later hentry hwithout => ?_,
    fun template store file found hstore hlinked hfile hfound hfresh =>
      hpurged.resolve_linked hi hstore hlinked hfile hfound hfresh⟩
  · rw [on_purge_eq]
  · have hinside : i < (on (purge i) world).2.sites.length := by
      rw [World.length_sites_purge]
      exact hi
    obtain ⟨hforgot, hlater, hthere⟩ :=
      hwithout.forgot (arisen.purge i) hinside (horderly.forgot_purge i hentry)
    exact hforgot.recompiles hlater.orderly hthere

end Theory

section Witness

attribute [local instance] Native.usual FileSystem.shortcut

/-- A tree with a file in its folders. -/
def FileTree.withFile (tree : FileTree) (here : Location) (text : String) (changed : Binary64) :
    FileTree :=
  (tree.write? here ⟨encodeText text, changed⟩).getD tree

theorem FileTree.isGrounded_bare : bare.IsGrounded := by
  have hmade : FileTree.empty.makeFolders? ["cache"] = some bare := rfl
  exact IsGrounded.empty.makeFolders? hmade

/-- An engine over a cache folder whose clock is ahead has rendered a source, which then was written
    anew. -/
def World.outdated (cache : Location) : World :=
  let early := World.blank.withFiles (FileTree.bare.withFile ["site", "a.html"] "old" (.zero false))
  let opened := (on (openSite { Setup.small with cache }) (early.atTime (.ofInt 5))).2
  let rendered := (on (render (.component 0)) { opened with
    components := [.new 0 "a"], views := [], streams := [] }).2
  rendered.withFiles (rendered.host.files.withFile ["site", "a.html"] "new" (.ofInt 1))

theorem World.arisen_outdated (cache : Location) : (outdated cache).Arisen := by
  have hstart : (World.blank.withFiles (FileTree.bare.withFile ["site", "a.html"] "old"
      (.zero false))).Arisen := .start rfl (FileTree.isGrounded_bare.getD_write? _ _)
  have hopened := (hstart.tick (.ofInt 5)).construct { Setup.small with cache }
  have hnext := (hopened.arrange [.new 0 "a"] [] []).part (render_follows (.component 0) _)
  exact hnext.edit (hnext.orderly.files.getD_write? _ _)

/-- An entry that is marked newer than the source is what an engine answers; after a purge the
    source is compiled, and what it compiles to is executed.  If the path of the cache folder is a
    link, the entry is answered still. -/
theorem purge_forgets_outdated :
    (∀ cache ∈ [["cache"], ["link"]], (World.outdated cache).Arisen
      ∧ 0 < (World.outdated cache).sites.length
      ∧ (on (resolve 0 lone) (World.outdated cache)).1.map (fun answer => answer.code.text?)
        = .ok (some "old"))
    ∧ (let after := (on (purge 0) (World.outdated ["cache"])).2
      ((after.site 0).cache.snapshot after.host).entries = 0
      ∧ (on (resolve 0 lone) after).1.map Artifact.code = .ok (.text "new")
      ∧ (on (executeFor (renderUpTo 0) (.component 0) .component "a" []) after).1 = .ok "new")
    ∧ (on (resolve 0 lone) (on (purge 0) (World.outdated ["link"])).2).1.map
      (fun answer => answer.code.text?) = .ok (some "old") := by
  have hinside : ∀ cache ∈ [["cache"], ["link"]], 0 < (World.outdated cache).sites.length := by
    decide +kernel
  have hold : ∀ cache ∈ [["cache"], ["link"]], (on (resolve 0 lone)
      (World.outdated cache)).1.map (fun answer => answer.code.text?) = .ok (some "old") := by
    decide +kernel
  have hi := hinside ["cache"] List.mem_cons_self
  obtain ⟨-, hpurged, -, hrecompiles, -⟩ := purge_forgets (World.arisen_outdated ["cache"]) hi
  have hfree : ∀ store ∈ ((World.outdated ["cache"]).site 0).cache.store, store.linked = false := by
    decide +kernel
  have hanew := hrecompiles lone _ (fun store hstore hlinked =>
    absurd (hlinked.symm.trans (hfree store hstore)) (by decide)) .refl
  have hown : (on (purge 0) (World.outdated ["cache"])).2.own 0 lone = .ok "new".toList := by
    decide +kernel
  have hcode := hanew.code
  have hexecutes := hanew.executes (renderUpTo 0) (.component 0) [] (by decide +kernel)
  rw [hown] at hcode hexecutes
  obtain ⟨held, -, hrun⟩ := hexecutes
  refine ⟨fun cache hcache => ⟨World.arisen_outdated cache, hinside cache hcache,
    hold cache hcache⟩, ⟨hpurged.entries hfree, hcode, ?_⟩, ?_⟩
  · refine (congrArg Prod.fst hrun).trans ?_
    rw [String.ofList_toList]
    rfl
  · decide +kernel

end Witness

end Stencil
