import Stencil.Cache.Resolve
import Stencil.Proofs.Cache.EntryFile
import Stencil.Proofs.Number.Order

/-! # Resolving, case by case — where an artifact can come from

    Resolving fails with the source, answers from memory, answers from the store,
    or compiles; one equation for each of these says what becomes of the cache
    and the host.  What a store writes or empties changes no file outside its
    folder. -/

namespace Stencil

variable [FileSystem]

/-! ## Sources -/

/-- What compiling the present source of a template comes to. -/
def Sources.compiled (sources : Sources) (ns : List Char) (tree : FileTree)
    (template : TemplateId) : Except Fault (List Char) := do
  let file ← sources.sourceFile tree template
  let text ← textOf file
  (Directive.compile ns Directive.standardRules text).mapError (.uncompilable template)

omit [FileSystem] in
/-- The text of a file is the text that it was written for, if its line ends are unified. -/
theorem Sources.textOf_encodeText (text : String) (changed : Binary64) :
    textOf ⟨encodeText text, changed⟩ = .ok (Text.unifyLines text.toList) := by
  rw [textOf, decodeText?_encodeText]

theorem Sources.sourceFile_eq_ok_iff {sources : Sources} {tree : FileTree} {template : TemplateId}
    {file : File} : sources.sourceFile tree template = .ok file
      ↔ ∃ place, sources.locate template = .ok place ∧ tree.file? place = some file := by
  rw [sourceFile]
  cases sources.locate template with
  | error fault =>
      constructor
      · intro h
        cases h
      · rintro ⟨_, h, _⟩
        cases h
  | ok place =>
      simp only [bind, Except.bind]
      cases hfile : tree.file? place with
      | none =>
          constructor
          · intro h
            dsimp only at h
            split at h <;> cases h
          · rintro ⟨_, h, hsome⟩
            cases h
            rw [hfile] at hsome
            cases hsome
      | some found =>
          constructor
          · intro h
            cases h
            exact ⟨place, rfl, hfile⟩
          · rintro ⟨_, h, hsome⟩
            cases h
            rw [hfile] at hsome
            cases hsome
            rfl

/-- What the lack of a template's source comes to: the template is not found, or a path is none for
    the system. -/
inductive Sources.Lacks (template : TemplateId) : Fault → Prop
  | notFound (path : Option String) : Lacks template (.notFound template path)
  | defect (defect : PathDefect) : Lacks template (.trouble (.path defect))

theorem Sources.lacks_of_locate {sources : Sources} {template : TemplateId} {fault : Fault}
    (h : sources.locate template = .error fault) : Lacks template fault := by
  rw [locate] at h
  dsimp only at h
  split at h
  · cases h
    exact .notFound none
  · split at h
    · cases h
      exact .notFound none
    · split at h
      · cases h
        exact .defect .null
      · split at h
        · cases h
          exact .defect .endless
        · split at h
          · cases h
          · cases h
            exact .notFound _

/-- Where its file is missing a template is not found, unless the system refuses to look there. -/
theorem Sources.sourceFile_of_missing {sources : Sources} {tree : FileTree} {template : TemplateId}
    {place : Location} (hlocate : sources.locate template = .ok place)
    (hnone : tree.file? place = none) : sources.sourceFile tree template
      = .error (if sources.isRefused tree template place then .trouble (.path .tooLong)
        else .notFound template (some place.text)) := by
  rw [sourceFile, hlocate]
  simp only [bind, Except.bind, hnone]
  split <;> rfl

/-- Without its file a template is not found, unless its path is none for the system. -/
theorem Sources.lacks_of_sourceFile {sources : Sources} {tree : FileTree}
    {template : TemplateId} {fault : Fault} (h : sources.sourceFile tree template = .error fault) :
    Lacks template fault := by
  rw [sourceFile] at h
  cases hlocate : sources.locate template with
  | error other =>
      rw [hlocate] at h
      cases h
      exact lacks_of_locate hlocate
  | ok place =>
      rw [hlocate] at h
      simp only [bind, Except.bind] at h
      split at h
      · cases h
      · split at h
        · cases h
          exact .defect .tooLong
        · cases h
          exact .notFound _

omit [FileSystem] in
theorem Sources.undecodable_of_textOf {file : File} {fault : Fault}
    (h : textOf file = .error fault) : fault = .trouble .undecodable := by
  rw [textOf] at h
  split at h
  · cases h
  · cases h
    rfl

theorem Sources.compiled_of_file {sources : Sources} {ns : List Char} {tree : FileTree}
    {template : TemplateId} {file : File} (h : sources.sourceFile tree template = .ok file) :
    sources.compiled ns tree template = (do
      let text ← textOf file
      (Directive.compile ns Directive.standardRules text).mapError (.uncompilable template)) := by
  rw [compiled, h]
  rfl

/-- What a source compiles to if it was written for a text. -/
theorem Sources.compiled_of_text {sources : Sources} {ns : List Char} {tree : FileTree}
    {template : TemplateId} {text : String} {changed : Binary64} {code : List Char}
    (hfile : sources.sourceFile tree template = .ok ⟨encodeText text, changed⟩)
    (hcompile : Directive.compile ns Directive.standardRules (Text.unifyLines text.toList)
      = .ok code) : sources.compiled ns tree template = .ok code := by
  rw [compiled_of_file hfile, textOf_encodeText]
  show (Directive.compile _ _ _).mapError _ = _
  rw [hcompile]
  rfl

/-- A source lies below the root of its role. -/
theorem Sources.root_of_locate {sources : Sources} {template : TemplateId} {place : Location}
    (h : sources.locate template = .ok place) :
    ∃ root, sources.root? template.role = some root ∧ root.isWithin place = true := by
  rw [locate] at h
  generalize plainName template.name = name at h
  cases hroot : sources.root? template.role with
  | none =>
      rw [hroot] at h
      cases h
  | some root =>
      rw [hroot] at h
      dsimp only at h
      split at h
      · cases h
      · split at h
        · cases h
        · split at h
          · cases h
          · split at h
            · next hwithin =>
              cases h
              exact ⟨root, rfl, hwithin⟩
            · cases h

/-- Whether two trees have the same at the root of a template and below it. -/
def Sources.AgreeFor (sources : Sources) (template : TemplateId) (tree other : FileTree) : Prop :=
  ∀ root, sources.root? template.role = some root → ∀ place, root.isWithin place = true →
    other.node? place = tree.node? place

/-- Whether two trees have the same wherever a folder is neither above nor below. -/
def FileTree.AgreeBeside (dir : Location) (tree other : FileTree) : Prop :=
  ∀ place, dir.isWithin place = false → place.isWithin dir = false →
    other.node? place = tree.node? place

omit [FileSystem] in
/-- Folders on the way to a folder are not beside it. -/
theorem FileTree.agreeBeside_makeFolders? {tree made : FileTree} {dir : Location}
    (h : tree.makeFolders? dir = some made) : tree.AgreeBeside dir made := by
  intro place _ hbelow
  rw [node?_makeFolders? h, if_neg]
  intro hway
  have hprefix := (mem_wayTo_iff.mp hway).2
  rw [Location.isWithin, List.isPrefixOf_iff_prefix.mpr hprefix] at hbelow
  cases hbelow

omit [FileSystem] in
/-- A file inside a folder and what is on the way to it are not beside the folder. -/
theorem FileTree.agreeBeside_write? {tree written : FileTree} {dir here : Location} {file : File}
    (h : tree.write? here file = some written) (hwithin : dir.isWithin here = true) :
    tree.AgreeBeside dir written := by
  intro place habove hbelow
  have hdir := List.isPrefixOf_iff_prefix.mp hwithin
  rw [node?_write? h, if_neg (by rintro rfl; exact absurd hwithin (by simp [habove])), if_neg]
  intro hway
  have hprefix := (mem_wayTo_iff.mp hway).2.trans (List.dropLast_prefix here)
  -- of two locations that one place lies in, one lies in the other
  rcases List.prefix_or_prefix_of_prefix hdir hprefix with hinside | hinside
  · rw [Location.isWithin, List.isPrefixOf_iff_prefix.mpr hinside] at habove
    cases habove
  · rw [Location.isWithin, List.isPrefixOf_iff_prefix.mpr hinside] at hbelow
    cases hbelow

omit [FileSystem] in
/-- Whether a location can be looked for depends on what lies from the root on. -/
theorem FileTree.isTooLong_congr {tree other : FileTree} {root : Location}
    (h : ∀ place, root.isWithin place = true → other.node? place = tree.node? place)
    (here : Location) : other.isTooLong root here = tree.isTooLong root here := by
  rw [isTooLong, isTooLong]
  refine congrArg _ (congrArg _ (funext fun place => ?_))
  cases hwithin : root.isWithin place.dropLast with
  | false => rfl
  | true => rw [isFolder, isFolder, h _ hwithin]

/-- The source of a template depends on what lies below its root only. -/
theorem Sources.sourceFile_congr {sources : Sources} {tree other : FileTree}
    {template : TemplateId} (h : sources.AgreeFor template tree other) :
    sources.sourceFile other template = sources.sourceFile tree template := by
  rw [sourceFile, sourceFile]
  cases hlocate : sources.locate template with
  | error fault => rfl
  | ok place =>
      obtain ⟨root, hroot, hwithin⟩ := root_of_locate hlocate
      have hrefused : sources.isRefused other template place
          = sources.isRefused tree template place := by
        rw [isRefused, isRefused, hroot]
        exact FileTree.isTooLong_congr (h root hroot) place
      simp only [bind, Except.bind]
      rw [FileTree.file?, FileTree.file?, h root hroot place hwithin, hrefused]

/-- What compiling comes to depends on what lies below the root only. -/
theorem Sources.compiled_congr {sources : Sources} {ns : List Char} {tree other : FileTree}
    {template : TemplateId} (h : sources.AgreeFor template tree other) :
    sources.compiled ns other template = sources.compiled ns tree template := by
  rw [compiled, compiled, sourceFile_congr h]

theorem Sources.changed_of_sourceFile {sources : Sources} {tree : FileTree}
    {template : TemplateId} {file : File} (h : sources.sourceFile tree template = .ok file) :
    sources.changed tree template = .ok file.changed := by
  rw [changed, h]
  rfl

theorem Sources.read_of_sourceFile {sources : Sources} {tree : FileTree} {template : TemplateId}
    {file : File} (h : sources.sourceFile tree template = .ok file) :
    sources.read tree template = (fun text => (text, file.changed)) <$> textOf file := by
  obtain ⟨place, hlocate, hfile⟩ := sourceFile_eq_ok_iff.mp h
  rw [read, hlocate]
  simp only [bind, Except.bind]
  rw [hfile]
  dsimp only
  cases textOf file <;> rfl

/-! ## Tables -/

namespace Table

omit [FileSystem]

variable {α β : Type} [BEq α] [LawfulBEq α]

theorem mem_of_get? {table : Table α β} {key : α} {value : β} (h : table.get? key = some value) :
    (key, value) ∈ table.entries :=
  mem_of_lookup h

/-- What a table has after a value was put, as a choice between keys. -/
theorem get?_put_if [DecidableEq α] (table : Table α β) (key : α) (value : β) (other : α) :
    (table.put key value).get? other = if other = key then some value else table.get? other := by
  rw [get?_put]
  simp only [beq_iff_eq]

theorem mem_put {table : Table α β} {key : α} {value : β} {entry : α × β}
    (h : entry ∈ (table.put key value).entries) : entry = (key, value) ∨ entry ∈ table.entries := by
  rw [put] at h
  simp only at h
  generalize table.entries = entries at h ⊢
  induction entries with
  | nil => exact .inl (List.mem_singleton.mp h)
  | cons other entries ih =>
      obtain ⟨k, v⟩ := other
      rw [putIn] at h
      split at h
      case isTrue hkey =>
        rcases List.mem_cons.mp h with rfl | h
        · exact .inl (by rw [eq_of_beq hkey])
        · exact .inr (List.mem_cons_of_mem _ h)
      case isFalse =>
        rcases List.mem_cons.mp h with rfl | h
        · exact .inr List.mem_cons_self
        · exact (ih h).imp_right (List.mem_cons_of_mem _)

/-- The keys of a table after a value was put. -/
theorem mem_keys_put {table : Table α β} {key other : α} {value : β} :
    other ∈ (table.put key value).entries.map Prod.fst
      ↔ other = key ∨ other ∈ table.entries.map Prod.fst := by
  rw [put]
  simp only
  generalize table.entries = entries
  induction entries with
  | nil => simp [putIn]
  | cons entry entries ih =>
      obtain ⟨k, v⟩ := entry
      rw [putIn]
      split
      case isTrue hkey =>
        rw [List.map_cons, List.map_cons, List.mem_cons, eq_of_beq hkey]
        exact ⟨fun h => .inr h, fun h => h.elim .inl id⟩
      case isFalse =>
        rw [List.map_cons, List.map_cons, List.mem_cons, List.mem_cons, ih]
        exact ⟨fun h => h.elim (fun h => .inr (.inl h)) (Or.imp_right .inr),
          fun h => h.elim (fun h => .inr (.inl h)) (Or.imp_right .inr)⟩

end Table

/-! ## The equations of resolving -/

/-- The artifact that a stored entry becomes. -/
def Stored.artifact (found : Stored) (stamp : Nat) : Artifact :=
  ⟨found.template, found.code, found.storedAt, stamp⟩

namespace Cache

variable {sources : Sources} {ns : List Char} {template : TemplateId} {cache : Cache} {host : Host}
  {file : File}

/-- The artifact of a template that was compiled. -/
def compiledArtifact (template : TemplateId) (code : List Char) (storedAt : Binary64)
    (stamp : Nat) : Artifact :=
  ⟨template, .text (String.ofList code), storedAt, stamp⟩

/-- The files after the store, if there is one, has written an entry. -/
def filesWith (cache : Cache) (tree : FileTree) (template : TemplateId) (code : String)
    (storedAt now : Binary64) : FileTree :=
  match cache.store with
  | none => tree
  | some store => store.keep tree template code storedAt now

/-- What resolving can come to: the source is missing, the memory or the store has a fresh entry,
    the store is troubled, or the source is read and compiled. -/
inductive Resolution (sources : Sources) (ns : List Char) (template : TemplateId) (cache : Cache)
    (host : Host) : Resolved → Prop
  | missing {fault : Fault} (hfile : sources.sourceFile host.files template = .error fault) :
      Resolution sources ns template cache host (.error fault, cache, host)
  | fresh {file : File} {entry : Entry} (hfile : sources.sourceFile host.files template = .ok file)
      (hentry : cache.memory.get? template = some entry)
      (hfresh : file.changed.le entry.storedAt = true) :
      Resolution sources ns template cache host (.ok entry.artifact, cache, host)
  | troubled {file : File} {store : Store} {cause : Trouble}
      (hfile : sources.sourceFile host.files template = .ok file)
      (hstale : cache.fresh? template file.changed = none) (hstore : cache.store = some store)
      (hfind : store.find host.files template = .error cause) :
      Resolution sources ns template cache host (.error (.trouble cause), cache, host)
  | stored {file : File} {store : Store} {found : Stored}
      (hfile : sources.sourceFile host.files template = .ok file)
      (hstale : cache.fresh? template file.changed = none) (hstore : cache.store = some store)
      (hfind : store.find host.files template = .ok (some found))
      (hfresh : file.changed.le found.storedAt = true) :
      Resolution sources ns template cache host (.ok (found.artifact host.stamps),
        cache.remember host template (found.artifact host.stamps))
  | unreadable {file : File} {fault : Fault}
      (hfile : sources.sourceFile host.files template = .ok file)
      (hstale : cache.fresh? template file.changed = none)
      (htext : Sources.textOf file = .error fault) :
      Resolution sources ns template cache host (.error fault, cache, host)
  | refused {file : File} {text : List Char} {error : Directive.Error}
      (hfile : sources.sourceFile host.files template = .ok file)
      (hstale : cache.fresh? template file.changed = none)
      (htext : Sources.textOf file = .ok text)
      (hcompile : Directive.compile ns Directive.standardRules text = .error error) :
      Resolution sources ns template cache host
        (.error (.uncompilable template error), cache, { host with compiles := host.compiles + 1 })
  | compiled {file : File} {text code : List Char} {storedAt : Binary64}
      (hfile : sources.sourceFile host.files template = .ok file)
      (hstale : cache.fresh? template file.changed = none)
      (htext : Sources.textOf file = .ok text)
      (hcompile : Directive.compile ns Directive.standardRules text = .ok code)
      (htime : storedAt = host.clock.largest file.changed) :
      Resolution sources ns template cache host
        (.ok (compiledArtifact template code storedAt host.stamps),
          (cache.remember host template
            (compiledArtifact template code storedAt host.stamps)).1,
          ⟨cache.filesWith host.files template (String.ofList code) storedAt host.clock,
            host.clock, host.compiles + 1, host.stamps + 1⟩)

/-- A source that compiles becomes an artifact, which is kept in memory and in the store. -/
theorem build_of_compile {text code : List Char}
    (hfile : sources.sourceFile host.files template = .ok file)
    (htext : Sources.textOf file = .ok text)
    (hcompile : Directive.compile ns Directive.standardRules text = .ok code) :
    build sources ns template cache host
      = let artifact := compiledArtifact template code (host.clock.largest file.changed) host.stamps
        (.ok artifact, (cache.remember host template artifact).1,
          ⟨cache.filesWith host.files template (String.ofList code) artifact.compiledAt host.clock,
            host.clock, host.compiles + 1, host.stamps + 1⟩) := by
  rw [build, Sources.read_of_sourceFile hfile, htext]
  simp only [Functor.map, Except.map, hcompile]
  rcases cache with ⟨memory, _ | store⟩ <;> rfl

/-- A source that is no text is not compiled. -/
theorem build_of_unreadable {fault : Fault}
    (hfile : sources.sourceFile host.files template = .ok file)
    (htext : Sources.textOf file = .error fault) :
    build sources ns template cache host = (.error fault, cache, host) := by
  rw [build, Sources.read_of_sourceFile hfile, htext]
  rfl

/-- A source that is refused is compiled, and nothing is kept. -/
theorem build_of_refused {text : List Char} {error : Directive.Error}
    (hfile : sources.sourceFile host.files template = .ok file)
    (htext : Sources.textOf file = .ok text)
    (hcompile : Directive.compile ns Directive.standardRules text = .error error) :
    build sources ns template cache host
      = (.error (.uncompilable template error), cache,
        { host with compiles := host.compiles + 1 }) := by
  rw [build, Sources.read_of_sourceFile hfile, htext]
  simp only [Functor.map, Except.map, hcompile]

theorem resolution_build {file : File} (hfile : sources.sourceFile host.files template = .ok file)
    (hstale : cache.fresh? template file.changed = none) :
    Resolution sources ns template cache host (build sources ns template cache host) := by
  cases htext : Sources.textOf file with
  | error fault =>
      rw [build_of_unreadable hfile htext]
      exact .unreadable hfile hstale htext
  | ok text =>
      cases hcompile : Directive.compile ns Directive.standardRules text with
      | error error =>
          rw [build_of_refused hfile htext hcompile]
          exact .refused hfile hstale htext hcompile
      | ok code =>
          rw [build_of_compile hfile htext hcompile]
          exact .compiled hfile hstale htext hcompile rfl

/-- Without its source a template does not resolve. -/
theorem resolve_of_missing {fault : Fault}
    (hfile : sources.sourceFile host.files template = .error fault) :
    resolve sources ns template cache host = (.error fault, cache, host) := by
  have hchanged : sources.changed host.files template = .error fault := by
    rw [Sources.changed, hfile]
    rfl
  rw [resolve, hchanged]

/-- A fresh entry in memory is the answer. -/
theorem resolve_of_fresh {entry : Entry}
    (hfile : sources.sourceFile host.files template = .ok file)
    (hfresh : cache.fresh? template file.changed = some entry) :
    resolve sources ns template cache host = (.ok entry.artifact, cache, host) := by
  rw [resolve, Sources.changed_of_sourceFile hfile]
  simp only [hfresh]

/-- Without a fresh entry in memory the store is asked, and then the source is compiled. -/
theorem resolve_of_stale (hfile : sources.sourceFile host.files template = .ok file)
    (hstale : cache.fresh? template file.changed = none) :
    resolve sources ns template cache host
      = match cache.stored host.files template file.changed with
        | .error trouble => (.error (.trouble trouble), cache, host)
        | .ok (some found) => (.ok (found.artifact host.stamps),
            cache.remember host template (found.artifact host.stamps))
        | .ok none => build sources ns template cache host := by
  rw [resolve, Sources.changed_of_sourceFile hfile]
  simp only [hstale]
  rfl

/-- Every resolve comes to one of the resolutions. -/
theorem resolution (sources : Sources) (ns : List Char) (template : TemplateId) (cache : Cache)
    (host : Host) :
    Resolution sources ns template cache host (resolve sources ns template cache host) := by
  cases hfile : sources.sourceFile host.files template with
  | error fault =>
      rw [resolve_of_missing hfile]
      exact .missing hfile
  | ok file =>
      -- the memory is asked first, then the store, and last the source is compiled
      cases hfresh : cache.fresh? template file.changed with
      | some entry =>
          obtain ⟨hentry, htime⟩ := Option.filter_eq_some_iff.mp hfresh
          rw [resolve_of_fresh hfile hfresh]
          exact .fresh hfile hentry htime
      | none =>
          rw [resolve_of_stale hfile hfresh, stored]
          cases hstore : cache.store with
          | none => exact resolution_build hfile hfresh
          | some store =>
              simp only
              cases hfind : store.find host.files template with
              | error cause => exact .troubled hfile hfresh hstore hfind
              | ok found =>
                  simp only [bind, Except.bind, pure, Except.pure]
                  cases hkept : found.filter fun stored => file.changed.le stored.storedAt with
                  | none => exact resolution_build hfile hfresh
                  | some entry =>
                      obtain ⟨rfl, htime⟩ := Option.filter_eq_some_iff.mp hkept
                      exact .stored hfile hfresh hstore hfind htime

end Cache

/-! ## What a store does to the files -/

namespace Store

omit [FileSystem] in
theorem keep_eq (store : Store) (tree : FileTree) (template : TemplateId) (code : String)
    (storedAt now : Binary64) :
    store.keep tree template code storedAt now
      = if store.enabled then
          (tree.write? (store.place template)
            ⟨Entry.bytes template code storedAt now, now⟩).getD tree
        else tree := rfl

omit [FileSystem] in
/-- After an entry was written every file is as it was, but for the entry itself if the store could
    write it. -/
theorem file?_keep (store : Store) (tree : FileTree) (template : TemplateId) (code : String)
    (storedAt now : Binary64) (there : Location) :
    (store.keep tree template code storedAt now).file? there = tree.file? there
      ∨ (there = store.place template
        ∧ (store.keep tree template code storedAt now).file? there
          = some ⟨Entry.bytes template code storedAt now, now⟩) := by
  rw [keep_eq]
  split
  case isFalse => exact .inl rfl
  case isTrue =>
    cases hwritten : tree.write? (store.place template)
        ⟨Entry.bytes template code storedAt now, now⟩ with
    | none => exact .inl rfl
    | some written =>
        rw [Option.getD_some, FileTree.file?_write? hwritten]
        by_cases hplace : there = store.place template
        · exact .inr ⟨hplace, if_pos hplace⟩
        · exact .inl (if_neg hplace)

omit [FileSystem] in
/-- The folder of a store stays where it is when an entry is written. -/
theorem isFolder_keep {store : Store} {tree : FileTree} (h : tree.isFolder store.dir = true)
    (template : TemplateId) (code : String) (storedAt now : Binary64) :
    (store.keep tree template code storedAt now).isFolder store.dir = true := by
  rw [keep_eq]
  split
  case isFalse => exact h
  case isTrue =>
    cases hwritten : tree.write? (store.place template)
        ⟨Entry.bytes template code storedAt now, now⟩ with
    | none => exact h
    | some written =>
        have hplace : store.dir ≠ store.place template := by
          intro heq
          have hlength := congrArg List.length heq
          rw [length_place] at hlength
          omega
        rw [Option.getD_some, FileTree.isFolder, FileTree.node?_write? hwritten, if_neg hplace]
        split
        · rfl
        · exact h

omit [FileSystem] in
/-- An entry that is written changes nothing beside the folder of its store. -/
theorem agreeBeside_keep (store : Store) (tree : FileTree) (template : TemplateId) (code : String)
    (storedAt now : Binary64) :
    tree.AgreeBeside store.dir (store.keep tree template code storedAt now) := by
  rw [keep_eq]
  split
  case isFalse => exact fun _ _ _ => rfl
  case isTrue =>
    cases hwritten : tree.write? (store.place template)
        ⟨Entry.bytes template code storedAt now, now⟩ with
    | none => exact fun _ _ _ => rfl
    | some written => exact FileTree.agreeBeside_write? hwritten (store.place_isWithin template)

/-- A store for which no link stands is enabled exactly if no file lies on the way to its folder. -/
theorem enabled_make_iff {tree : FileTree} {path : Location} (hlinked : isLinked path = false) :
    (make tree path).1.enabled = true
      ↔ ∀ above ∈ FileTree.wayTo (folder path), tree.file? above = none := by
  rw [← FileTree.exists_makeFolders?_iff, make]
  simp only [hlinked, Bool.false_eq_true, if_false]
  cases tree.makeFolders? (folder path) with
  | none => exact ⟨fun h => absurd h Bool.false_ne_true, fun ⟨_, h⟩ => absurd h (by simp)⟩
  | some made => exact ⟨fun _ => ⟨made, rfl⟩, fun _ => rfl⟩

theorem dir_make (tree : FileTree) (path : Location) : (make tree path).1.dir = folder path := by
  rw [make]
  split
  · rfl
  · split <;> rfl

/-- A store for which a link stands is enabled exactly if the link leads to a folder. -/
theorem enabled_make_of_isLinked {tree : FileTree} {path : Location}
    (hlinked : isLinked path = true) :
    (make tree path).1.enabled = ((Location.real? path).isSome && tree.isFolder (folder path)) := by
  rw [make, if_pos hlinked, folder]
  cases Location.real? path <;> rfl

/-- But for whether it is enabled, a store depends on its path only. -/
theorem make_fst (tree : FileTree) (path : Location) :
    (make tree path).1 = ⟨folder path, (make tree path).1.enabled, path, isLinked path⟩ := by
  rw [make]
  split
  · next h => rw [h]
  · next h => split <;> rw [Bool.eq_false_of_not_eq_true h]

/-- Making a store makes its folder, or changes nothing. -/
theorem make_snd_cases (tree : FileTree) (path : Location) :
    (make tree path).2 = tree ∨ isLinked path = false
      ∧ ∃ made, tree.makeFolders? (folder path) = some made ∧ (make tree path).2 = made := by
  rw [make]
  split
  · exact .inl rfl
  · next hlinked =>
    split
    · next made hmade => exact .inr ⟨Bool.eq_false_of_not_eq_true hlinked, made, hmade, rfl⟩
    · exact .inl rfl

/-- Making a store changes no file. -/
theorem file?_make (tree : FileTree) (path there : Location) :
    (make tree path).2.file? there = tree.file? there := by
  rcases make_snd_cases tree path with hsame | ⟨-, made, hmade, hsame⟩
  · rw [hsame]
  · rw [hsame, FileTree.file?_makeFolders? hmade]

/-- Making a store changes nothing beside its folder. -/
theorem agreeBeside_make (tree : FileTree) (path : Location) :
    tree.AgreeBeside (folder path) (make tree path).2 := by
  rcases make_snd_cases tree path with hsame | ⟨-, made, hmade, hsame⟩
  · rw [hsame]
    exact fun _ _ _ => rfl
  · rw [hsame]
    exact FileTree.agreeBeside_makeFolders? hmade

omit [FileSystem] in
/-- What lies in the files after a store was emptied lay there before. -/
theorem file?_purge (store : Store) (tree : FileTree) {there : Location} {file : File}
    (h : (store.purge tree).file? there = some file) : tree.file? there = some file := by
  have hmade (tree : FileTree) :
      ((tree.makeFolders? store.dir).getD tree).file? there = tree.file? there := by
    cases hfolders : tree.makeFolders? store.dir with
    | none => rfl
    | some made => exact FileTree.file?_makeFolders? hfolders there
  rw [purge] at h
  split at h
  · exact h
  · simp only [hmade] at h
    split at h
    case isTrue =>
      rw [FileTree.file?_remove] at h
      split at h
      case isTrue => cases h
      case isFalse => exact h
    case isFalse => exact h

end Store

end Stencil
