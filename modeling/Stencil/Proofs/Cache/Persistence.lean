import Mathlib.Data.List.Dedup
import Stencil.Proofs.Cache.Folder
import Stencil.Proofs.Cache.History
import Stencil.Proofs.Files.Listing
import Stencil.Proofs.Files.Pattern

/-! # Persistence — a store is a map that survives restarts

    What was put last for a template is what a store finds, whichever store over
    the folder has put it, until one of them is purged.  Nothing is ever in the way
    of an entry, so every put is written; the file at each place below the folder
    is that of the last put there, and a summary counts one file for each template.
    Where a link stands for the folder a purge forgets nothing.

    Headline: `store_persistent`. -/

namespace Stencil

/-! ## Puts -/

/-- What is put into a store: a template's code, the time it is stored for, and the moment of
    writing. -/
structure Put where
  template : TemplateId
  code : String
  storedAt : Binary64
  now : Binary64

namespace Put

/-- The bytes of the entry of a put. -/
def bytes (put : Put) : List UInt8 :=
  Entry.bytes put.template put.code put.storedAt put.now

/-- The file of the entry of a put. -/
def file (put : Put) : File :=
  ⟨put.bytes, put.now⟩

/-- What is found of a put: its code and its time. -/
def stored (put : Put) : Stored :=
  ⟨put.template.reread, .text put.code, put.storedAt⟩

/-- The tree in which a store has kept a put. -/
def keep (put : Put) (store : Store) (tree : FileTree) : FileTree :=
  store.keep tree put.template put.code put.storedAt put.now

/-- The last of some puts for a template. -/
def last? (puts : List Put) (template : TemplateId) : Option Put :=
  puts.find? fun put => put.template == template

/-- The last of some puts for each template. -/
def latest (puts : List Put) : List Put :=
  (puts.map Put.template).dedup.filterMap (last? puts)

/-- A put as a build under the digest of its key. -/
def build (put : Put) : String × Build :=
  (put.template.cacheKey, ⟨put.code.toList, put.storedAt⟩)

theorem last?_eq_some {puts : List Put} {template : TemplateId} {put : Put}
    (h : last? puts template = some put) : put ∈ puts ∧ put.template = template :=
  ⟨List.mem_of_find?_eq_some h, eq_of_beq (List.find?_some h :)⟩

/-- There is a last put for each template of a put. -/
theorem exists_last? {puts : List Put} {template : TemplateId}
    (h : template ∈ puts.map Put.template) : ∃ put, last? puts template = some put := by
  obtain ⟨put, hput, htemplate⟩ := List.mem_map.mp h
  exact Option.isSome_iff_exists.mp
    (List.find?_isSome.mpr ⟨put, hput, beq_iff_eq.mpr htemplate⟩)

/-- The latest puts are the last ones for their templates. -/
theorem mem_latest_iff {puts : List Put} {put : Put} :
    put ∈ latest puts ↔ last? puts put.template = some put := by
  rw [latest, List.mem_filterMap]
  constructor
  · rintro ⟨template, -, hlast⟩
    rw [(last?_eq_some hlast).2]
    exact hlast
  · intro hlast
    have hput := List.mem_map_of_mem (f := Put.template) (last?_eq_some hlast).1
    exact ⟨put.template, List.mem_dedup.mpr hput, hlast⟩

/-- Each template that was put has one latest put. -/
theorem map_template_latest (puts : List Put) :
    (latest puts).map Put.template = (puts.map Put.template).dedup := by
  rw [latest, List.map_filterMap]
  refine (List.filterMap_congr fun template hmem => ?_).trans List.filterMap_some
  obtain ⟨put, hlast⟩ := exists_last? (List.mem_dedup.mp hmem)
  rw [hlast, Option.map_some, (last?_eq_some hlast).2]

end Put

/-! ## Histories -/

/-- An enabled store over a path. -/
abbrev Store.ofPath [FileSystem] (path : Location) : Store :=
  ⟨folder path, true, path, isLinked path⟩

/-- The histories of stores over a path to a folder that is empty at first, with the puts since the
    folder was emptied, the latest first, and the trees they lead to.  A purge empties it, unless a
    link stands for it.  A store may be made anew at any time; others change nothing in the folder
    and put no file in its way. -/
inductive Puts [FileSystem] (path : Location) : List Put → FileTree → Prop
  | start {tree : FileTree} (hproper : tree.IsProper)
      (henabled : (Store.make tree path).1.enabled = true)
      (hway : ∀ above ∈ FileTree.wayTo (Store.folder path), tree.file? above = none)
      (hempty : ∀ place, (Store.folder path).isWithin place → place ≠ Store.folder path →
        tree.node? place = none) : Puts path [] (Store.make tree path).2
  | put {puts : List Put} {tree : FileTree} (put : Put) (hcanonical : put.storedAt.IsCanonical)
      (h : Puts path puts tree) : Puts path (put :: puts) (put.keep (.ofPath path) tree)
  | purge {puts : List Put} {tree : FileTree} (h : Puts path puts tree) :
      Puts path (if Store.isLinked path then puts else []) ((Store.ofPath path).purge tree)
  | reopen {puts : List Put} {tree : FileTree} (h : Puts path puts tree) :
      Puts path puts (Store.make tree path).2
  | others {puts : List Put} {tree next : FileTree} (hproper : next.IsProper)
      (hsame : ∀ place, (Store.folder path).isWithin place → next.node? place = tree.node? place)
      (hway : ∀ above ∈ FileTree.wayTo (Store.folder path), next.file? above = none)
      (h : Puts path puts tree) : Puts path puts next

/-- Whether what lies below a folder is the entries of puts. -/
structure Shelved (puts : List Put) (dir : Location) (tree : FileTree) : Prop where
  proper : tree.IsProper
  way : ∀ above ∈ FileTree.wayTo dir, tree.file? above = none
  folder : tree.node? dir = some .folder
  keeps : KeptIn (puts.map Put.build) dir tree
  files : ∀ place, dir.isWithin place → tree.file? place
    = (puts.find? fun put => (Store.upon dir).place put.template == place).map Put.file

/-! ### Folders -/

/-- A folder that is made is there. -/
theorem FileTree.node?_makeFolders?_self {tree made : FileTree} {dir : Location}
    (h : tree.makeFolders? dir = some made) : made.node? dir = some .folder := by
  by_cases hdir : dir = []
  · rw [hdir]
    rfl
  · rw [node?_makeFolders? h, if_pos (mem_wayTo_iff.mpr ⟨hdir, List.prefix_refl dir⟩)]

/-- Where nothing is in the way a store is enabled, and its folder is made. -/
theorem Store.make_of_way [FileSystem] {tree : FileTree} {path : Location}
    (hlinked : isLinked path = false)
    (h : ∀ above ∈ FileTree.wayTo (folder path), tree.file? above = none) :
    ∃ made, tree.makeFolders? (folder path) = some made
      ∧ Store.make tree path = (.ofPath path, made) := by
  obtain ⟨made, hmade⟩ := FileTree.exists_makeFolders? h
  refine ⟨made, hmade, ?_⟩
  rw [make, Store.ofPath, hlinked, if_neg Bool.false_ne_true]
  simp only [hmade]

/-- A store for which a link stands makes nothing. -/
theorem Store.make_snd_of_isLinked [FileSystem] {path : Location} (hlinked : isLinked path = true)
    (tree : FileTree) : (Store.make tree path).2 = tree := by
  rw [make, if_pos hlinked]

/-- A purge empties the folder, unless a link stands for it. -/
theorem Store.purge_ofPath [FileSystem] (path : Location) (tree : FileTree) :
    (Store.ofPath path).purge tree
      = if isLinked path then tree else (Store.upon (folder path)).purge tree := by
  rw [purge, purge]
  split
  · rfl
  · rfl

/-- A purge removes the folder and makes it anew. -/
theorem Store.purge_of_way {tree : FileTree} {dir : Location}
    (h : ∀ above ∈ FileTree.wayTo dir, tree.file? above = none)
    (hfolder : tree.node? dir = some .folder) :
    ∃ made, (tree.remove dir).makeFolders? dir = some made
      ∧ (Store.upon dir).purge tree = made := by
  have hway : ∀ above ∈ FileTree.wayTo dir, (tree.remove dir).file? above = none := by
    intro above habove
    rw [FileTree.file?_remove, h above habove, ite_self]
  obtain ⟨made, hmade⟩ := FileTree.exists_makeFolders? hway
  refine ⟨made, hmade, ?_⟩
  have hisFolder : tree.isFolder dir = true := by
    rw [FileTree.isFolder, hfolder]
    rfl
  rw [purge, if_neg Bool.false_ne_true]
  simp only [hisFolder, if_true, hmade, Option.getD_some]

/-- Where nothing lies below a folder that is made, nothing is shelved. -/
theorem Shelved.empty {tree made : FileTree} {dir : Location} (hproper : tree.IsProper)
    (hway : ∀ above ∈ FileTree.wayTo dir, tree.file? above = none)
    (hmade : tree.makeFolders? dir = some made)
    (hempty : ∀ place, dir.isWithin place → place ≠ dir → tree.node? place = none) :
    Shelved [] dir made := by
  have hnone : ∀ place, dir.isWithin place → place ≠ dir → made.node? place = none := by
    intro place hwithin hplace
    rw [FileTree.node?_makeFolders? hmade, if_neg, hempty place hwithin hplace]
    intro hmem
    -- a place on the way to the folder lies in it only if it is the folder
    have hprefix := List.isPrefixOf_iff_prefix.mp hwithin
    exact hplace (List.IsPrefix.eq_of_length_le hprefix (FileTree.length_le_of_mem_wayTo hmem)).symm
  have hfolder := FileTree.node?_makeFolders?_self hmade
  have hfile : made.file? dir = none := by
    rw [FileTree.file?, hfolder]
  refine ⟨hproper.makeFolders? hmade, ?_, hfolder, .empty hfile hnone, ?_⟩
  · intro above habove
    rw [FileTree.file?_makeFolders? hmade, hway above habove]
  · intro place hwithin
    by_cases hplace : place = dir
    · rw [hplace, hfile]
      rfl
    · rw [FileTree.file?, hnone place hwithin hplace]
      rfl

/-! ### What each step keeps -/

namespace Shelved

variable {puts : List Put} {dir : Location} {tree : FileTree}

/-- A put is written. -/
theorem write?_keep (h : Shelved puts dir tree) (put : Put) :
    tree.write? ((Store.upon dir).place put.template) put.file
      = some (put.keep (.upon dir) tree) :=
  h.keeps.write?_keep h.way put.template put.code put.storedAt put.now

/-- A put changes the file of its entry only. -/
theorem file?_keep (h : Shelved puts dir tree) (put : Put) (there : Location) :
    (put.keep (.upon dir) tree).file? there
      = if there = (Store.upon dir).place put.template then some put.file
        else tree.file? there :=
  FileTree.file?_write? (h.write?_keep put) there

theorem put (h : Shelved puts dir tree) {put : Put} (hcanonical : put.storedAt.IsCanonical) :
    Shelved (put :: puts) dir (put.keep (.upon dir) tree) := by
  have hwritten := h.write?_keep put
  have hlength := Store.length_place (.upon dir) put.template
  refine ⟨h.proper.write? hwritten, ?_, ?_, ?_, ?_⟩
  · intro above habove
    rw [h.file?_keep, if_neg, h.way above habove]
    rintro rfl
    have hle := FileTree.length_le_of_mem_wayTo habove
    rw [hlength] at hle
    exact absurd hle (Nat.not_le_of_lt (Nat.lt_add_of_pos_right (by decide)))
  · rw [FileTree.node?_write? hwritten, if_neg]
    · split
      · rfl
      · exact h.folder
    · intro hplace
      rw [← hplace] at hlength
      exact absurd hlength (Nat.ne_of_lt (Nat.lt_add_of_pos_right (by decide)))
  · have hkeeps := @KeptIn.keep _ _ _ h.keeps h.way put.template put.build.2 hcanonical put.now
    rw [Put.build, String.ofList_toList] at hkeeps
    exact hkeeps
  · intro place hwithin
    rw [h.file?_keep, List.find?_cons]
    by_cases hplace : place = (Store.upon dir).place put.template
    · rw [if_pos hplace, beq_iff_eq.mpr hplace.symm]
      rfl
    · rw [if_neg hplace, beq_eq_false_iff_ne.mpr (Ne.symm hplace)]
      exact h.files place hwithin

theorem purge (h : Shelved puts dir tree) : Shelved [] dir ((Store.upon dir).purge tree) := by
  obtain ⟨made, hmade, hpurge⟩ := Store.purge_of_way h.way h.folder
  rw [hpurge]
  refine .empty (h.proper.remove dir) ?_ hmade ?_
  · intro above habove
    rw [FileTree.file?_remove, h.way above habove, ite_self]
  · intro place hwithin hplace
    have htop : place.isEmpty = false := by
      cases place with
      | nil => exact absurd (List.prefix_nil.mp (List.isPrefixOf_iff_prefix.mp hwithin)).symm hplace
      | cons name names => rfl
    rw [FileTree.node?, htop, if_neg Bool.false_ne_true, FileTree.remove,
      FileTree.lookup_filter (fun place => !dir.isWithin place) place tree.nodes, hwithin]
    rfl

theorem reopen [FileSystem] {path : Location} (h : Shelved puts (Store.folder path) tree) :
    Shelved puts (Store.folder path) (Store.make tree path).2 := by
  cases hlinked : Store.isLinked path with
  | true =>
      rw [Store.make_snd_of_isLinked hlinked]
      exact h
  | false =>
      obtain ⟨made, hmade, hmake⟩ := Store.make_of_way hlinked h.way
      have hfile := FileTree.file?_makeFolders? hmade
      rw [hmake]
      refine ⟨h.proper.makeFolders? hmade, ?_, FileTree.node?_makeFolders?_self hmade, ?_, ?_⟩
      · exact fun above habove => (hfile above).trans (h.way above habove)
      · refine h.keeps.of_folders hfile fun place hplace => ?_
        rw [FileTree.node?_makeFolders? hmade] at hplace
        split at hplace
        case isTrue hmem => exact .inl (FileTree.length_le_of_mem_wayTo hmem)
        case isFalse => exact .inr hplace
      · exact fun place hwithin => (hfile place).trans (h.files place hwithin)

theorem others (h : Shelved puts dir tree) {next : FileTree} (hproper : next.IsProper)
    (hsame : ∀ place, dir.isWithin place → next.node? place = tree.node? place)
    (hway : ∀ above ∈ FileTree.wayTo dir, next.file? above = none) : Shelved puts dir next where
  proper := hproper
  way := hway
  folder := (hsame dir (List.isPrefixOf_iff_prefix.mpr (List.prefix_refl dir))).trans h.folder
  keeps := h.keeps.congr hsame
  files place hwithin := by
    rw [← h.files place hwithin, FileTree.file?, hsame place hwithin, FileTree.file?]

end Shelved

/-- A folder that is there at first, with nothing in it. -/
theorem Shelved.of_folder {tree : FileTree} {dir : Location} (hproper : tree.IsProper)
    (hway : ∀ above ∈ FileTree.wayTo dir, tree.file? above = none)
    (hfolder : tree.isFolder dir = true)
    (hempty : ∀ place, dir.isWithin place → place ≠ dir → tree.node? place = none) :
    Shelved [] dir tree := by
  have hnode : tree.node? dir = some .folder := eq_of_beq hfolder
  have hfile : tree.file? dir = none := by
    rw [FileTree.file?, hnode]
  refine ⟨hproper, hway, hnode, .empty hfile hempty, fun place hwithin => ?_⟩
  by_cases hplace : place = dir
  · rw [hplace, hfile]
    rfl
  · rw [FileTree.file?, hempty place hwithin hplace]
    rfl

/-- After every history the folder has the entries of its puts. -/
theorem Puts.shelved [FileSystem] {puts : List Put} {path : Location} {tree : FileTree}
    (h : Puts path puts tree) : Shelved puts (Store.folder path) tree := by
  induction h with
  | start hproper henabled hway hempty =>
      cases hlinked : Store.isLinked path with
      | true =>
          rw [Store.enabled_make_of_isLinked hlinked] at henabled
          rw [Store.make_snd_of_isLinked hlinked]
          exact .of_folder hproper hway (Bool.and_eq_true_iff.mp henabled).2 hempty
      | false =>
          obtain ⟨made, hmade, hmake⟩ := Store.make_of_way hlinked hway
          rw [hmake]
          exact .empty hproper hway hmade hempty
  | put put hcanonical _ ih => exact ih.put hcanonical
  | purge _ ih =>
      rw [Store.purge_ofPath]
      split
      · exact ih
      · exact ih.purge
  | reopen _ ih => exact ih.reopen
  | others hproper hsame hway _ ih => exact ih.others hproper hsame hway

/-- A link that stands for the folder of a store leads somewhere. -/
theorem Puts.isSome_real? [FileSystem] {puts : List Put} {path : Location} {tree : FileTree}
    (h : Puts path puts tree) (hlinked : Store.isLinked path = true) :
    (Location.real? path).isSome = true := by
  induction h with
  | start hproper henabled hway hempty =>
      rw [Store.enabled_make_of_isLinked hlinked] at henabled
      exact (Bool.and_eq_true_iff.mp henabled).1
  | put _ _ _ ih => exact ih
  | purge _ ih => exact ih
  | reopen _ ih => exact ih
  | others _ _ _ _ ih => exact ih

/-! ## What is found -/

/-- The last put at the place of a template is the last one for it, if no other template that was
    put has its digest. -/
theorem Put.find?_place {puts : List Put} {template : TemplateId} (store : Store)
    (h : ∀ put ∈ puts, put.template.cacheKey = template.cacheKey → put.template = template) :
    (puts.find? fun put => store.place put.template == store.place template)
      = last? puts template := by
  rw [last?]
  induction puts with
  | nil => rfl
  | cons put puts ih =>
      rw [List.find?_cons, List.find?_cons,
        ih fun other hother => h other (List.mem_cons_of_mem _ hother)]
      by_cases htemplate : put.template = template
      · rw [htemplate, beq_self_eq_true, beq_self_eq_true]
      · have hplace : store.place put.template ≠ store.place template := fun hplace =>
          htemplate (h put List.mem_cons_self (Store.cacheKey_eq_of_place_eq hplace))
        rw [beq_eq_false_iff_ne.mpr htemplate, beq_eq_false_iff_ne.mpr hplace]

section Found

variable {templates : List TemplateId} {puts : List Put} {dir : Location} {tree : FileTree}

/-- The file at the place of a template is that of its last put. -/
theorem Shelved.file?_place (h : Shelved puts dir tree)
    (hcollision : Sha1.CollisionFree (templates.map TemplateId.key))
    (hputs : ∀ put ∈ puts, put.template ∈ templates) {template : TemplateId}
    (htemplate : template ∈ templates) :
    tree.file? ((Store.upon dir).place template)
      = (Put.last? puts template).map Put.file := by
  rw [h.files _ (Store.place_isWithin (.upon dir) template), Put.find?_place]
  exact fun put hput hkey => hcollision.eq htemplate (hputs put hput) hkey

/-- What is found for a template is its last put. -/
theorem Shelved.find (h : Shelved puts dir tree)
    (hcollision : Sha1.CollisionFree (templates.map TemplateId.key))
    (hputs : ∀ put ∈ puts, put.template ∈ templates) {template : TemplateId}
    (htemplate : template ∈ templates) :
    (Store.upon dir).find tree template
      = .ok ((Put.last? puts template).map Put.stored) := by
  have hfile := h.file?_place hcollision hputs htemplate
  cases hlast : Put.last? puts template with
  | none =>
      rw [hlast] at hfile
      exact Store.find_of_none hfile
  | some put =>
      rw [hlast] at hfile
      have hcanonical : put.storedAt.IsCanonical :=
        h.keeps.canonical put.build (List.mem_map_of_mem (Put.last?_eq_some hlast).1)
      exact Store.find_of_bytes rfl hcanonical hfile

/-! ## What is counted -/

/-- Entries are the files that a summary counts. -/
theorem Store.holdLast_below (dir : Location) (template : TemplateId) :
    Pattern.holdLast ["*.json"] (dir.below ((Store.upon dir).place template)) = true := by
  have hname (name : String) : Pattern.holds "*.json" (name ++ ".json") = true := by
    have hliteral : ∀ c ∈ ".json".toList, Pattern.isLiteral c = true :=
      List.all_eq_true.mp (by decide)
    refine (Pattern.holds_star_iff hliteral).mpr ?_
    rw [String.toList_append]
    exact List.suffix_append ..
  rw [Location.below, place, List.drop_left, Pattern.holdLast]
  simp [hname]

/-- The files below the folder are those of the latest puts. -/
theorem Shelved.filesBelow_perm (h : Shelved puts dir tree)
    (hcollision : Sha1.CollisionFree (templates.map TemplateId.key))
    (hputs : ∀ put ∈ puts, put.template ∈ templates) :
    (tree.filesBelow dir).Perm ((Put.latest puts).map fun put =>
      (dir.below ((Store.upon dir).place put.template), put.file)) := by
  have hplace := Store.place_isWithin (Store.upon dir)
  have hlast : ∀ put ∈ Put.latest puts, Put.last? puts put.template = some put
      ∧ put.template ∈ templates := fun put hput =>
    have hlast := Put.mem_latest_iff.mp hput
    ⟨hlast, hputs put (Put.last?_eq_some hlast).1⟩
  have hnodup : ((Put.latest puts).map fun put =>
      (dir.below ((Store.upon dir).place put.template), put.file)).Nodup := by
    refine List.Nodup.map_on ?_ (List.Nodup.of_map Put.template ?_)
    · intro put hput other hother heq
      have hsame := FileTree.below_injective (hplace _) (hplace _) (congrArg Prod.fst heq)
      have htemplate := hcollision.eq (hlast other hother).2 (hlast put hput).2
        (Store.cacheKey_eq_of_place_eq hsame)
      exact Option.some.inj ((hlast put hput).1.symm.trans (htemplate ▸ (hlast other hother).1))
    · rw [Put.map_template_latest]
      exact List.nodup_dedup _
  rw [List.perm_ext_iff_of_nodup (FileTree.nodup_filesBelow h.proper dir) hnodup]
  rintro ⟨names, file⟩
  rw [FileTree.mem_filesBelow_iff h.proper, List.mem_map]
  constructor
  · rintro ⟨place, hwithin, -, rfl, hnode⟩
    -- the file at a place is that of the last put there, which is the last for its template
    have hfile := (h.files place hwithin).symm.trans (FileTree.file?_eq_some_iff.mpr hnode)
    obtain ⟨put, hfind, rfl⟩ := Option.map_eq_some_iff.mp hfile
    have hput := hputs put (List.mem_of_find?_eq_some hfind)
    obtain rfl : (Store.upon dir).place put.template = place :=
      eq_of_beq (List.find?_some hfind :)
    rw [Put.find?_place _ fun other hother hkey => hcollision.eq hput (hputs other hother) hkey]
      at hfind
    exact ⟨put, Put.mem_latest_iff.mpr hfind, rfl⟩
  · rintro ⟨put, hput, heq⟩
    obtain ⟨rfl, rfl⟩ := Prod.mk.inj heq
    obtain ⟨hput, htemplate⟩ := hlast put hput
    have hfile := h.file?_place hcollision hputs htemplate
    rw [hput] at hfile
    refine ⟨_, hplace put.template, ?_, rfl, FileTree.file?_eq_some_iff.mp hfile⟩
    intro hdir
    have hlength := Store.length_place (.upon dir) put.template
    rw [hdir] at hlength
    exact absurd hlength (Nat.ne_of_lt (Nat.lt_add_of_pos_right (by decide)))

/-- The entries in the folder are those of the latest puts. -/
theorem Shelved.files_perm (h : Shelved puts dir tree)
    (hcollision : Sha1.CollisionFree (templates.map TemplateId.key))
    (hputs : ∀ put ∈ puts, put.template ∈ templates) :
    ((Store.upon dir).files tree).Perm ((Put.latest puts).map Put.file) := by
  refine ((h.filesBelow_perm hcollision hputs).filterMap _).trans (.of_eq ?_)
  rw [List.filterMap_map]
  refine List.filterMap_eq_map_iff_forall_eq_some.mpr fun put _ => ?_
  exact if_pos (Store.holdLast_below dir put.template)

/-- The bytes of the entries in the folder are those of the latest puts. -/
theorem Shelved.size_files (h : Shelved puts dir tree)
    (hcollision : Sha1.CollisionFree (templates.map TemplateId.key))
    (hputs : ∀ put ∈ puts, put.template ∈ templates) :
    ((Store.upon dir).files tree).foldl (fun size file => size + file.bytes.length) 0
      = ((Put.latest puts).map fun put => put.bytes.length).sum := by
  rw [← List.foldl_map (f := fun file : File => file.bytes.length) (g := fun m n => m + n),
    ← List.sum_eq_foldl, ((h.files_perm hcollision hputs).map _).sum_nat, List.map_map]
  rfl

/-- There are as many entries in the folder as templates that were put. -/
theorem Shelved.length_files (h : Shelved puts dir tree)
    (hcollision : Sha1.CollisionFree (templates.map TemplateId.key))
    (hputs : ∀ put ∈ puts, put.template ∈ templates) :
    ((Store.upon dir).files tree).length = (puts.map Put.template).dedup.length := by
  rw [(h.files_perm hcollision hputs).length_eq, List.length_map, ← Put.map_template_latest,
    List.length_map]

/-- A summary counts the latest puts. -/
theorem Shelved.snapshot [FileSystem] {path : Location}
    (h : Shelved puts (Store.folder path) tree)
    (hcollision : Sha1.CollisionFree (templates.map TemplateId.key))
    (hputs : ∀ put ∈ puts, put.template ∈ templates) :
    (Store.ofPath path).snapshot tree = {
      enabled := true
      path := some path
      present := true
      size := ((Put.latest puts).map fun put => put.bytes.length).sum
      entries := (puts.map Put.template).dedup.length } := by
  have hpresent : tree.has (Store.folder path) = true := by
    rw [FileTree.has, h.folder]
    rfl
  have hsize := h.size_files hcollision hputs
  have hentries := h.length_files hcollision hputs
  rw [Store.snapshot, hpresent]
  -- which files are entries depends on the folder only
  change (Store.files (.ofPath path) tree).foldl _ _ = _ at hsize
  change (Store.files (.ofPath path) tree).length = _ at hentries
  rw [hsize, hentries]

/-- **Persistence**: after every history of puts and purges, by whichever stores over a path, what
    is found for a template is its last put since the folder was emptied, or nothing; a put for
    another template leaves the file of its entry; a summary counts one entry for each template that
    was put, and their bytes; and a new store is enabled, so the history can go on.  Purges empty
    the folder, but one for which a link stands they leave as it is. -/
theorem store_persistent [FileSystem] {path : Location}
    (hcollision : Sha1.CollisionFree (templates.map TemplateId.key))
    (history : Puts path puts tree) (hputs : ∀ put ∈ puts, put.template ∈ templates) :
    (∀ template ∈ templates, (Store.ofPath path).find tree template
        = .ok ((Put.last? puts template).map Put.stored))
      ∧ (∀ put : Put, put.template ∈ templates → ∀ other ∈ templates, other ≠ put.template →
        (put.keep (.ofPath path) tree).file? ((Store.ofPath path).place other)
          = tree.file? ((Store.ofPath path).place other))
      ∧ (Store.ofPath path).snapshot tree = {
          enabled := true
          path := some path
          present := true
          size := ((Put.latest puts).map fun put => put.bytes.length).sum
          entries := (puts.map Put.template).dedup.length }
      ∧ (Store.make tree path).1 = .ofPath path
      ∧ ∀ template ∈ templates, (Store.ofPath path).find ((Store.ofPath path).purge tree) template
        = .ok (if Store.isLinked path then (Put.last? puts template).map Put.stored else none) := by
  have hshelved := history.shelved
  refine ⟨fun template => hshelved.find hcollision hputs, ?_,
    hshelved.snapshot hcollision hputs, ?_, fun template htemplate => ?_⟩
  · intro put hput other hother hne
    refine (hshelved.file?_keep put _).trans (if_neg ?_)
    exact fun hplace => hne (hcollision.eq hput hother (Store.cacheKey_eq_of_place_eq hplace))
  · have henabled : (Store.make tree path).1.enabled = true := by
      cases hlinked : Store.isLinked path with
      | true =>
          rw [Store.enabled_make_of_isLinked hlinked]
          exact Bool.and_eq_true_iff.mpr
            ⟨history.isSome_real? hlinked, beq_iff_eq.mpr hshelved.folder⟩
      | false => exact (Store.enabled_make_iff hlinked).mpr hshelved.way
    rw [Store.make_fst, henabled]
  · have hpurged := history.purge.shelved
    split
    · next hlinked =>
      rw [if_pos hlinked] at hpurged
      exact hpurged.find hcollision hputs htemplate
    · next hlinked =>
      rw [if_neg hlinked] at hpurged
      exact hpurged.find hcollision (fun _ hput => absurd hput List.not_mem_nil) htemplate

end Found

section Witnesses

/-- A put at the beginning of time. -/
def Put.plain (template : TemplateId) (code : String) : Put :=
  ⟨template, code, .zero false, .zero false⟩

/-- Puts for two templates of one name, the latest first; the last code has to be escaped. -/
def Put.several : List Put :=
  [.plain ⟨.component, "a"⟩ "\"\\\n", .plain ⟨.view, "a"⟩ "b", .plain ⟨.component, "a"⟩ "c"]

attribute [local instance] FileSystem.shortcut

/-- Nothing is put before the first put, whether the folder is named or a link to it. -/
theorem Puts.start_bare {path : Location} (hfolder : Store.folder path = ["cache"])
    (henabled : (Store.make .bare path).1.enabled = true) :
    Puts path [] (Store.make .bare path).2 := by
  refine .start (List.nodup_singleton _) henabled ?_ ?_ <;> rw [hfolder]
  · decide
  · intro place hwithin hplace
    cases place with
    | nil => cases hwithin
    | cons name names =>
        show List.lookup (name :: names) [(["cache"], Node.folder)] = none
        rw [lookup_cons_if, if_neg hplace, List.lookup_nil]

/-- A store puts for two templates, and a new one again for the first: the last put is found, and
    there are two entries.  They are still there after a purge if the path of the store is a link,
    and only then. -/
theorem store_persistent_reopened : ∃ tree linked,
    Puts ["cache"] Put.several tree ∧ Puts ["link"] Put.several linked
      ∧ (Store.ofPath ["cache"]).find tree ⟨.component, "a"⟩
        = .ok (some ⟨⟨.component, "a"⟩, .text "\"\\\n", .zero false⟩)
      ∧ ((Store.ofPath ["cache"]).snapshot tree).entries = 2
      ∧ (Store.ofPath ["cache"]).find ((Store.ofPath ["cache"]).purge tree) ⟨.component, "a"⟩
        = .ok none
      ∧ (Store.ofPath ["link"]).find ((Store.ofPath ["link"]).purge linked) ⟨.component, "a"⟩
        = .ok (some ⟨⟨.component, "a"⟩, .text "\"\\\n", .zero false⟩) := by
  have hzero : (Binary64.zero false).IsCanonical := by decide
  have history {path : Location} (hstart : Puts path [] (Store.make .bare path).2) :
      ∃ tree, Puts path Put.several tree :=
    ⟨_, (((hstart.put (.plain ⟨.component, "a"⟩ "c") hzero).put (.plain ⟨.view, "a"⟩ "b")
      hzero).reopen).put (.plain ⟨.component, "a"⟩ "\"\\\n") hzero⟩
  obtain ⟨tree, hputs⟩ := @history ["cache"] (Puts.start_bare (by decide) (by decide))
  obtain ⟨linked, hlinked⟩ := @history ["link"] (Puts.start_bare (by decide) (by decide))
  have hcollision : Sha1.CollisionFree
      (([⟨.component, "a"⟩, ⟨.view, "a"⟩] : List TemplateId).map TemplateId.key) := by
    rw [Sha1.CollisionFree]
    decide +kernel
  obtain ⟨hfind, -, hsnapshot, -, hpurged⟩ := store_persistent hcollision hputs (by decide)
  obtain ⟨-, -, -, -, hkept⟩ := store_persistent hcollision hlinked (by decide)
  refine ⟨tree, linked, hputs, hlinked, hfind _ List.mem_cons_self, ?_,
    hpurged _ List.mem_cons_self, hkept _ List.mem_cons_self⟩
  rw [hsnapshot]
  rfl

end Witnesses

end Stencil
