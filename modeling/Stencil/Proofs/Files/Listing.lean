import Mathlib.Data.List.Nodup
import Stencil.Proofs.Cache.Resolve

/-! # Listings — what trees that agree below a folder list there

    A tree that lists each location once is seen in full through what lies at each
    location: where two such trees have the same at and below a folder, they list
    the same files there, in whatever order they came into the trees.  So the
    source of a template, which lies below the root of its role, and the templates
    of a role, which are sorted, are the same in both.

    Headlines: `Sources.LieIn.agreeFor` and `Sources.list_congr`. -/

namespace Stencil

/-! ## Sorted names -/

/-- Sorted names follow one another in the order of their code points. -/
theorem pairwise_mergeSort (names : List String) :
    (names.mergeSort fun a b => decide (a ≤ b)).Pairwise (· ≤ ·) := by
  refine (List.pairwise_mergeSort ?_ ?_ names).imp of_decide_eq_true
  · intro a b c hab hbc
    exact decide_eq_true (String.le_trans (of_decide_eq_true hab) (of_decide_eq_true hbc))
  · intro a b
    rw [Bool.or_eq_true, decide_eq_true_iff, decide_eq_true_iff]
    exact String.le_total a b

/-- Names of which none comes twice are sorted strictly. -/
theorem pairwise_lt_mergeSort {names : List String} (h : names.Nodup) :
    (names.mergeSort fun a b => decide (a ≤ b)).Pairwise (· < ·) := by
  have hnodup : (names.mergeSort fun a b => decide (a ≤ b)).Nodup :=
    (List.mergeSort_perm names _).nodup_iff.mpr h
  refine ((pairwise_mergeSort names).and hnodup).imp ?_
  rintro a b ⟨hle, hne⟩
  exact String.not_le.mp fun hge => hne (String.le_antisymm hle hge)

/-- Two strictly sorted lists with the same names are one. -/
theorem eq_of_pairwise_lt {names others : List String} (hnames : names.Pairwise (· < ·))
    (hothers : others.Pairwise (· < ·)) (h : ∀ name, name ∈ names ↔ name ∈ others) :
    names = others := by
  have hnodup {list : List String} (hlist : list.Pairwise (· < ·)) : list.Nodup := by
    refine hlist.imp ?_
    rintro a b hlt rfl
    exact String.lt_irrefl a hlt
  refine List.Perm.eq_of_pairwise (fun a b _ _ hab hba => absurd hab (String.lt_asymm hba))
    hnames hothers ?_
  exact (List.perm_ext_iff_of_nodup (hnodup hnames) (hnodup hothers)).mpr h

namespace FileTree

/-! ## Trees that list each location once -/

/-- Each location stands once in a tree. -/
def IsProper (tree : FileTree) : Prop :=
  (tree.nodes.map Prod.fst).Nodup

namespace IsProper

variable {tree made written : FileTree}

theorem empty : FileTree.empty.IsProper := List.nodup_nil

theorem filter (h : tree.IsProper) (p : Location × Node → Bool) :
    IsProper ⟨tree.nodes.filter p⟩ :=
  h.sublist (List.filter_sublist.map Prod.fst)

theorem put (h : tree.IsProper) (here : Location) (node : Node) :
    (tree.put here node).IsProper := by
  refine List.nodup_cons.mpr ⟨fun hmem => ?_, h.filter _⟩
  obtain ⟨entry, hentry, hsame⟩ := List.mem_map.mp hmem
  have hkept := List.of_mem_filter hentry
  rw [hsame] at hkept
  simp at hkept

theorem remove (h : tree.IsProper) (here : Location) : (tree.remove here).IsProper :=
  h.filter _

theorem makeFolders? (h : tree.IsProper) {here : Location}
    (hmade : tree.makeFolders? here = some made) : made.IsProper := by
  rw [FileTree.makeFolders?] at hmade
  generalize wayTo here = way at hmade
  induction way generalizing tree with
  | nil =>
      cases hmade
      exact h
  | cons place way ih =>
      rw [List.foldlM_cons] at hmade
      cases hnode : tree.node? place with
      | none =>
          rw [hnode] at hmade
          exact ih (h.put place .folder) hmade
      | some node =>
          rw [hnode] at hmade
          cases node with
          | file file => cases hmade
          | folder => exact ih h hmade

theorem write? (h : tree.IsProper) {here : Location} {file : File}
    (hwritten : tree.write? here file = some written) : written.IsProper := by
  obtain ⟨made, hmade, hrest⟩ := Option.bind_eq_some_iff.mp hwritten
  split at hrest
  · cases hrest
  · cases hrest
    exact (h.makeFolders? hmade).put here _

end IsProper

/-- Trees that list each location once and have the same at some roots and below them. -/
structure AgreeWithin (roots : List Location) (tree other : FileTree) : Prop where
  proper : tree.IsProper
  proper' : other.IsProper
  node?_eq : ∀ root ∈ roots, ∀ place, root.isWithin place = true →
    other.node? place = tree.node? place

/-- What is put outside of the roots makes no difference there. -/
theorem AgreeWithin.put {roots : List Location} {tree : FileTree} (h : tree.IsProper)
    {here : Location} (houtside : ∀ root ∈ roots, root.isWithin here = false) (node : Node) :
    tree.AgreeWithin roots (tree.put here node) where
  proper := h
  proper' := h.put here node
  node?_eq root hroot place hwithin := by
    have hne : place ≠ here := by
      rintro rfl
      cases hwithin.symm.trans (houtside root hroot)
    exact node?_put_of_ne tree hne node

/-! ## Files below a folder -/

theorem below_injective {root place other : Location} (h : root.isWithin place = true)
    (h' : root.isWithin other = true) (heq : root.below place = root.below other) :
    place = other := by
  obtain ⟨names, rfl⟩ := List.isPrefixOf_iff_prefix.mp h
  obtain ⟨others, rfl⟩ := List.isPrefixOf_iff_prefix.mp h'
  rw [Location.below, Location.below, List.drop_left, List.drop_left] at heq
  rw [heq]

/-- What a tree lists below a folder for an entry. -/
theorem filesBelow_entry_iff {root place : Location} {node : Node} {names : List String}
    {file : File} :
    (match node with
      | .file f => if root.isWithin place && place != root then some (root.below place, f) else none
      | .folder => none) = some (names, file)
      ↔ node = .file file ∧ root.isWithin place = true ∧ place ≠ root
        ∧ root.below place = names := by
  cases node with
  | folder => simp
  | file f => simp [and_assoc, and_left_comm, and_comm]

/-- The files below a folder are those that lie there. -/
theorem mem_filesBelow_iff {tree : FileTree} (h : tree.IsProper) {root : Location}
    {names : List String} {file : File} : (names, file) ∈ tree.filesBelow root ↔
      ∃ place, root.isWithin place = true ∧ place ≠ root ∧ root.below place = names
        ∧ tree.node? place = some (.file file) := by
  -- a location below another one is not that at the top
  have hlookup {place : Location} (hwithin : root.isWithin place = true) (hne : place ≠ root) :
      tree.node? place = some (.file file) ↔ (place, .file file) ∈ tree.nodes := by
    have htop : place.isEmpty = false := by
      cases place with
      | nil => exact absurd (List.prefix_nil.mp (List.isPrefixOf_iff_prefix.mp hwithin)).symm hne
      | cons name names => rfl
    rw [node?, htop, ← lookup_eq_some_iff_mem h]
    rfl
  rw [filesBelow, List.mem_filterMap]
  constructor
  · rintro ⟨⟨place, node⟩, hmem, hentry⟩
    obtain ⟨rfl, hwithin, hne, hnames⟩ := filesBelow_entry_iff.mp hentry
    exact ⟨place, hwithin, hne, hnames, (hlookup hwithin hne).mpr hmem⟩
  · rintro ⟨place, hwithin, hne, hnames, hnode⟩
    exact ⟨(place, .file file), (hlookup hwithin hne).mp hnode,
      filesBelow_entry_iff.mpr ⟨rfl, hwithin, hne, hnames⟩⟩

/-- Each file is listed once. -/
theorem nodup_filesBelow {tree : FileTree} (h : tree.IsProper) (root : Location) :
    (tree.filesBelow root).Nodup := by
  refine List.Nodup.filterMap ?_ (List.Nodup.of_map _ h)
  rintro ⟨place, node⟩ ⟨other, node'⟩ ⟨names, file⟩ hentry hentry'
  obtain ⟨rfl, hwithin, _, hnames⟩ := filesBelow_entry_iff.mp hentry
  obtain ⟨rfl, hwithin', _, hnames'⟩ := filesBelow_entry_iff.mp hentry'
  rw [below_injective hwithin hwithin' (hnames.trans hnames'.symm)]

/-- Trees that agree below a root list the same files there. -/
theorem AgreeWithin.filesBelow_perm {roots : List Location} {tree other : FileTree}
    (h : AgreeWithin roots tree other) {root : Location} (hroot : root ∈ roots) :
    (other.filesBelow root).Perm (tree.filesBelow root) := by
  rw [List.perm_ext_iff_of_nodup (nodup_filesBelow h.proper' root) (nodup_filesBelow h.proper root)]
  rintro ⟨names, file⟩
  rw [mem_filesBelow_iff h.proper', mem_filesBelow_iff h.proper]
  refine exists_congr fun place => and_congr_right fun hwithin => ?_
  rw [h.node?_eq root hroot place hwithin]

end FileTree

/-! ## Sources -/

namespace Sources

variable {sources : Sources} {roots : List Location} {tree other : FileTree}

/-- The roots of sources are among some roots. -/
def LieIn (sources : Sources) (roots : List Location) : Prop :=
  ∀ entry ∈ sources.roots, entry.2 ∈ roots

/-- Trees that agree below the roots have the same for every template. -/
theorem LieIn.agreeFor (hroots : sources.LieIn roots) (h : tree.AgreeWithin roots other)
    (template : TemplateId) : sources.AgreeFor template tree other :=
  fun root hroot place hwithin => h.node?_eq root (hroots _ (mem_of_lookup hroot)) place hwithin

theorem changed_congr [FileSystem] {template : TemplateId}
    (h : sources.AgreeFor template tree other) :
    sources.changed other template = sources.changed tree template := by
  rw [changed, changed, sourceFile_congr h]

theorem read_congr [FileSystem] {template : TemplateId}
    (h : sources.AgreeFor template tree other) :
    sources.read other template = sources.read tree template := by
  rw [read, read]
  cases hlocate : sources.locate template with
  | error fault => rfl
  | ok place =>
      obtain ⟨root, hroot, hwithin⟩ := root_of_locate hlocate
      have hfile : other.file? place = tree.file? place := by
        rw [FileTree.file?, FileTree.file?, h root hroot place hwithin]
      simp only [bind, Except.bind, hfile]

/-- Sorted names do not depend on the order in which they were found. -/
theorem mergeSort_congr {names others : List String} (h : names.Perm others) :
    names.mergeSort (fun a b => decide (a ≤ b)) = others.mergeSort fun a b => decide (a ≤ b) := by
  refine List.Perm.eq_of_pairwise (fun a b _ _ hab hba => String.le_antisymm hab hba)
    (pairwise_mergeSort names) (pairwise_mergeSort others) ?_
  exact (List.mergeSort_perm names _).trans (h.trans (List.mergeSort_perm others _).symm)

/-- Where there are no links, only files lie below a folder. -/
theorem namesBelow_of_links_eq_nil [FileSystem] (hplain : FileSystem.links = [])
    (tree : FileTree) (root : Location) :
    namesBelow tree root = (tree.filesBelow root).map Prod.fst := by
  rw [namesBelow, Location.linksBelow, hplain]
  exact List.append_nil _

/-- Where there are no links, the templates of a role are those that lie below its root. -/
theorem list_congr [FileSystem] (hplain : FileSystem.links = []) (hroots : sources.LieIn roots)
    (h : tree.AgreeWithin roots other) (role : Role) :
    sources.list other role = sources.list tree role := by
  rw [list, list]
  cases hroot : sources.root? role with
  | none => rfl
  | some root =>
      have hmem : root ∈ roots := hroots _ (mem_of_lookup hroot)
      have hfolder : other.isFolder root = tree.isFolder root := by
        rw [FileTree.isFolder, FileTree.isFolder,
          h.node?_eq root hmem root (List.isPrefixOf_iff_prefix.mpr (List.prefix_refl root))]
      simp only [hfolder, namesBelow_of_links_eq_nil hplain]
      split
      · exact mergeSort_congr (((h.filesBelow_perm hmem).map Prod.fst).filterMap _)
      · rfl

end Sources

end Stencil
