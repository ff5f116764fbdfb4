import Stencil.Proofs.Files.Folders
import Stencil.Proofs.Files.Links
import Stencil.Proofs.Files.Listing

/-! # What a tree shows — files, and links to files

    A location shows a file if one lies there or a link to one does.  In a tree as
    file systems have it, whose links lie in its folders beside the rest, what
    shows a file lies under names that files can have and leads to one file, no
    link is on the way to a file, and the names below a root that are looked
    through for templates are each of what shows a file there, once.

    Headlines: `FileTree.mem_namesBelow_iff` and `FileTree.exists_real?_of_shows`. -/

namespace Stencil

/-! ## Trees and links -/

/-- A tree as file systems have it: each location once, in folders, under names of files. -/
structure FileTree.IsLawful (tree : FileTree) : Prop where
  proper : tree.IsProper
  grounded : tree.IsGrounded
  named : ∀ entry ∈ tree.nodes, Location.IsPlace entry.1

/-- Whether a link can lie in a tree: in a folder, under the name of a file, where nothing else
    lies. -/
structure FileTree.Holds (tree : FileTree) (link : Location) : Prop where
  named : Location.IsPlace link
  held : tree.isFolder link.dropLast = true
  free : tree.node? link = none

namespace FileTree

variable {tree : FileTree} {place : Location} {file : File}

/-- A file stands in the tree. -/
theorem mem_nodes_of_file? (h : tree.file? place = some file) :
    (place, .file file) ∈ tree.nodes := by
  have hnode := file?_eq_some_iff.mp h
  rw [node?] at hnode
  split at hnode
  · cases hnode
  · exact mem_of_lookup hnode

theorem isFile_iff : tree.isFile place = true ↔ ∃ file, tree.file? place = some file :=
  Option.isSome_iff_exists

namespace IsLawful

variable {written : FileTree} {here : Location}

theorem empty : FileTree.empty.IsLawful :=
  ⟨.empty, .empty, fun _ hentry => absurd hentry List.not_mem_nil⟩

/-- Writing a file under a name that files can have, in folders that have such names. -/
theorem write? (h : tree.IsLawful) (hplace : Location.IsPlace here)
    (hwritten : tree.write? here file = some written) : written.IsLawful where
  proper := h.proper.write? hwritten
  grounded := h.grounded.write? hwritten
  named := by
    obtain ⟨made, hmade, hput⟩ := Option.bind_eq_some_iff.mp hwritten
    split at hput
    · cases hput
    · cases hput
      intro entry hentry
      rcases List.mem_cons.mp hentry with rfl | hentry
      · exact hplace
      · rcases mem_nodes_makeFolders? hmade (List.mem_filter.mp hentry).1 with hold | hway
        · exact h.named entry hold
        · have habove := (mem_wayTo_iff.mp hway).2.trans (List.dropLast_prefix here)
          exact fun name hname => hplace name (habove.subset hname)

/-- A file that is written if it can be. -/
theorem getD_write? (h : tree.IsLawful) (hplace : Location.IsPlace here) (file : File) :
    ((tree.write? here file).getD tree).IsLawful := by
  cases hwritten : tree.write? here file with
  | none => exact h
  | some written => exact h.write? hplace hwritten

end IsLawful

section Links

variable [FileSystem]

/-- Whether the links of the machine lie in a tree. -/
def HoldsLinks (tree : FileTree) : Prop :=
  ∀ link ∈ FileSystem.links, tree.Holds link.1

/-- What a location shows: a file, or a link to one. -/
def shows (tree : FileTree) (place : Location) : Bool :=
  tree.isFile place || (Location.link? place).isSome && place.real?.any tree.isFile

theorem any_real?_iff : place.real?.any tree.isFile = true
    ↔ ∃ found, place.real? = some found ∧ tree.isFile found = true := by
  simp [Option.any_eq_true]

theorem shows_iff : tree.shows place = true ↔ tree.isFile place = true
    ∨ (∃ path, Location.link? place = some path)
      ∧ ∃ found, place.real? = some found ∧ tree.isFile found = true := by
  rw [shows, Bool.or_eq_true, Bool.and_eq_true, Option.isSome_iff_exists, any_real?_iff]

/-- Where a link is, one of the machine's lies. -/
theorem HoldsLinks.holds (h : tree.HoldsLinks) {path : String}
    (hlink : Location.link? place = some path) : tree.Holds place :=
  h (place, path) (mem_of_lookup hlink)

/-- Files lie at places, and links do. -/
theorem isPlace_of_shows (h : tree.IsLawful) (hlinks : tree.HoldsLinks)
    (hshows : tree.shows place = true) : Location.IsPlace place := by
  rcases shows_iff.mp hshows with hfile | ⟨⟨path, hlink⟩, -⟩
  · obtain ⟨file, hfile⟩ := isFile_iff.mp hfile
    exact h.named _ (mem_nodes_of_file? hfile)
  · exact (hlinks.holds hlink).named

/-- No link lies on the way to a file. -/
theorem isUnlinked_of_isFile (h : tree.IsLawful) (hlinks : tree.HoldsLinks)
    (hfile : tree.isFile place = true) : Location.IsUnlinked place := by
  obtain ⟨file, hfile⟩ := isFile_iff.mp hfile
  intro above habove
  cases hlink : Location.link? above with
  | none => rfl
  | some path =>
      -- where the link lies there would be the file, or a folder above it
      have hfree := (hlinks.holds hlink).free
      by_cases heq : above = place
      · rw [heq, file?_eq_some_iff.mp hfile] at hfree
        cases hfree
      · rw [h.grounded _ (mem_nodes_of_file? hfile) above habove heq] at hfree
        cases hfree

/-- A location that shows a file leads to one, and to itself if the file lies there. -/
theorem exists_real?_of_shows (h : tree.IsLawful) (hlinks : tree.HoldsLinks)
    (hshows : tree.shows place = true) :
    ∃ found, place.real? = some found ∧ tree.isFile found = true
      ∧ (tree.isFile place = true → found = place) := by
  have hself (hfile : tree.isFile place = true) : place.real? = some place :=
    Location.real?_of_unlinked (isPlace_of_shows h hlinks hshows)
      (isUnlinked_of_isFile h hlinks hfile)
  rcases shows_iff.mp hshows with hfile | ⟨-, found, hreal, hfound⟩
  · exact ⟨place, hself hfile, hfile, fun _ => rfl⟩
  · exact ⟨found, hreal, hfound,
      fun hfile => Option.some.inj (hreal.symm.trans (hself hfile))⟩

/-- What shows a file lies in folders: below a location that is no folder nothing does. -/
theorem eq_of_shows (h : tree.IsLawful) (hlinks : tree.HoldsLinks) {root : Location}
    (hfolder : tree.isFolder root = false) (hshows : tree.shows place = true)
    (hwithin : root.isWithin place = true) : place = root := by
  rcases shows_iff.mp hshows with hfile | ⟨⟨path, hlink⟩, -⟩
  · obtain ⟨file, hfile⟩ := isFile_iff.mp hfile
    exact h.grounded.eq_of_isWithin hfolder (mem_nodes_of_file? hfile) hwithin
  · by_contra hne
    -- the folder of the link lies in the root, or is the root
    have hheld := (hlinks.holds hlink).held
    have hinside : root <+: place.dropLast :=
      prefix_dropLast (List.isPrefixOf_iff_prefix.mp hwithin) (Ne.symm hne)
    by_cases heq : place.dropLast = root
    · rw [← heq, hheld] at hfolder
      cases hfolder
    · have hnode : tree.node? place.dropLast = some .folder := eq_of_beq hheld
      rw [node?] at hnode
      split at hnode
      · next hempty =>
          rw [List.isEmpty_iff.mp hempty] at hinside heq
          exact heq (List.prefix_nil.mp hinside).symm
      · exact heq (h.grounded.eq_of_isWithin hfolder (mem_of_lookup hnode)
          (List.isPrefixOf_iff_prefix.mpr hinside))

/-- The names below a root that are looked through lead to what shows a file there. -/
theorem mem_namesBelow_iff (h : tree.IsLawful) {root : Location} {names : List String} :
    names ∈ Sources.namesBelow tree root
      ↔ ∃ place, tree.shows place = true ∧ root.isWithin place = true ∧ place ≠ root
        ∧ root.below place = names := by
  rw [Sources.namesBelow, List.mem_append, List.mem_map, List.mem_map]
  constructor
  · rintro (⟨⟨_, file⟩, hentry, rfl⟩ | ⟨place, hplace, rfl⟩)
    · obtain ⟨place, hwithin, hne, rfl, hnode⟩ := (mem_filesBelow_iff h.proper).mp hentry
      exact ⟨place, shows_iff.mpr (.inl (isFile_iff.mpr ⟨file, file?_eq_some_iff.mpr hnode⟩)),
        hwithin, hne, rfl⟩
    · obtain ⟨hlink, hreal⟩ := List.mem_filter.mp hplace
      obtain ⟨hmem, hbelow⟩ := List.mem_filter.mp hlink
      obtain ⟨⟨_, path⟩, hlies, rfl⟩ := List.mem_map.mp hmem
      rw [Bool.and_eq_true, bne_iff_ne] at hbelow
      have hlink := (lookup_eq_some_iff_mem FileSystem.nodup).mpr hlies
      exact ⟨_, shows_iff.mpr (.inr ⟨⟨path, hlink⟩, any_real?_iff.mp hreal⟩), hbelow.1,
        hbelow.2, rfl⟩
  · rintro ⟨place, hshows, hwithin, hne, rfl⟩
    rcases shows_iff.mp hshows with hfile | ⟨⟨path, hlink⟩, hreal⟩
    · obtain ⟨file, hfile⟩ := isFile_iff.mp hfile
      exact .inl ⟨(_, file), (mem_filesBelow_iff h.proper).mpr
        ⟨place, hwithin, hne, rfl, file?_eq_some_iff.mp hfile⟩, rfl⟩
    · refine .inr ⟨place, List.mem_filter.mpr ⟨List.mem_filter.mpr ⟨List.mem_map.mpr
        ⟨(place, path), mem_of_lookup hlink, rfl⟩, ?_⟩, any_real?_iff.mpr hreal⟩, rfl⟩
      rw [hwithin, Bool.true_and, bne_iff_ne]
      exact hne

/-- Each of the names below a root is looked through once. -/
theorem nodup_namesBelow (h : tree.IsLawful) (hlinks : tree.HoldsLinks) (root : Location) :
    (Sources.namesBelow tree root).Nodup := by
  have hwithin {link : Location} (hmem : link ∈ root.linksBelow.filter
      fun link => link.real?.any tree.isFile) :
      link ∈ FileSystem.links.map (·.1) ∧ root.isWithin link = true := by
    obtain ⟨hmem, hbelow⟩ := List.mem_filter.mp (List.mem_filter.mp hmem).1
    exact ⟨hmem, (Bool.and_eq_true .. ▸ hbelow).1⟩
  refine List.nodup_append.mpr ⟨?_, ?_, ?_⟩
  · refine (nodup_filesBelow h.proper root).map_on ?_
    rintro ⟨names, file⟩ hmem ⟨_, file'⟩ hmem' rfl
    obtain ⟨place, hin, -, rfl, hnode⟩ := (mem_filesBelow_iff h.proper).mp hmem
    obtain ⟨place', hin', -, hbelow, hnode'⟩ := (mem_filesBelow_iff h.proper).mp hmem'
    obtain rfl := below_injective hin' hin hbelow
    rw [hnode] at hnode'
    cases hnode'
    rfl
  · refine ((FileSystem.nodup.filter _).filter _).map_on fun link hmem link' hmem' heq => ?_
    exact below_injective (hwithin hmem).2 (hwithin hmem').2 heq
  · -- no file lies where a link does
    intro names hfile names' hlink
    rintro rfl
    obtain ⟨⟨_, file⟩, hentry, rfl⟩ := List.mem_map.mp hfile
    obtain ⟨place, hin, -, rfl, hnode⟩ := (mem_filesBelow_iff h.proper).mp hentry
    obtain ⟨link, hmem, hbelow⟩ := List.mem_map.mp hlink
    obtain ⟨hlies, hin'⟩ := hwithin hmem
    obtain rfl := below_injective hin' hin hbelow
    obtain ⟨entry, hstands, rfl⟩ := List.mem_map.mp hlies
    rw [(hlinks entry hstands).free] at hnode
    cases hnode

end Links

end FileTree

end Stencil
