import Stencil.Proofs.Files.Tree

/-! # Folders — whatever lies in a tree lies in folders

    Each change of a tree makes the folders that it needs and takes away a location
    only with all that lies below it.  So a tree that is grounded, as one without
    entries is, stays so, and nothing lies below a location that is no folder.

    Headlines: `IsGrounded.write?` and `IsGrounded.eq_of_isWithin`. -/

namespace Stencil.FileTree

variable {tree made written : FileTree} {here : Location}

/-- Whether everything in a tree lies in folders. -/
def IsGrounded (tree : FileTree) : Prop :=
  ∀ entry ∈ tree.nodes, ∀ above, above <+: entry.1 → above ≠ entry.1 →
    tree.node? above = some .folder

/-- What lies above a location lies above its last name. -/
theorem prefix_dropLast {above : Location} (h : above <+: here) (hne : above ≠ here) :
    above <+: here.dropLast := by
  obtain ⟨names, rfl⟩ := h
  have hlast : names ≠ [] := by
    rintro rfl
    exact hne (List.append_nil above).symm
  rw [List.dropLast_append_of_ne_nil hlast]
  exact List.prefix_append above names.dropLast

/-- Making folders adds the folders on the way only. -/
theorem mem_nodes_makeFolders? (hmade : tree.makeFolders? here = some made)
    {entry : Location × Node} (hentry : entry ∈ made.nodes) :
    entry ∈ tree.nodes ∨ entry.1 ∈ wayTo here := by
  rw [makeFolders?] at hmade
  generalize wayTo here = way at hmade ⊢
  induction way generalizing tree with
  | nil =>
      cases hmade
      exact .inl hentry
  | cons place way ih =>
      rw [List.foldlM_cons] at hmade
      cases hnode : tree.node? place with
      | none =>
          rw [hnode] at hmade
          rcases ih hmade with hput | hway
          · rcases List.mem_cons.mp hput with rfl | hold
            · exact .inr List.mem_cons_self
            · exact .inl (List.mem_filter.mp hold).1
          · exact .inr (List.mem_cons_of_mem _ hway)
      | some node =>
          rw [hnode] at hmade
          cases node with
          | file file => cases hmade
          | folder => exact (ih hmade).imp_right (List.mem_cons_of_mem _)

/-- What lies above a location on the way to another is the root or lies on the way too. -/
theorem node?_above_makeFolders? (hmade : tree.makeFolders? here = some made) {above : Location}
    (habove : above <+: here) : made.node? above = some .folder := by
  by_cases hroot : above = []
  · rw [hroot]
    rfl
  · rw [node?_makeFolders? hmade, if_pos (mem_wayTo_iff.mpr ⟨hroot, habove⟩)]

namespace IsGrounded

theorem empty : FileTree.empty.IsGrounded :=
  fun _ hentry => nomatch hentry

/-- Below a location that is no folder nothing lies. -/
theorem eq_of_isWithin (h : tree.IsGrounded) (hfolder : tree.isFolder here = false)
    {entry : Location × Node} (hentry : entry ∈ tree.nodes)
    (hwithin : here.isWithin entry.1 = true) : entry.1 = here := by
  by_cases heq : entry.1 = here
  · exact heq
  · have hnode := h entry hentry here (List.isPrefixOf_iff_prefix.mp hwithin) (Ne.symm heq)
    rw [isFolder, hnode] at hfolder
    exact absurd hfolder (by decide)

theorem remove (h : tree.IsGrounded) (here : Location) : (tree.remove here).IsGrounded := by
  intro entry hentry above habove hne
  obtain ⟨hold, hoff⟩ := List.mem_filter.mp hentry
  -- what is removed with a location does not lie above what stays
  have hkept : here.isWithin above = false := by
    cases hwithin : here.isWithin above with
    | false => rfl
    | true =>
        have hthrough := (List.isPrefixOf_iff_prefix.mp hwithin).trans habove
        rw [Location.isWithin, List.isPrefixOf_iff_prefix.mpr hthrough] at hoff
        cases hoff
  have hnode := h entry hold above habove hne
  rw [node?] at hnode ⊢
  rw [FileTree.remove, lookup_filter (fun place => !here.isWithin place) above tree.nodes, hkept]
  exact hnode

theorem makeFolders? (h : tree.IsGrounded) (hmade : tree.makeFolders? here = some made) :
    made.IsGrounded := by
  intro entry hentry above habove hne
  rcases mem_nodes_makeFolders? hmade hentry with hold | hway
  · rw [node?_makeFolders? hmade, h entry hold above habove hne, ite_self]
  · exact node?_above_makeFolders? hmade (habove.trans (mem_wayTo_iff.mp hway).2)

theorem write? (h : tree.IsGrounded) {file : File}
    (hwritten : tree.write? here file = some written) : written.IsGrounded := by
  obtain ⟨made, hmade, hput⟩ := Option.bind_eq_some_iff.mp hwritten
  have hmadeGrounded := h.makeFolders? hmade
  split at hput
  case isTrue => cases hput
  case isFalse hfolder =>
    cases hput
    intro entry hentry above habove hne
    have hnode : made.node? above = some .folder := by
      rcases List.mem_cons.mp hentry with rfl | hold
      · exact node?_above_makeFolders? hmade (prefix_dropLast habove hne)
      · exact hmadeGrounded entry (List.mem_filter.mp hold).1 above habove hne
    rw [node?_put_of_ne]
    · exact hnode
    · rintro rfl
      exact hfolder (by rw [isFolder, hnode]; rfl)

/-- A file that is written if it can be. -/
theorem getD_write? (h : tree.IsGrounded) (here : Location) (file : File) :
    ((tree.write? here file).getD tree).IsGrounded := by
  cases hwritten : tree.write? here file with
  | none => exact h
  | some written => exact h.write? hwritten

end IsGrounded

end Stencil.FileTree
