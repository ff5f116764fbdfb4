import Stencil.Files.Tree

/-! # File trees — what each change leaves in place

    A tree is seen through what lies at each location.  Putting a node changes
    one location, making folders changes no file, writing a file changes that
    file only, and removing a location changes only what lies at it or below.
    Folders can be made where no file is in the way, and a file written where no
    folder is either.  The bytes of a text decode to the text.

    Headlines: `file?_write?`, `exists_write?` and `file?_remove`. -/

namespace Stencil

/-! ## Bytes of a text -/

theorem toList_loop (bytes : ByteArray) (i : Nat) (read : List UInt8) :
    ByteArray.toList.loop bytes i read = read.reverse ++ bytes.data.toList.drop i := by
  rcases Nat.lt_or_ge i bytes.size with hinside | hend
  · have hlength : i < bytes.data.toList.length := by simpa using hinside
    have hget : bytes.get! i = bytes.data.toList[i] := by
      show bytes.data[i]! = _
      rw [getElem!_pos bytes.data i (by simpa using hinside), Array.getElem_toList]
    rw [ByteArray.toList.loop, if_pos hinside, toList_loop bytes (i + 1), List.reverse_cons,
      List.append_assoc, List.singleton_append, hget, ← List.drop_eq_getElem_cons hlength]
  · rw [ByteArray.toList.loop, if_neg (by omega), List.drop_of_length_le (by simpa using hend),
      List.append_nil]
termination_by bytes.size - i

/-- The bytes of a text decode to the text. -/
theorem decodeText?_encodeText (text : String) : decodeText? (encodeText text) = some text := by
  have hbytes : (⟨text.toUTF8.toList.toArray⟩ : ByteArray) = text.toUTF8 := by
    rw [ByteArray.toList, toList_loop]
    simp
  rw [decodeText?, encodeText, hbytes]
  exact dif_pos text.isValidUTF8

/-! ## Lists of entries -/

/-- What is looked up under a key stands with it in the list. -/
theorem mem_of_lookup {α β : Type} [BEq α] [LawfulBEq α] {key : α} {value : β}
    {entries : List (α × β)} (h : entries.lookup key = some value) : (key, value) ∈ entries := by
  obtain ⟨before, after, rfl, -⟩ := List.lookup_eq_some_iff.mp h
  exact List.mem_append_right before List.mem_cons_self

/-- Where keys stand once, an entry is what is looked up under its key. -/
theorem lookup_eq_some_iff_mem {α β : Type} [BEq α] [LawfulBEq α] {entries : List (α × β)}
    (h : (entries.map Prod.fst).Nodup) {key : α} {value : β} :
    entries.lookup key = some value ↔ (key, value) ∈ entries := by
  refine ⟨mem_of_lookup, fun hmem => ?_⟩
  induction entries with
  | nil => cases hmem
  | cons entry entries ih =>
      obtain ⟨other, first⟩ := entry
      rw [List.map_cons, List.nodup_cons] at h
      rw [List.lookup_cons]
      rcases List.mem_cons.mp hmem with heq | hrest
      · cases heq
        rw [beq_self_eq_true]
      · have hne : key ≠ other := by
          rintro rfl
          exact h.1 (List.mem_map.mpr ⟨(key, value), hrest, rfl⟩)
        rw [beq_eq_false_iff_ne.mpr hne]
        exact ih h.2 hrest

/-- What is looked up behind one more entry. -/
theorem lookup_cons_if {α β : Type} [BEq α] [LawfulBEq α] [DecidableEq α] (key other : α)
    (value : β) (entries : List (α × β)) : List.lookup key ((other, value) :: entries)
      = if key = other then some value else entries.lookup key := by
  rw [List.lookup_cons]
  by_cases h : key = other
  · rw [if_pos h, beq_iff_eq.mpr h]
  · rw [if_neg h, beq_eq_false_iff_ne.mpr h]

namespace FileTree

/-! ## Nodes -/

/-- Filtering entries by their keys hides the keys that are filtered out and no other. -/
theorem lookup_filter {α β : Type} [BEq α] [LawfulBEq α] (p : α → Bool) (key : α)
    (entries : List (α × β)) :
    (entries.filter fun entry => p entry.1).lookup key
      = if p key then entries.lookup key else none := by
  induction entries with
  | nil => cases p key <;> rfl
  | cons entry entries ih =>
      obtain ⟨other, node⟩ := entry
      rw [List.filter_cons, List.lookup_cons]
      rcases hsame : key == other with _ | _
      · split
        · rw [List.lookup_cons, hsame]
          exact ih
        · exact ih
      · rw [← eq_of_beq hsame]
        split
        · rw [List.lookup_cons, beq_self_eq_true]
        · rw [ih, if_neg ‹_›]

theorem node?_put_self (tree : FileTree) {here : Location} (h : here ≠ []) (node : Node) :
    (tree.put here node).node? here = some node := by
  rw [node?, put, if_neg (by simpa using h), List.lookup_cons, beq_self_eq_true]

theorem node?_put_of_ne (tree : FileTree) {here there : Location} (h : there ≠ here)
    (node : Node) : (tree.put here node).node? there = tree.node? there := by
  unfold node? put
  rw [List.lookup_cons, beq_eq_false_iff_ne.mpr h]
  simp only [lookup_filter (fun place => place != here) there tree.nodes, bne_iff_ne, ne_eq, h,
    not_false_eq_true, if_true]

/-! ## Files -/

theorem file?_eq_some_iff {tree : FileTree} {here : Location} {file : File} :
    tree.file? here = some file ↔ tree.node? here = some (.file file) := by
  rw [file?]
  split
  case h_1 f heq => rw [heq, Option.some.injEq, Option.some.injEq, Node.file.injEq]
  case h_2 hno => exact ⟨fun h => (nomatch h), fun h => absurd h (hno file)⟩

/-- A folder where nothing lay changes no file. -/
theorem file?_put_folder {tree : FileTree} {here : Location} (h : tree.node? here = none)
    (there : Location) : (tree.put here .folder).file? there = tree.file? there := by
  have hne : here ≠ [] := by
    rintro rfl
    cases h
  unfold file?
  by_cases heq : there = here
  · rw [heq, node?_put_self tree hne, h]
  · rw [node?_put_of_ne tree heq]

theorem file?_put_file (tree : FileTree) {here : Location} (h : here ≠ []) (file : File)
    (there : Location) : (tree.put here (.file file)).file? there
      = if there = here then some file else tree.file? there := by
  by_cases heq : there = here
  · rw [if_pos heq, heq, file?_eq_some_iff, node?_put_self tree h]
  · rw [if_neg heq]
    unfold file?
    rw [node?_put_of_ne tree heq]

/-- Making folders changes no file. -/
theorem file?_makeFolders? {tree made : FileTree} {here : Location}
    (h : tree.makeFolders? here = some made) (there : Location) :
    made.file? there = tree.file? there := by
  rw [makeFolders?] at h
  generalize wayTo here = places at h
  -- folder by folder: each is there already, or is put where nothing lay
  induction places generalizing tree with
  | nil =>
      cases h
      rfl
  | cons place places ih =>
      rw [List.foldlM_cons] at h
      cases hplace : tree.node? place with
      | none =>
          rw [hplace] at h
          rw [ih h, file?_put_folder hplace]
      | some node =>
          rw [hplace] at h
          cases node with
          | folder => exact ih h
          | file file => cases h

/-- A file is written by making the folders on the way and putting it. -/
theorem exists_made_of_write? {tree written : FileTree} {here : Location} {file : File}
    (h : tree.write? here file = some written) :
    ∃ made, tree.makeFolders? here.dropLast = some made ∧ here ≠ []
      ∧ written = made.put here (.file file) := by
  rw [write?] at h
  obtain ⟨made, hmade, hput⟩ := Option.bind_eq_some_iff.mp h
  split at hput
  case isTrue => cases hput
  case isFalse hfolder =>
    refine ⟨made, hmade, ?_, (Option.some.inj hput).symm⟩
    rintro rfl
    exact hfolder rfl

/-- A file that is written is there, and every other file is as it was. -/
theorem file?_write? {tree written : FileTree} {here : Location} {file : File}
    (h : tree.write? here file = some written) (there : Location) :
    written.file? there = if there = here then some file else tree.file? there := by
  obtain ⟨made, hmade, hne, rfl⟩ := exists_made_of_write? h
  rw [file?_put_file made hne, file?_makeFolders? hmade]

/-- Folders can be made where no file lies on the way. -/
theorem exists_makeFolders? {tree : FileTree} {here : Location}
    (h : ∀ above ∈ wayTo here, tree.file? above = none) :
    ∃ made, tree.makeFolders? here = some made := by
  rw [makeFolders?]
  generalize wayTo here = places at h
  induction places generalizing tree with
  | nil => exact ⟨tree, rfl⟩
  | cons place places ih =>
      have hrest : ∀ above ∈ places, tree.file? above = none := fun above hmem =>
        h above (List.mem_cons_of_mem _ hmem)
      rw [List.foldlM_cons]
      cases hplace : tree.node? place with
      | none =>
          have hput : ∀ above ∈ places, (tree.put place .folder).file? above = none :=
            fun above hmem => (file?_put_folder hplace above).trans (hrest above hmem)
          exact ih hput
      | some node =>
          cases node with
          | folder => exact ih hrest
          | file file =>
              have hfile := h place List.mem_cons_self
              rw [file?_eq_some_iff.mpr hplace] at hfile
              cases hfile

/-- The folders on the way are there once they are made, and all else is as it was. -/
theorem node?_makeFolders? {tree made : FileTree} {here : Location}
    (h : tree.makeFolders? here = some made) (there : Location) :
    made.node? there = if there ∈ wayTo here then some .folder else tree.node? there := by
  rw [makeFolders?] at h
  generalize wayTo here = places at h ⊢
  induction places generalizing tree with
  | nil =>
      cases h
      exact (if_neg List.not_mem_nil).symm
  | cons place places ih =>
      -- the first folder is there, or is put; the others do not take it away
      have hfirst {next : FileTree} (hplace : next.node? place = some .folder)
          (hothers : there ≠ place → next.node? there = tree.node? there)
          (hnext : made.node? there
            = if there ∈ places then some .folder else next.node? there) :
          made.node? there
            = if there ∈ place :: places then some .folder else tree.node? there := by
        rw [hnext]
        by_cases hrest : there ∈ places
        · rw [if_pos hrest, if_pos (List.mem_cons_of_mem _ hrest)]
        · rw [if_neg hrest]
          by_cases heq : there = place
          · rw [if_pos (heq ▸ List.mem_cons_self), heq, hplace]
          · rw [if_neg (List.not_mem_cons_of_ne_of_not_mem heq hrest), hothers heq]
      rw [List.foldlM_cons] at h
      cases hplace : tree.node? place with
      | none =>
          have hne : place ≠ [] := by
            rintro rfl
            cases hplace
          rw [hplace] at h
          exact hfirst (node?_put_self tree hne .folder)
            (fun hother => node?_put_of_ne tree hother .folder) (ih h)
      | some node =>
          rw [hplace] at h
          cases node with
          | folder => exact hfirst hplace (fun _ => rfl) (ih h)
          | file file => cases h

/-- Folders can be made exactly where no file lies on the way. -/
theorem exists_makeFolders?_iff {tree : FileTree} {here : Location} :
    (∃ made, tree.makeFolders? here = some made)
      ↔ ∀ above ∈ wayTo here, tree.file? above = none := by
  constructor
  · rintro ⟨made, hmade⟩ above habove
    rw [← file?_makeFolders? hmade, file?, node?_makeFolders? hmade, if_pos habove]
  · exact exists_makeFolders?

/-- The way to a location goes through all that it lies in, but not through the root. -/
theorem mem_wayTo_iff {here there : Location} :
    there ∈ wayTo here ↔ there ≠ [] ∧ there <+: here := by
  rw [wayTo, List.mem_map]
  constructor
  · rintro ⟨i, hi, rfl⟩
    have hlt := List.mem_range.mp hi
    refine ⟨List.ne_nil_of_length_pos ?_, List.take_prefix _ _⟩
    rw [List.length_take]
    omega
  · rintro ⟨hne, hprefix⟩
    have hpos := List.length_pos_iff.mpr hne
    have hle := hprefix.length_le
    refine ⟨there.length - 1, List.mem_range.mpr (by omega), ?_⟩
    rw [Nat.sub_add_cancel hpos]
    exact (List.prefix_iff_eq_take.mp hprefix).symm

theorem length_le_of_mem_wayTo {here there : Location} (h : there ∈ wayTo here) :
    there.length ≤ here.length :=
  (mem_wayTo_iff.mp h).2.length_le

/-- A file can be written where no file lies on the way to it and no folder at its place. -/
theorem exists_write?_of_ne_folder {tree : FileTree} {here : Location}
    (hway : ∀ above ∈ wayTo here.dropLast, tree.file? above = none)
    (hplace : tree.node? here ≠ some .folder) (file : File) :
    ∃ written, tree.write? here file = some written := by
  obtain ⟨made, hmade⟩ := exists_makeFolders? hway
  have hne : here ≠ [] := by
    rintro rfl
    exact hplace rfl
  have hoff : here ∉ wayTo here.dropLast := by
    intro hmem
    have hlength := length_le_of_mem_wayTo hmem
    have hpos := List.length_pos_iff.mpr hne
    rw [List.length_dropLast] at hlength
    omega
  have hfolder : made.isFolder here = false := by
    rw [isFolder, node?_makeFolders? hmade, if_neg hoff]
    exact beq_eq_false_iff_ne.mpr hplace
  refine ⟨made.put here (.file file), ?_⟩
  rw [write?, hmade]
  show (if made.isFolder here then none else _) = _
  rw [hfolder, if_neg Bool.false_ne_true]

/-- A file that is there can be written anew, if no file lies on the way to it. -/
theorem exists_write? {tree : FileTree} {here : Location} {old : File}
    (hway : ∀ above ∈ wayTo here.dropLast, tree.file? above = none)
    (hold : tree.file? here = some old) (file : File) :
    ∃ written, tree.write? here file = some written := by
  refine exists_write?_of_ne_folder hway ?_ file
  rw [file?_eq_some_iff.mp hold]
  exact fun h => nomatch h

/-- Writing a file puts it at its place and folders on the way, and leaves all else as it was. -/
theorem node?_write? {tree written : FileTree} {here : Location} {file : File}
    (h : tree.write? here file = some written) (there : Location) :
    written.node? there = if there = here then some (.file file)
      else if there ∈ wayTo here.dropLast then some .folder else tree.node? there := by
  obtain ⟨made, hmade, hne, rfl⟩ := exists_made_of_write? h
  by_cases heq : there = here
  · rw [if_pos heq, heq, node?_put_self made hne]
  · rw [if_neg heq, node?_put_of_ne made heq, node?_makeFolders? hmade]

/-- What does not lie below a location stays when that is removed. -/
theorem node?_remove (tree : FileTree) {here there : Location}
    (houtside : here.isWithin there = false) :
    (tree.remove here).node? there = tree.node? there := by
  unfold node? remove
  rw [lookup_filter (fun place => !here.isWithin place) there tree.nodes, houtside]
  rfl

/-- What is removed with a location is there no more, and every other file is as it was. -/
theorem file?_remove (tree : FileTree) (here there : Location) :
    (tree.remove here).file? there
      = if here.isWithin there then none else tree.file? there := by
  unfold file? node? remove
  rw [lookup_filter (fun place => !here.isWithin place) there tree.nodes]
  rcases hroot : there.isEmpty with _ | _
  · rcases hwithin : here.isWithin there with _ | _ <;> rfl
  · rcases hwithin : here.isWithin there with _ | _ <;> rfl

end FileTree

end Stencil
