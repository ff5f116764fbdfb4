import Stencil.Proofs.Cache.Resolve

/-! # Folders of entries — what is kept is found

    A folder keeps builds under the digests of the keys of their templates.  Files
    lie four names below it, where entries belong, and folders do not lie so deep,
    so nothing is ever in the way of an entry: whatever is kept is written, and the
    latest build under a digest is what is found for every template of that digest.

    Headlines: `KeptIn.find` and `KeptIn.keep`. -/

namespace Stencil

/-! ## Builds -/

/-- A code, with the time up to which its source was known. -/
structure Build where
  code : List Char
  storedAt : Binary64

/-- A build as it is compared with entries: its code as a value, and its time. -/
def Build.shown (build : Build) : Value × Binary64 :=
  (.text (String.ofList build.code), build.storedAt)

def Entry.shown (entry : Entry) : Value × Binary64 :=
  (entry.artifact.code, entry.storedAt)

def Stored.shown (stored : Stored) : Value × Binary64 :=
  (stored.code, stored.storedAt)

/-- Entries that show what builds show are as old as they are. -/
theorem map_filter_shown {α : Type} {shown : α → Value × Binary64} {entry : Option α}
    {build : Option Build} (h : entry.map shown = build.map Build.shown) (changed : Binary64) :
    (entry.filter fun found => changed.le (shown found).2).map shown
      = (build.filter fun found => changed.le found.storedAt).map Build.shown := by
  have hfresh := congrArg (Option.filter fun pair => changed.le pair.2) h
  rwa [Option.filter_map, Option.filter_map] at hfresh

/-! ## Folders of entries -/

/-- Whether the files below a folder are the entries of the latest builds. -/
structure KeptIn (kept : List (String × Build)) (dir : Location) (files : FileTree) : Prop where
  found : ∀ template build, kept.lookup template.cacheKey = some build →
    ∃ written now changed, files.file? ((Store.upon dir).place template)
      = some ⟨Entry.bytes written (String.ofList build.code) build.storedAt now, changed⟩
  absent : ∀ template, kept.lookup template.cacheKey = none →
    files.file? ((Store.upon dir).place template) = none
  canonical : ∀ entry ∈ kept, entry.2.storedAt.IsCanonical
  /-- Files lie as deep as entries do. -/
  deep : ∀ place file, dir.isWithin place → files.file? place = some file →
    place.length = dir.length + 4
  /-- Folders do not lie so deep. -/
  shallow : ∀ place, dir.isWithin place → files.node? place = some .folder →
    place.length ≤ dir.length + 3

namespace KeptIn

variable {kept : List (String × Build)} {dir : Location} {files : FileTree}

/-- A folder in which nothing lies keeps nothing. -/
theorem empty (hdir : files.file? dir = none)
    (hempty : ∀ place, dir.isWithin place → place ≠ dir → files.node? place = none) :
    KeptIn [] dir files := by
  have hfile : ∀ place, dir.isWithin place → files.file? place = none := by
    intro place hwithin
    by_cases hplace : place = dir
    · rw [hplace, hdir]
    · rw [FileTree.file?, hempty place hwithin hplace]
  refine ⟨?_, ?_, ?_, ?_, ?_⟩
  · intro template build hlatest
    cases hlatest
  · exact fun template _ => hfile _ (Store.place_isWithin (.upon dir) template)
  · exact fun entry hentry => absurd hentry List.not_mem_nil
  · intro place file hwithin hplace
    cases (hfile place hwithin).symm.trans hplace
  · intro place hwithin hplace
    by_cases heq : place = dir
    · rw [heq]
      exact Nat.le_add_right _ _
    · cases (hempty place hwithin heq).symm.trans hplace

/-- Making the folder changes nothing in it. -/
theorem of_folders (h : KeptIn kept dir files) {next : FileTree}
    (hfiles : ∀ place, next.file? place = files.file? place)
    (hfolders : ∀ place, next.node? place = some .folder →
      place.length ≤ dir.length ∨ files.node? place = some .folder) : KeptIn kept dir next where
  found template build hlatest := hfiles _ ▸ h.found template build hlatest
  absent template hnone := (hfiles _).trans (h.absent template hnone)
  canonical := h.canonical
  deep place file hwithin hplace := h.deep place file hwithin ((hfiles place).symm.trans hplace)
  shallow place hwithin hplace := by
    rcases hfolders place hplace with hhigh | hfolder
    · exact Nat.le_trans hhigh (Nat.le_add_right _ _)
    · exact h.shallow place hwithin hfolder

/-- Nothing but what lies in the folder counts. -/
theorem congr (h : KeptIn kept dir files) {next : FileTree}
    (hsame : ∀ place, dir.isWithin place → next.node? place = files.node? place) :
    KeptIn kept dir next := by
  have hfile : ∀ place, dir.isWithin place → next.file? place = files.file? place := by
    intro place hwithin
    rw [FileTree.file?, hsame place hwithin, FileTree.file?]
  refine ⟨?_, ?_, h.canonical, ?_, ?_⟩
  · intro template build hlatest
    rw [hfile _ (Store.place_isWithin (.upon dir) template)]
    exact h.found template build hlatest
  · intro template hnone
    rw [hfile _ (Store.place_isWithin (.upon dir) template)]
    exact h.absent template hnone
  · intro place file hwithin hplace
    exact h.deep place file hwithin ((hfile place hwithin).symm.trans hplace)
  · intro place hwithin hplace
    exact h.shallow place hwithin ((hsame place hwithin).symm.trans hplace)

/-- No file lies in the folder on the way to an entry. -/
theorem file?_of_length_le (h : KeptIn kept dir files) {place : Location}
    (hwithin : dir.isWithin place = true) (hlength : place.length ≤ dir.length + 3) :
    files.file? place = none := by
  cases hfile : files.file? place with
  | none => rfl
  | some file =>
      have hdeep := h.deep place file hwithin hfile
      omega

/-- If the folder can be made, nothing is in the way to an entry. -/
theorem file?_way (h : KeptIn kept dir files)
    (hdir : ∀ above ∈ FileTree.wayTo dir, files.file? above = none) (template : TemplateId)
    {above : Location}
    (habove : above ∈ FileTree.wayTo ((Store.upon dir).place template).dropLast) :
    files.file? above = none := by
  obtain ⟨hne, hprefix⟩ := FileTree.mem_wayTo_iff.mp habove
  have hplace := hprefix.trans (List.dropLast_prefix _)
  have hentry : dir <+: (Store.upon dir).place template := List.prefix_append _ _
  -- outside the folder the way is the way to the folder; inside, no file lies so high
  rcases List.prefix_or_prefix_of_prefix hplace hentry with houter | hinner
  · exact hdir above (FileTree.mem_wayTo_iff.mpr ⟨hne, houter⟩)
  · refine h.file?_of_length_le (List.isPrefixOf_iff_prefix.mpr hinner) ?_
    have hlength := hprefix.length_le
    rw [List.length_dropLast, Store.length_place] at hlength
    exact hlength

/-- If the folder can be made, keeping an entry writes its file. -/
theorem write?_keep (h : KeptIn kept dir files)
    (hdir : ∀ above ∈ FileTree.wayTo dir, files.file? above = none) (template : TemplateId)
    (code : String) (storedAt now : Binary64) :
    files.write? ((Store.upon dir).place template) ⟨Entry.bytes template code storedAt now, now⟩
      = some ((Store.upon dir).keep files template code storedAt now) := by
  have hwithin := (Store.upon dir).place_isWithin template
  have hfolder : files.node? ((Store.upon dir).place template) ≠ some .folder := by
    intro hnode
    have hshallow := h.shallow _ hwithin hnode
    rw [Store.length_place] at hshallow
    exact absurd hshallow (by simp)
  obtain ⟨written, hwritten⟩ := FileTree.exists_write?_of_ne_folder
    (fun above => h.file?_way hdir template) hfolder ⟨Entry.bytes template code storedAt now, now⟩
  rw [Store.keep_eq, if_pos rfl, hwritten, Option.getD_some]

/-- What is found for a template is the latest build under its digest. -/
theorem find (h : KeptIn kept dir files) (template : TemplateId) :
    ∃ found, (Store.upon dir).find files template = .ok found
      ∧ found.map Stored.shown = (kept.lookup template.cacheKey).map Build.shown := by
  cases hkept : kept.lookup template.cacheKey with
  | none => exact ⟨none, Store.find_of_none (h.absent template hkept), rfl⟩
  | some build =>
      obtain ⟨written, now, changed, hfile⟩ := h.found template build hkept
      have hcanonical : build.storedAt.IsCanonical := h.canonical _ (mem_of_lookup hkept)
      exact ⟨_, Store.find_of_bytes rfl hcanonical hfile, rfl⟩

/-- A build that was kept is the latest under its digest. -/
theorem keep (h : KeptIn kept dir files)
    (hdir : ∀ above ∈ FileTree.wayTo dir, files.file? above = none) (template : TemplateId)
    {build : Build} (hcanonical : build.storedAt.IsCanonical) (now : Binary64) :
    KeptIn ((template.cacheKey, build) :: kept) dir ((Store.upon dir).keep files template
      (String.ofList build.code) build.storedAt now) := by
  have hwritten := h.write?_keep hdir template (String.ofList build.code) build.storedAt now
  have hfile := FileTree.file?_write? hwritten
  have hnode := FileTree.node?_write? hwritten
  have hother : ∀ other : TemplateId, other.cacheKey ≠ template.cacheKey →
      (Store.upon dir).place other ≠ (Store.upon dir).place template :=
    fun other hkey hplace => hkey (Store.cacheKey_eq_of_place_eq hplace)
  constructor
  case found =>
    intro other latest hlatest
    rw [lookup_cons_if] at hlatest
    rw [hfile]
    split at hlatest
    case isTrue hkey =>
      obtain rfl := Option.some.inj hlatest
      rw [if_pos (Store.place_eq_of_cacheKey_eq hkey)]
      exact ⟨template, now, now, rfl⟩
    case isFalse hkey =>
      rw [if_neg (hother other hkey)]
      exact h.found other latest hlatest
  case absent =>
    intro other hnone
    rw [lookup_cons_if] at hnone
    split at hnone
    case isTrue => exact nomatch hnone
    case isFalse hkey =>
      rw [hfile, if_neg (hother other hkey)]
      exact h.absent other hnone
  case canonical =>
    intro entry hentry
    rcases List.mem_cons.mp hentry with rfl | hold
    · exact hcanonical
    · exact h.canonical entry hold
  case deep =>
    intro place file hwithin hplace
    rw [hfile] at hplace
    split at hplace
    case isTrue heq =>
      rw [heq, Store.length_place]
    case isFalse => exact h.deep place file hwithin hplace
  case shallow =>
    intro place hwithin hplace
    rw [hnode] at hplace
    split at hplace
    case isTrue => exact nomatch hplace
    case isFalse =>
      split at hplace
      case isTrue hway =>
        have hlength := FileTree.length_le_of_mem_wayTo hway
        rw [List.length_dropLast, Store.length_place] at hlength
        exact hlength
      case isFalse => exact h.shallow place hwithin hplace

end KeptIn

end Stencil
