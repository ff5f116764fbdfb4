import Stencil.Proofs.Files.Pattern
import Stencil.Proofs.Files.Shown

/-! # Names of templates — what is listed and what is looked up

    A listing cuts the extension off the path of a file, or of a link to one, below
    the root of its role; a lookup writes the extension behind a name, without the
    blanks and slashes at its ends, and follows it from the root.  The listing is
    sorted and has each path with the extension once.  A listed name that is not
    empty and has no blanks and slashes at its ends leads to the file that it was
    listed for, unless a link leads out of the root.  Without links no other name
    does: the path that is walked is too short to write the file's.  And then what
    is looked up with success is listed, except that behind a bare dot for an
    extension a name can end in a detour.

    Headline: `Sources.list_locate`. -/

namespace Stencil

namespace Sources

/-- An extension: a dot and further characters that stand for themselves in names and patterns. -/
structure IsExtension (extension : String) : Prop where
  dotted : extension.toList.head? = some '.'
  flat : '/' ∉ extension.toList
  literal : ∀ c ∈ extension.toList, Pattern.isLiteral c = true

theorem IsExtension.ne_empty {extension : String} (h : IsExtension extension) : extension ≠ "" := by
  rintro rfl
  cases h.dotted

variable {sources : Sources} {tree : FileTree} {root place : Location} {role : Role}
  {name : String}

section Lists

variable [FileSystem]

/-- A location is listed under a name if it shows a file and its path below a root is the name and
    the extension. -/
structure Lists (sources : Sources) (tree : FileTree) (root place : Location) (name : String) :
    Prop where
  shows : tree.shows place = true
  within : root.isWithin place = true
  path_eq : name ++ sources.extension = "/".intercalate (root.below place)

/-- Nothing is listed under two names. -/
theorem Lists.name_unique {other : String} (h : sources.Lists tree root place name)
    (h' : sources.Lists tree root place other) : name = other :=
  String.append_left_inj sources.extension |>.mp (h.path_eq.trans h'.path_eq.symm)

/-- What is listed lies below the root, not at it. -/
theorem Lists.below_ne_nil (hext : IsExtension sources.extension)
    (h : sources.Lists tree root place name) : root.below place ≠ [] := by
  intro hnil
  have hpath := h.path_eq
  rw [hnil, String.intercalate_nil] at hpath
  exact hext.ne_empty (String.append_eq_empty_iff.mp hpath).2

theorem Lists.ne_root (hext : IsExtension sources.extension)
    (h : sources.Lists tree root place name) : place ≠ root := by
  rintro rfl
  exact h.below_ne_nil hext (List.drop_length ..)

theorem Lists.append_below (h : sources.Lists tree root place name) :
    root ++ root.below place = place := by
  obtain ⟨names, rfl⟩ := List.isPrefixOf_iff_prefix.mp h.within
  rw [Location.below, List.drop_left]

/-- The names below a root that lead to a place are names of files. -/
theorem isPlace_below (htree : tree.IsLawful) (hlinks : tree.HoldsLinks)
    (hshows : tree.shows place = true) (root : Location) : Location.IsPlace (root.below place) :=
  fun name hname =>
    FileTree.isPlace_of_shows htree hlinks hshows name (List.mem_of_mem_drop hname)

/-- The names that lead to what is listed are those of its path. -/
theorem Lists.namesOf_eq (htree : tree.IsLawful) (hlinks : tree.HoldsLinks)
    (hext : IsExtension sources.extension) (h : sources.Lists tree root place name) :
    Location.namesOf (name ++ sources.extension) = root.below place := by
  rw [h.path_eq]
  refine Location.namesOf_intercalate (h.below_ne_nil hext) ?_
  intro part hpart
  exact (isPlace_below htree hlinks h.shows root part hpart).1.2

/-- No two locations are listed under one name. -/
theorem Lists.place_unique {other : Location} (htree : tree.IsLawful) (hlinks : tree.HoldsLinks)
    (hext : IsExtension sources.extension) (h : sources.Lists tree root place name)
    (h' : sources.Lists tree root other name) : place = other :=
  FileTree.below_injective h.within h'.within
    ((h.namesOf_eq htree hlinks hext).symm.trans (h'.namesOf_eq htree hlinks hext))

end Lists

/-! ## Listing -/

/-- The name of a file whose last name ends with the extension is its path without it. -/
theorem nameOf_concat (before : List String) (last : String) :
    sources.nameOf (before ++ [last ++ sources.extension])
      = "/".intercalate (before ++ [last]) := by
  rw [nameOf, Location.intercalate_concat, String.toList_append, List.length_append,
    String.length_toList, String.length_toList, Nat.add_sub_cancel, ← String.length_toList,
    List.take_left, String.ofList_toList]

/-- What a listing tells of a file, by the names that lead to it. -/
def listed? (sources : Sources) (names : List String) : Option String :=
  if Pattern.holdLast (Location.namesOf ("*" ++ sources.extension)) names then
    some (sources.nameOf names)
  else none

/-- A listing tells the path of a file without the extension, if it ends with the extension. -/
theorem listed?_eq_some_iff (hext : IsExtension sources.extension) {names : List String}
    (hnames : ∀ name ∈ names, '/' ∉ name.toList) :
    sources.listed? names = some name
      ↔ names ≠ [] ∧ name ++ sources.extension = "/".intercalate names := by
  have hpattern : Location.namesOf ("*" ++ sources.extension) = ["*" ++ sources.extension] := by
    have hflat : '/' ∉ ("*" ++ sources.extension).toList := by
      rw [String.toList_append, List.mem_append, not_or]
      exact ⟨by decide, hext.flat⟩
    rw [← Location.namesOf_intercalate (List.cons_ne_nil ("*" ++ sources.extension) [])
      (by simpa using hflat), String.intercalate_singleton]
  rw [listed?, hpattern]
  constructor
  · intro h
    rcases List.eq_nil_or_concat names with rfl | ⟨before, final, rfl⟩
    · cases h
    · rw [List.concat_eq_append] at h ⊢
      rw [Pattern.holdLast_concat] at h
      split at h
      · next hholds =>
          obtain ⟨last, hlast⟩ := (Pattern.holds_star_iff hext.literal).mp hholds
          obtain rfl : final = String.ofList last ++ sources.extension := by
            rw [← String.toList_inj, String.toList_append, String.toList_ofList, hlast]
          obtain rfl := (nameOf_concat before _).symm.trans (Option.some.inj h)
          exact ⟨by simp, (Location.intercalate_concat ..).symm⟩
      · cases h
  · rintro ⟨hne, hpath⟩
    obtain ⟨before, last, hname, hnames'⟩ := Location.namesOf_append name hext.flat
    rw [hpath, Location.namesOf_intercalate hne hnames] at hnames'
    have hholds : Pattern.holds ("*" ++ sources.extension) (last ++ sources.extension) = true := by
      rw [Pattern.holds_star_iff hext.literal, String.toList_append]
      exact List.suffix_append ..
    rw [hnames', Pattern.holdLast_concat, if_pos hholds, nameOf_concat, ← hname,
      Location.intercalate_namesOf]

section Listing

variable [FileSystem]

/-- Names below the root are told as a name if what they lead to is listed under it. -/
theorem listed_names_iff (htree : tree.IsLawful) (hlinks : tree.HoldsLinks)
    (hext : IsExtension sources.extension) {names : List String} :
    names ∈ namesBelow tree root ∧ sources.listed? names = some name
      ↔ ∃ place, sources.Lists tree root place name ∧ root.below place = names := by
  have hnames {place : Location} (hshows : tree.shows place = true) :
      ∀ part ∈ root.below place, '/' ∉ part.toList :=
    fun part hpart => (isPlace_below htree hlinks hshows root part hpart).1.2
  rw [FileTree.mem_namesBelow_iff htree]
  constructor
  · rintro ⟨⟨place, hshows, hwithin, -, rfl⟩, hlisted⟩
    exact ⟨place,
      ⟨hshows, hwithin, ((listed?_eq_some_iff hext (hnames hshows)).mp hlisted).2⟩, rfl⟩
  · rintro ⟨place, h, rfl⟩
    exact ⟨⟨place, h.shows, h.within, h.ne_root hext, rfl⟩,
      (listed?_eq_some_iff hext (hnames h.shows)).mpr ⟨h.below_ne_nil hext, h.path_eq⟩⟩

/-- The names of a listing are those that something is listed under. -/
theorem mem_list_iff (htree : tree.IsLawful) (hlinks : tree.HoldsLinks)
    (hext : IsExtension sources.extension) (hroot : sources.root? role = some root) :
    name ∈ sources.list tree role ↔ ∃ place, sources.Lists tree root place name := by
  simp only [list, hroot]
  by_cases hfolder : tree.isFolder root = true
  · rw [if_pos hfolder, (List.mergeSort_perm _ _).mem_iff, List.mem_filterMap]
    constructor
    · rintro ⟨names, hentry⟩
      obtain ⟨place, h, -⟩ := (listed_names_iff htree hlinks hext).mp hentry
      exact ⟨place, h⟩
    · rintro ⟨place, h⟩
      exact ⟨root.below place, (listed_names_iff htree hlinks hext).mpr ⟨place, h, rfl⟩⟩
  · -- whatever lies below the root lies in it as in a folder
    rw [if_neg hfolder]
    constructor
    · intro h
      cases h
    · rintro ⟨place, h⟩
      exact absurd (FileTree.eq_of_shows htree hlinks (Bool.not_eq_true _ ▸ hfolder) h.shows
        h.within) (h.ne_root hext)

/-- A listing is sorted and has no name twice. -/
theorem pairwise_lt_list (htree : tree.IsLawful) (hlinks : tree.HoldsLinks)
    (hext : IsExtension sources.extension) (role : Role) :
    (sources.list tree role).Pairwise (· < ·) := by
  rw [list]
  split
  · exact List.Pairwise.nil
  · next root hroot =>
      split
      · refine pairwise_lt_mergeSort (List.pairwise_filterMap.mpr ?_)
        refine (FileTree.nodup_namesBelow htree hlinks root).imp_of_mem ?_
        rintro names names' hmem hmem' hne name hname _ hname' rfl
        obtain ⟨place, h, rfl⟩ := (listed_names_iff htree hlinks hext).mp ⟨hmem, hname⟩
        obtain ⟨place', h', rfl⟩ := (listed_names_iff htree hlinks hext).mp ⟨hmem', hname'⟩
        obtain rfl := h.place_unique htree hlinks hext h'
        exact hne rfl
      · exact List.Pairwise.nil

end Listing

/-! ## Looking up -/

theorem toList_plainName (name : String) :
    (plainName name).toList = stripSlashes (Text.strip name.toList) :=
  String.toList_ofList

section Ends

variable (p : Char → Bool) (text : List Char)

/-- Dropping characters at both ends leaves some in their order. -/
theorem dropEnds_sublist :
    ((text.dropWhile p).reverse.dropWhile p).reverse.Sublist text := by
  have hend : ((text.dropWhile p).reverse.dropWhile p).reverse.Sublist
      (text.dropWhile p).reverse.reverse := (List.dropWhile_sublist p).reverse
  rw [List.reverse_reverse] at hend
  exact hend.trans (List.dropWhile_sublist p)

theorem of_getLast?_dropEnds {c : Char}
    (h : ((text.dropWhile p).reverse.dropWhile p).reverse.getLast? = some c) : p c = false := by
  have hnot := List.head?_dropWhile_not p (text.dropWhile p).reverse
  rw [List.getLast?_reverse] at h
  rw [h] at hnot
  exact hnot

theorem of_head?_dropEnds {c : Char}
    (h : ((text.dropWhile p).reverse.dropWhile p).reverse.head? = some c) : p c = false := by
  have hnot := List.head?_dropWhile_not p text
  -- what is left behind the dropped start begins with all that stays
  have hprefix : ((text.dropWhile p).reverse.dropWhile p).reverse <+: text.dropWhile p := by
    rw [← List.reverse_suffix, List.reverse_reverse]
    exact List.dropWhile_suffix p
  obtain ⟨dropped, hdropped⟩ := hprefix
  rw [← hdropped, List.head?_append, h] at hnot
  exact hnot

end Ends

/-- A plain name has no characters that the name has not. -/
theorem plainName_sublist (name : String) : (plainName name).toList.Sublist name.toList := by
  rw [toList_plainName]
  exact (dropEnds_sublist _ _).trans (dropEnds_sublist Text.isBlank _)

theorem plainName_head?_ne (name : String) : (plainName name).toList.head? ≠ some '/' := by
  rw [toList_plainName]
  intro h
  exact absurd (of_head?_dropEnds _ _ h) (by decide)

theorem plainName_getLast?_ne (name : String) : (plainName name).toList.getLast? ≠ some '/' := by
  rw [toList_plainName]
  intro h
  exact absurd (of_getLast?_dropEnds _ _ h) (by decide)

/-- A template lies where its plain name and the extension lead to from the root, if not outside. -/
theorem locate_eq_ok_iff [FileSystem] (hroot : sources.root? role = some root) :
    sources.locate ⟨role, name⟩ = .ok place
      ↔ plainName name ≠ "" ∧ '\x00' ∉ (plainName name ++ sources.extension).toList
        ∧ root.follow? (plainName name ++ sources.extension) = some place
        ∧ root.isWithin place = true := by
  simp only [locate, hroot, String.isEmpty_iff, List.contains_iff_mem]
  by_cases hempty : plainName name = ""
  · simp [hempty]
  · rw [if_neg hempty]
    by_cases hnull : '\x00' ∈ (plainName name ++ sources.extension).toList
    · rw [if_pos hnull]
      constructor
      · intro h
        cases h
      · intro h
        exact absurd hnull h.2.1
    · rw [if_neg hnull]
      cases root.follow? (plainName name ++ sources.extension) with
      | none => simp
      | some found =>
          by_cases hwithin : root.isWithin found = true
          · simp only [hwithin, if_pos]
            constructor
            · intro h
              cases h
              exact ⟨hempty, hnull, rfl, hwithin⟩
            · rintro ⟨-, -, hfound, -⟩
              cases hfound
              rfl
          · simp only [if_neg hwithin]
            constructor
            · intro h
              cases h
            · rintro ⟨-, -, hfound, hin⟩
              cases hfound
              exact absurd hin hwithin

/-- The path that a lookup walks does not start at the top. -/
theorem head?_plainName_append (hsome : plainName name ≠ "") (extension : String) :
    (plainName name ++ extension).toList.head? ≠ some '/' := by
  have hhead := plainName_head?_ne name
  obtain ⟨c, cs, hcs⟩ := List.exists_cons_of_ne_nil (mt String.toList_eq_nil_iff.mp hsome)
  rw [hcs] at hhead
  rw [String.toList_append, hcs]
  exact hhead

section Lookup

variable [FileSystem]

/-- The lookup of a listed name that it leaves as it is leads to the file that it is listed for, if
    that does not lie outside of the root. -/
theorem locate_of_lists (htree : tree.IsLawful) (hlinks : tree.HoldsLinks)
    (hext : IsExtension sources.extension) (hroot : sources.root? role = some root)
    (hfree : root.IsUnlinked) (h : sources.Lists tree root place name) {found : Location}
    (hreal : place.real? = some found) (hsome : name ≠ "") (hplain : plainName name = name) :
    sources.locate ⟨role, name⟩ = .ok found ↔ root.isWithin found = true := by
  have hplace := FileTree.isPlace_of_shows htree hlinks h.shows
  have hnull : '\x00' ∉ (name ++ sources.extension).toList := by
    rw [h.path_eq, Location.mem_intercalate_iff (by decide)]
    rintro ⟨part, hpart, hin⟩
    exact (isPlace_below htree hlinks h.shows root part hpart).2 hin
  have hfollow : root.follow? (name ++ sources.extension) = some found := by
    rw [h.path_eq, Location.follow?_below (h.append_below.symm ▸ hplace) hfree
      (h.below_ne_nil hext), h.append_below, hreal]
  rw [locate_eq_ok_iff hroot, hplain]
  exact ⟨fun hlocate => hlocate.2.2.2, fun hwithin => ⟨hsome, hnull, hfollow, hwithin⟩⟩

/-- Without links the lookup of a name leads to the path below the root that the name and the
    extension make up only if it leaves the name as it is. -/
theorem plainName_eq_of_locate (hnone : FileSystem.links = [])
    (hext : IsExtension sources.extension) (hroot : sources.root? role = some root)
    (h : sources.Lists tree root place name) (hlocate : sources.locate ⟨role, name⟩ = .ok place) :
    name ≠ "" ∧ plainName name = name := by
  obtain ⟨hsome, -, hfollow, -⟩ := (locate_eq_ok_iff hroot).mp hlocate
  rw [Location.follow?_of_links_eq_nil hnone, Option.some_inj] at hfollow
  -- a name that loses characters is too short for the path of its file
  have hlength : (name ++ sources.extension).length
      ≤ (plainName name ++ sources.extension).length := by
    rw [h.path_eq]
    exact Location.length_le_of_walk (head?_plainName_append hsome _) (h.below_ne_nil hext)
      (hfollow.trans h.append_below.symm)
  rw [String.length_append, String.length_append] at hlength
  have hplain : plainName name = name := by
    rw [← String.toList_inj]
    refine (plainName_sublist name).eq_of_length_le ?_
    rw [String.length_toList, String.length_toList]
    exact Nat.le_of_add_le_add_right hlength
  exact ⟨hplain ▸ hsome, hplain⟩

end Lookup

/-- The last name of a plain name is not empty. -/
theorem last_ne_empty {before : List String} {last : String} (hsome : plainName name ≠ "")
    (h : Location.namesOf (plainName name) = before ++ [last]) : last ≠ "" := by
  rintro rfl
  have hpath := Location.intercalate_namesOf (plainName name)
  rw [h] at hpath
  by_cases hbefore : before = []
  · rw [hbefore, List.nil_append, String.intercalate_singleton] at hpath
    exact hsome hpath.symm
  · rw [String.intercalate_append_of_ne_nil hbefore (List.cons_ne_nil _ _),
      String.intercalate_singleton, String.append_empty] at hpath
    refine plainName_getLast?_ne name ?_
    rw [← hpath, String.toList_append]
    exact List.getLast?_concat

/-- A name and an extension are no detour together, unless both are a mere dot. -/
theorem dots_of_detour (hext : IsExtension sources.extension) {last : String} (hlast : last ≠ "")
    (h : Location.plainName (last ++ sources.extension) = false) :
    sources.extension = "." ∧ last = "." := by
  obtain ⟨rest, hrest⟩ := List.head?_eq_some_iff.mp hext.dotted
  obtain ⟨c, cs, hcs⟩ := List.exists_cons_of_ne_nil (mt String.toList_eq_nil_iff.mp hlast)
  have htext : (last ++ sources.extension).toList = c :: (cs ++ '.' :: rest) := by
    rw [String.toList_append, hcs, hrest, List.cons_append]
  have hdetour : last ++ sources.extension = "" ∨ last ++ sources.extension = "."
      ∨ last ++ sources.extension = ".." := by
    simpa [Location.plainName, Decidable.or_iff_not_imp_left] using h
  rcases hdetour with heq | heq | heq
  · rw [heq] at htext
    cases htext
  · rw [heq] at htext
    obtain ⟨-, hnil⟩ := List.cons.inj htext
    exact absurd hnil.symm (by simp)
  · rw [heq] at htext
    obtain ⟨rfl, hdot⟩ := List.cons.inj htext
    cases cs with
    | nil =>
        obtain ⟨-, rfl⟩ := List.cons.inj hdot
        exact ⟨String.toList_inj.mp hrest, String.toList_inj.mp hcs⟩
    | cons d ds =>
        obtain ⟨-, hnil⟩ := List.cons.inj hdot
        exact absurd hnil.symm (by simp)

section Found

variable [FileSystem]

/-- What lies at a step down from somewhere below the root is listed under the name without the
    extension. -/
theorem exists_lists_of_step {here : Location} {last : String} (hfile : tree.isFile place = true)
    (hwithin : root.isWithin place = true) (hne : place ≠ root)
    (hplace : place = here ++ [last ++ sources.extension]) :
    ∃ listed, sources.Lists tree root place listed := by
  have hprefix : root <+: here := by
    have := FileTree.prefix_dropLast (List.isPrefixOf_iff_prefix.mp hwithin) (Ne.symm hne)
    rwa [hplace, List.dropLast_concat] at this
  obtain ⟨names, rfl⟩ := hprefix
  refine ⟨"/".intercalate (names ++ [last]), FileTree.shows_iff.mpr (.inl hfile), hwithin, ?_⟩
  rw [hplace, Location.below, List.append_assoc, List.drop_left, Location.intercalate_concat]

/-- Without links what a template is looked up at with success is listed, except behind detours. -/
theorem lists_of_changed (hnone : FileSystem.links = []) (hext : IsExtension sources.extension)
    (hroot : sources.root? role = some root) (hnofile : tree.isFile root = false)
    {time : Binary64} (h : sources.changed tree ⟨role, name⟩ = .ok time) :
    ∃ place, sources.locate ⟨role, name⟩ = .ok place
      ∧ ((∃ listed, sources.Lists tree root place listed)
        ∨ sources.extension = "." ∧ (Location.namesOf (plainName name)).getLast? = some ".") := by
  cases hsource : sources.sourceFile tree ⟨role, name⟩ with
  | error fault =>
      rw [changed, hsource] at h
      cases h
  | ok file =>
      obtain ⟨place, hlocate, hfound⟩ := sourceFile_eq_ok_iff.mp hsource
      obtain ⟨hsome, -, hfollow, hwithin⟩ := (locate_eq_ok_iff hroot).mp hlocate
      rw [Location.follow?_of_links_eq_nil hnone, Option.some_inj] at hfollow
      refine ⟨place, hlocate, ?_⟩
      have hfile := FileTree.isFile_iff.mpr ⟨file, hfound⟩
      have hne : place ≠ root := by
        rintro rfl
        rw [hfile] at hnofile
        cases hnofile
      obtain ⟨before, last, hname, hpath⟩ := Location.namesOf_append (plainName name) hext.flat
      rw [Location.walk_of_head root (head?_plainName_append hsome _), hpath, List.foldl_append,
        List.foldl_cons, List.foldl_nil] at hfollow
      cases hplain : Location.plainName (last ++ sources.extension) with
      | true =>
          rw [Location.step_of_plain _ hplain] at hfollow
          exact .inl (exists_lists_of_step hfile hwithin hne hfollow.symm)
      | false =>
          obtain ⟨hdot, rfl⟩ := dots_of_detour hext (last_ne_empty hsome hname) hplain
          exact .inr ⟨hdot, by rw [hname, List.getLast?_concat]⟩

/-- **Listing and lookup.**  In a tree of a file system with whatever links, for a root that is no
    file, has no links on its way, and every extension that starts with a dot and has no slash and
    no wildcard: what is listed for a role is sorted and has no name twice; each name is listed for
    one file or link to a file, and each one with the extension is listed.  What a name is listed
    for leads to one file, and the lookup of a name that is not empty and has no blanks and slashes
    at its ends leads to that file, unless a link leads there from outside of the root.  Where there
    are no links at all, the other names do not lead back, and what a template is looked up at with
    success is listed under one name, unless the extension is a mere dot and the last part of the
    template's name is one too. -/
theorem list_locate (htree : tree.IsLawful) (hlinks : tree.HoldsLinks)
    (hext : IsExtension sources.extension) (hroot : sources.root? role = some root)
    (hfree : root.IsUnlinked) (hnofile : tree.isFile root = false) :
    (sources.list tree role).Pairwise (· < ·)
      ∧ (∀ name, name ∈ sources.list tree role ↔ ∃! place, sources.Lists tree root place name)
      ∧ (∀ name place, sources.Lists tree root place name →
        ∃ found, place.real? = some found ∧ tree.isFile found = true
          ∧ (tree.isFile place = true → found = place)
          ∧ (name ≠ "" → plainName name = name →
            (sources.locate ⟨role, name⟩ = .ok found ↔ root.isWithin found = true)))
      ∧ (FileSystem.links = [] →
        (∀ name place, sources.Lists tree root place name →
          (sources.locate ⟨role, name⟩ = .ok place ↔ name ≠ "" ∧ plainName name = name))
        ∧ ∀ name time, sources.changed tree ⟨role, name⟩ = .ok time →
          ∃ place, sources.locate ⟨role, name⟩ = .ok place
            ∧ ((∃! listed, sources.Lists tree root place listed)
              ∨ sources.extension = "."
                ∧ (Location.namesOf (plainName name)).getLast? = some ".")) := by
  refine ⟨pairwise_lt_list htree hlinks hext role, ?_, ?_, fun hnone => ⟨?_, ?_⟩⟩
  · intro name
    rw [mem_list_iff htree hlinks hext hroot]
    constructor
    · rintro ⟨place, h⟩
      exact ⟨place, h, fun _ hother => hother.place_unique htree hlinks hext h⟩
    · rintro ⟨place, h, -⟩
      exact ⟨place, h⟩
  · intro name place h
    obtain ⟨found, hreal, hfile, hself⟩ := FileTree.exists_real?_of_shows htree hlinks h.shows
    exact ⟨found, hreal, hfile, hself,
      locate_of_lists htree hlinks hext hroot hfree h hreal⟩
  · intro name place h
    refine ⟨plainName_eq_of_locate hnone hext hroot h, ?_⟩
    rintro ⟨hsome, hplain⟩
    have hreal : place.real? = some place :=
      Location.real?_of_unlinked (FileTree.isPlace_of_shows htree hlinks h.shows)
        fun above _ => by rw [Location.link?, hnone, List.lookup_nil]
    exact (locate_of_lists htree hlinks hext hroot hfree h hreal hsome hplain).mpr h.within
  · intro name time h
    obtain ⟨place, hlocate, hlists⟩ := lists_of_changed hnone hext hroot hnofile h
    refine ⟨place, hlocate, hlists.imp_left ?_⟩
    rintro ⟨listed, hlisted⟩
    exact ⟨listed, hlisted, fun _ hother => hother.name_unique hlisted⟩

end Found

/-- The sources of components in a folder. -/
def componentSources : Sources := ⟨[(.component, ["components"])], ".html"⟩

/-- A tree with a component whose name starts with a blank. -/
def blankTree : FileTree :=
  (FileTree.empty.write? ["components", " a.html"] ⟨[], .zero false⟩).getD .empty

/-- A tree with that component and a plain one. -/
def paddedTree : FileTree :=
  (blankTree.write? ["components", "b.html"] ⟨[], .zero false⟩).getD blankTree

theorem paddedTree_isLawful : paddedTree.IsLawful := by
  have hblank : blankTree.IsLawful :=
    FileTree.IsLawful.empty.getD_write?
      (by simp only [Location.IsPlace, Location.IsFileName]; decide) _
  exact hblank.getD_write? (by simp only [Location.IsPlace, Location.IsFileName]; decide) _

section Plain

attribute [local instance] FileSystem.plain

/-- The file with the blank is listed, and its name does not lead back to it; the other one's
    does. -/
theorem list_locate_padded :
    " a" ∈ componentSources.list paddedTree .component
      ∧ componentSources.locate ⟨.component, " a"⟩ ≠ .ok ["components", " a.html"]
      ∧ componentSources.locate ⟨.component, "b"⟩ = .ok ["components", "b.html"]
      ∧ ∃ place, componentSources.locate ⟨.component, "b"⟩ = .ok place
        ∧ ((∃! listed, componentSources.Lists paddedTree ["components"] place listed)
          ∨ componentSources.extension = "."
            ∧ (Location.namesOf (plainName "b")).getLast? = some ".") := by
  have hext : IsExtension componentSources.extension :=
    ⟨rfl, by decide, List.all_eq_true.mp (by decide)⟩
  have hroot : componentSources.root? .component = some ["components"] := rfl
  have hlinks : paddedTree.HoldsLinks := fun _ hlink => absurd hlink List.not_mem_nil
  obtain ⟨-, hmem, -, hwalked⟩ :=
    list_locate paddedTree_isLawful hlinks hext hroot (fun _ _ => rfl) rfl
  obtain ⟨hlookup, hlisted⟩ := hwalked rfl
  have hblank : componentSources.Lists paddedTree ["components"] ["components", " a.html"] " a" :=
    ⟨rfl, rfl, by decide⟩
  have hplain : componentSources.Lists paddedTree ["components"] ["components", "b.html"] "b" :=
    ⟨rfl, rfl, by decide⟩
  refine ⟨(hmem _).mpr
    ⟨_, hblank, fun _ h => h.place_unique paddedTree_isLawful hlinks hext hblank⟩,
    ?_, (hlookup _ _ hplain).mpr ⟨by decide, by decide⟩, hlisted "b" (.zero false) (by decide)⟩
  intro h
  exact absurd ((hlookup _ _ hblank).mp h).2 (by decide)

/-- A machine with a link from among the components to a file beside their folder. -/
@[reducible] def strayLink : FileSystem where
  links := [(["components", "c.html"], "../secret.html")]
  nodup := List.nodup_singleton _

/-- A tree with that file. -/
def secretTree : FileTree :=
  ((FileTree.empty.makeFolders? ["components"]).bind
    (·.write? ["secret.html"] ⟨[], .zero false⟩)).getD .empty

-- the link is listed, and its name leads out of the root
example : @list strayLink componentSources secretTree .component = ["c"] := by
  decide +kernel
example : @locate strayLink componentSources ⟨.component, "c"⟩
    = .error (.notFound ⟨.component, "c"⟩ (some "/secret.html")) := by decide

end Plain

end Sources

end Stencil
