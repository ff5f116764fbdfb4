import Stencil.Files.Location
import Stencil.Proofs.BindPath.Composition

/-! # Paths — names written one behind the other

    A written path is its names with slashes between them, and names without
    slashes are found again in the path that is written from them.  Walking goes
    down along names as long as none of them is a detour.  Whatever path is
    walked, what it comes to below the location where it started takes no more
    characters to write than the path has: a step adds at most its own name, and
    a step that stays or goes up adds nothing.  What is walked to can be written
    out, as a path from the root without detours, and is walked to along that
    path wherever the walk starts.

    Headlines: `length_le_of_walk` and `walk_text`. -/

namespace Stencil

/-- No part between separators holds one. -/
theorem Text.not_mem_of_mem_splitOn {separator : Char} {text part : List Char}
    (h : part ∈ text.splitOn separator) : separator ∉ part := by
  induction text generalizing part with
  | nil =>
      obtain rfl : part = [] := by simpa using h
      exact List.not_mem_nil
  | cons c cs ih =>
      rw [List.splitOn_cons_eq_if_modifyHead] at h
      split at h
      · rcases List.mem_cons.mp h with rfl | hmem
        · exact List.not_mem_nil
        · exact ih hmem
      · next hc =>
          obtain ⟨first, parts, hparts⟩ :=
            List.exists_cons_of_ne_nil (List.splitOn_ne_nil separator cs)
          rw [hparts, List.modifyHead_cons] at h
          rw [hparts] at ih
          rcases List.mem_cons.mp h with rfl | hmem
          · rintro (_ | ⟨_, hin⟩)
            · exact hc (beq_self_eq_true _)
            · exact ih List.mem_cons_self hin
          · exact ih (List.mem_cons_of_mem _ hmem)

namespace Location

variable {root : Location} {names : List String}

/-- A name that a file or a folder can have. -/
def IsFileName (name : String) : Prop :=
  plainName name = true ∧ '/' ∉ name.toList

/-! ## Writing and reading names -/

theorem namesOf_ne_nil (path : String) : namesOf path ≠ [] := by
  simp [namesOf]

theorem not_mem_of_mem_namesOf {path name : String} (h : name ∈ namesOf path) :
    '/' ∉ name.toList := by
  obtain ⟨part, hpart, rfl⟩ := List.mem_map.mp h
  rw [String.toList_ofList]
  exact Text.not_mem_of_mem_splitOn hpart

/-- A path is its names with slashes between them. -/
theorem intercalate_namesOf (path : String) : "/".intercalate (namesOf path) = path := by
  have hparts : (namesOf path).map String.toList = path.toList.splitOn '/' := by
    rw [namesOf, List.map_map]
    simp [Function.comp_def]
  rw [← String.toList_inj, String.toList_intercalate, hparts]
  exact List.intercalate_splitOn '/'

/-- Names without slashes are those of the path that is written from them. -/
theorem namesOf_intercalate (hne : names ≠ []) (hslash : ∀ name ∈ names, '/' ∉ name.toList) :
    namesOf ("/".intercalate names) = names := by
  rw [namesOf, String.toList_intercalate]
  exact Text.splitOn_intercalate '/' hne hslash

/-- What is written behind a path is written behind its last name. -/
theorem intercalate_concat (before : List String) (last ending : String) :
    "/".intercalate (before ++ [last ++ ending])
      = "/".intercalate (before ++ [last]) ++ ending := by
  by_cases hbefore : before = []
  · rw [hbefore, List.nil_append, List.nil_append, String.intercalate_singleton,
      String.intercalate_singleton]
  · rw [String.intercalate_append_of_ne_nil hbefore (List.cons_ne_nil _ _),
      String.intercalate_append_of_ne_nil hbefore (List.cons_ne_nil _ _),
      String.intercalate_singleton, String.intercalate_singleton, String.append_assoc,
      String.append_assoc, String.append_assoc]

/-- An ending without slashes is read behind the last name of a path. -/
theorem namesOf_append (path : String) {ending : String} (h : '/' ∉ ending.toList) :
    ∃ before last, namesOf path = before ++ [last]
      ∧ namesOf (path ++ ending) = before ++ [last ++ ending] := by
  obtain ⟨before, last, hnames⟩ : ∃ before last, namesOf path = before ++ [last] :=
    ⟨_, _, (List.dropLast_concat_getLast (namesOf_ne_nil path)).symm⟩
  refine ⟨before, last, hnames, ?_⟩
  have hslash : ∀ name ∈ before ++ [last], '/' ∉ name.toList := by
    intro name hname
    exact not_mem_of_mem_namesOf (hnames ▸ hname)
  have hpath : path ++ ending = "/".intercalate (before ++ [last ++ ending]) := by
    rw [intercalate_concat, ← hnames, intercalate_namesOf]
  rw [hpath]
  refine namesOf_intercalate (by simp) ?_
  intro name hname
  rcases List.mem_append.mp hname with hname | hname
  · exact hslash name (List.mem_append_left _ hname)
  · obtain rfl := List.mem_singleton.mp hname
    rw [String.toList_append, List.mem_append, not_or]
    exact ⟨hslash last (by simp), h⟩

/-! ## Walking along names -/

/-- A step to a name that is no detour goes down. -/
theorem step_of_plain (here : Location) {name : String} (h : plainName name = true) :
    here.step name = here ++ [name] := by
  simp only [plainName, Bool.and_eq_true, bne_iff_ne] at h
  simp [step, h.1.1, h.1.2, h.2]

theorem foldl_step_of_plain (root : Location) (h : ∀ name ∈ names, plainName name = true) :
    names.foldl step root = root ++ names := by
  induction names generalizing root with
  | nil => rw [List.foldl_nil, List.append_nil]
  | cons name names ih =>
      rw [List.foldl_cons, step_of_plain root (h name List.mem_cons_self),
        ih _ fun other hother => h other (List.mem_cons_of_mem _ hother), List.append_assoc]
      rfl

/-- A path that is not absolute is walked from where it starts. -/
theorem walk_of_head {path : String} (root : Location) (h : path.toList.head? ≠ some '/') :
    root.walk path = (namesOf path).foldl step root := by
  rw [walk, if_neg (by simpa using h)]

/-- What is written from names of files is not absolute. -/
theorem head?_intercalate_ne (hne : names ≠ []) (hnames : ∀ name ∈ names, IsFileName name) :
    ("/".intercalate names).toList.head? ≠ some '/' := by
  obtain ⟨name, rest, rfl⟩ := List.exists_cons_of_ne_nil hne
  obtain ⟨hplain, hslash⟩ := hnames name List.mem_cons_self
  have hname : name.toList ≠ [] := by
    rw [Ne, String.toList_eq_nil_iff]
    rintro rfl
    cases hplain
  obtain ⟨c, cs, hcs⟩ := List.exists_cons_of_ne_nil hname
  have hc : c ≠ '/' := by
    rintro rfl
    exact hslash (hcs ▸ List.mem_cons_self)
  by_cases hrest : rest = []
  · rw [hrest, String.intercalate_singleton, hcs]
    simpa using hc
  · rw [String.intercalate_cons_of_ne_nil hrest, String.append_assoc, String.toList_append, hcs]
    simpa using hc

/-! ## What a walk can reach -/

/-- How many characters names take with a slash each. -/
def span : List String → Nat
  | [] => 0
  | name :: names => name.length + 1 + span names

theorem span_append (names others : List String) :
    span (names ++ others) = span names + span others := by
  induction names with
  | nil => rw [List.nil_append, span, Nat.zero_add]
  | cons name names ih =>
      rw [List.cons_append, span, ih, span]
      exact (Nat.add_assoc ..).symm

/-- One slash is left out when names are written. -/
theorem length_intercalate (hne : names ≠ []) :
    ("/".intercalate names).length + 1 = span names := by
  induction names with
  | nil => exact absurd rfl hne
  | cons name names ih =>
      cases names with
      | nil => simp [span]
      | cons next rest =>
          have hrest := ih (List.cons_ne_nil _ _)
          rw [String.intercalate_cons_cons, String.length_append, String.length_append]
          show name.length + 1 + _ + 1 = name.length + 1 + span (next :: rest)
          rw [← hrest, Nat.add_assoc]

theorem span_dropLast_le (names : List String) : span names.dropLast ≤ span names := by
  by_cases hne : names = []
  · rw [hne]
    exact Nat.le_refl _
  · calc span names.dropLast
        ≤ span names.dropLast + span [names.getLast hne] := Nat.le_add_right _ _
      _ = span names := by rw [← span_append, List.dropLast_concat_getLast]

/-- A step adds its name at most. -/
theorem span_step (here : Location) (name : String) :
    span (here.step name) ≤ span here + (name.length + 1) := by
  rw [step]
  split
  · exact Nat.le_add_right _ _
  · split
    · exact Nat.le_trans (span_dropLast_le here) (Nat.le_add_right _ _)
    · rw [span_append]
      exact Nat.le_refl _

theorem span_foldl_step (here : Location) (names : List String) :
    span (names.foldl step here) ≤ span here + span names := by
  induction names generalizing here with
  | nil => exact Nat.le_refl _
  | cons name names ih =>
      calc span (names.foldl step (here.step name))
          ≤ span (here.step name) + span names := ih _
        _ ≤ span here + (name.length + 1) + span names :=
            Nat.add_le_add_right (span_step here name) _
        _ = span here + span (name :: names) := Nat.add_assoc ..

/-- **A walk writes no more than it reads.**  The names below the start that a path leads to take
    no more characters than the path. -/
theorem length_le_of_walk {path : String} (hhead : path.toList.head? ≠ some '/')
    (hne : names ≠ []) (h : root.walk path = root ++ names) :
    ("/".intercalate names).length ≤ path.length := by
  have hwalk : span (root ++ names) ≤ span root + span (namesOf path) := by
    rw [← h, walk_of_head root hhead]
    exact span_foldl_step root _
  have hpath := length_intercalate (namesOf_ne_nil path)
  have hnames := length_intercalate hne
  rw [intercalate_namesOf] at hpath
  rw [span_append, ← hpath, ← hnames] at hwalk
  omega

/-! ## Locations written out -/

/-- A location that a file system can have: its names are names of files, without null
    characters. -/
def IsPlace (here : Location) : Prop :=
  ∀ name ∈ here, IsFileName name ∧ '\x00' ∉ name.toList

/-- A written path that starts at the root and makes no detours. -/
structure IsDirect (path : String) : Prop where
  absolute : path.toList.head? = some '/'
  direct : ∀ name ∈ namesOf path, name ≠ "." ∧ name ≠ ".."

section Written

variable {base here : Location} {path : String}

/-- Between its slashes a path holds the characters of its names. -/
theorem mem_intercalate_iff {c : Char} (hc : c ≠ '/') :
    c ∈ ("/".intercalate names).toList ↔ ∃ name ∈ names, c ∈ name.toList := by
  induction names with
  | nil => simp
  | cons name names ih =>
      by_cases hnames : names = []
      · rw [hnames, String.intercalate_singleton]
        simp
      · rw [String.intercalate_cons_of_ne_nil hnames, String.toList_append, String.toList_append,
          List.mem_append, List.mem_append, ih]
        simp [hc]

/-- A step leads to no name but its own. -/
theorem mem_or_eq_of_mem_step {name other : String} (h : other ∈ here.step name) :
    other ∈ here ∨ other = name := by
  rw [step] at h
  split at h
  · exact .inl h
  · split at h
    · exact .inl (List.dropLast_subset here h)
    · exact (List.mem_append.mp h).imp_right List.mem_singleton.mp

/-- A walk leads to no names but those it starts with and those of its path. -/
theorem mem_or_mem_of_mem_walk {name : String} (h : name ∈ base.walk path) :
    name ∈ base ∨ name ∈ namesOf path := by
  have fold (names : List String) (start : Location) (hname : name ∈ names.foldl step start) :
      name ∈ start ∨ name ∈ names := by
    induction names generalizing start with
    | nil => exact .inl hname
    | cons other names ih =>
        rcases ih _ hname with hstep | hmem
        · rcases mem_or_eq_of_mem_step hstep with hstart | rfl
          · exact .inl hstart
          · exact .inr List.mem_cons_self
        · exact .inr (List.mem_cons_of_mem _ hmem)
  rw [walk] at h
  split at h
  · exact (fold _ _ h).imp_left fun hnil => absurd hnil List.not_mem_nil
  · exact fold _ _ h

/-- A walk along a path without null characters keeps to the file system. -/
theorem isPlace_walk (hbase : IsPlace base) (hnull : '\x00' ∉ path.toList) :
    IsPlace (base.walk path) := by
  have hplain : Plain (base.walk path) :=
    plain_walk (fun name hname => (hbase name hname).1.1) path
  intro name hname
  rcases mem_or_mem_of_mem_walk hname with hmem | hmem
  · exact hbase name hmem
  · refine ⟨⟨hplain name hname, not_mem_of_mem_namesOf hmem⟩, fun hin => hnull ?_⟩
    rw [← intercalate_namesOf path]
    exact (mem_intercalate_iff (by decide)).mpr ⟨name, hmem, hin⟩

/-- The names of a written location: an empty one in front of its slash, and then its own, or
    another empty one. -/
theorem namesOf_text (hslash : ∀ name ∈ here, '/' ∉ name.toList) :
    namesOf here.text = "" :: if here = [] then [""] else here := by
  by_cases hhere : here = []
  · subst hhere
    rfl
  · have htext : here.text = "/".intercalate ("" :: here) := by
      rw [String.intercalate_cons_of_ne_nil hhere, String.empty_append]
      rfl
    rw [if_neg hhere, htext]
    refine namesOf_intercalate (List.cons_ne_nil _ _) fun name hname => ?_
    rcases List.mem_cons.mp hname with rfl | hmem
    · exact List.not_mem_nil
    · exact hslash name hmem

theorem head?_text (here : Location) : here.text.toList.head? = some '/' := by
  rw [text, String.toList_append]
  rfl

/-- A place is written out as a direct path. -/
theorem isDirect_text (h : IsPlace here) : IsDirect here.text := by
  refine ⟨head?_text here, ?_⟩
  rw [namesOf_text fun name hname => (h name hname).1.2]
  intro name hname
  rcases List.mem_cons.mp hname with rfl | hmem
  · decide
  · split at hmem
    · rw [List.mem_singleton.mp hmem]
      decide
    · have hplain := (h name hmem).1.1
      simp only [plainName, Bool.and_eq_true, bne_iff_ne] at hplain
      exact ⟨hplain.1.2, hplain.2⟩

/-- A place is written out without null characters. -/
theorem null_notMem_text (h : IsPlace here) : '\x00' ∉ here.text.toList := by
  rw [text, String.toList_append, List.mem_append, mem_intercalate_iff (by decide), not_or]
  refine ⟨by decide, ?_⟩
  rintro ⟨name, hname, hin⟩
  exact (h name hname).2 hin

/-- **A written location is walked to from everywhere.** -/
theorem walk_text (hnames : ∀ name ∈ here, IsFileName name) (base : Location) :
    base.walk here.text = here := by
  rw [walk, head?_text, if_pos (beq_self_eq_true _),
    namesOf_text fun name hname => (hnames name hname).2]
  have hfirst : step [] "" = [] := rfl
  rw [List.foldl_cons, hfirst]
  split
  · next hhere => rw [hhere]; rfl
  · rw [foldl_step_of_plain [] fun name hname => (hnames name hname).1, List.nil_append]

end Written

end Location

end Stencil
