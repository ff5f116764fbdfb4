import Stencil.Files.Links
import Stencil.Proofs.Files.Paths

/-! # Links — where paths lead in spite of them

    A path is followed name by name, in one way for all paths (`follow?_eq`), so it
    can be followed in two parts.  Down to a location without links on its way it
    leads straight; hence what lies below such a location is followed from there as
    it is from the top.  Without any links a path is followed as it is walked.

    Headlines: `follow?_below` and `follow?_of_links_eq_nil`. -/

namespace Stencil.Location

section Ways

variable [FileSystem] {here root : Location} {names : List String} {name : String}

/-- How the path that is written in a link is followed. -/
def followLink : Location → String → Option Location :=
  match FileSystem.links.length with
  | 0 => fun _ _ => none
  | depth + 1 => followUpTo depth

theorem follow?_eq (base : Location) (path : String) :
    follow? base path = (namesOf path).foldlM (pass followLink) (startOf base path) := by
  rw [follow?, followLink]
  cases FileSystem.links.length <;> rfl

/-- Where there is no link a name leads straight down. -/
theorem pass_of_unlinked (hplain : plainName name = true) (hfree : link? (here ++ [name]) = none) :
    pass followLink here name = some (here ++ [name]) := by
  simp only [pass, step_of_plain here hplain, hplain, hfree, if_pos]

/-- Whether no link lies at a location or on the way to it. -/
def IsUnlinked (here : Location) : Prop :=
  ∀ above, above <+: here → link? above = none

/-- Names on whose way no link lies lead straight down. -/
theorem foldlM_pass_of_unlinked (hplain : ∀ name ∈ names, plainName name = true)
    (hfree : IsUnlinked (here ++ names)) :
    names.foldlM (pass followLink) here = some (here ++ names) := by
  induction names generalizing here with
  | nil => rw [List.append_nil]; rfl
  | cons name names ih =>
      have hsplit : here ++ name :: names = here ++ [name] ++ names := by
        rw [List.append_assoc, List.singleton_append]
      rw [hsplit] at hfree ⊢
      rw [List.foldlM_cons, pass_of_unlinked (hplain name List.mem_cons_self)
        (hfree _ (List.prefix_append _ names))]
      exact ih (fun other hother => hplain other (List.mem_cons_of_mem _ hother)) hfree

/-- A location is followed from the top along its names. -/
theorem real?_eq (hplace : IsPlace here) :
    here.real? = here.foldlM (pass followLink) [] := by
  have htop : pass followLink [] "" = some [] := rfl
  rw [real?, follow?_eq, namesOf_text fun name hname => (hplace name hname).1.2, startOf,
    head?_text, if_pos (beq_self_eq_true _), List.foldlM_cons, htop]
  split
  · next hhere => subst hhere; rfl
  · rfl

/-- Without links on its way a location leads to itself. -/
theorem real?_of_unlinked (hplace : IsPlace here) (hfree : IsUnlinked here) :
    here.real? = some here := by
  rw [real?_eq hplace]
  exact foldlM_pass_of_unlinked (fun name hname => (hplace name hname).1.1) hfree

/-- **From the root or from the top.**  What is written of the names below a location without
    links on its way leads from there to where they lead from the top. -/
theorem follow?_below (hplace : IsPlace (root ++ names)) (hfree : IsUnlinked root)
    (hne : names ≠ []) :
    root.follow? ("/".intercalate names) = (root ++ names).real? := by
  have hnames : ∀ name ∈ names, IsFileName name :=
    fun name hname => (hplace name (List.mem_append_right _ hname)).1
  have hhead : startOf root ("/".intercalate names) = root := by
    rw [startOf, if_neg (by simpa using head?_intercalate_ne hne hnames)]
  have hdown : root.foldlM (pass followLink) [] = some root :=
    @foldlM_pass_of_unlinked _ [] root
      (fun name hname => (hplace name (List.mem_append_left _ hname)).1.1) hfree
  rw [follow?_eq, hhead, namesOf_intercalate hne fun name hname => (hnames name hname).2,
    real?_eq hplace, List.foldlM_append, hdown]
  rfl

/-- **Without links a path is followed as it is walked.** -/
theorem follow?_of_links_eq_nil (hnone : FileSystem.links = []) (base : Location) (path : String) :
    base.follow? path = some (base.walk path) := by
  have hpass (here : Location) (name : String) :
      pass followLink here name = some (here.step name) := by
    rw [pass, link?, hnone, List.lookup_nil]
    split <;> rfl
  have hfold (names : List String) (start : Location) :
      names.foldlM (pass followLink) start = some (names.foldl step start) := by
    induction names generalizing start with
    | nil => rfl
    | cons name names ih =>
        rw [List.foldlM_cons, hpass, List.foldl_cons]
        exact ih _
  rw [follow?_eq, hfold]
  rfl

end Ways

end Stencil.Location
