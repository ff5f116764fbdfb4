import Stencil.Text.Blank
import Stencil.Text.Pieces

/-! # Locations — absolute paths without detours

    A location is the list of names from the root of the file tree down.  A
    written path is walked from a location: empty names and `.` stay, `..` goes
    up, a leading slash starts at the root.  No location holds a detour
    (`Plain`), so one lies inside another exactly when it continues its names. -/

namespace Stencil

open Stencil.Text

/-- An absolute path as the names from the root down. -/
abbrev Location := List String

namespace Location

/-- The location one name further. -/
def step (here : Location) (name : String) : Location :=
  if name == "" || name == "." then here
  else if name == ".." then here.dropLast
  else here ++ [name]

/-- The names of a written path. -/
def namesOf (path : String) : List String :=
  (path.toList.splitOn '/').map String.ofList

/-- The location of a written path, walked from a location unless it is absolute. -/
def walk (base : Location) (path : String) : Location :=
  let start := if path.toList.head? == some '/' then [] else base
  (namesOf path).foldl step start

/-- The text of a location. -/
def text (here : Location) : String :=
  "/" ++ "/".intercalate here

/-- A written path as messages show it: without the parts that stay where they are. -/
def tidied (path : String) : String :=
  let parts := (namesOf path).filter fun name => name != "" && name != "."
  if path.toList.head? == some '/' then "/" ++ "/".intercalate parts
  else if parts.isEmpty then "."
  else "/".intercalate parts

/-- Whether a location is another or lies below it. -/
def isWithin (root here : Location) : Bool :=
  root.isPrefixOf here

/-- The names that lead from one location down to another inside it. -/
def below (root here : Location) : List String :=
  here.drop root.length

/-- A name that is no detour. -/
def plainName (name : String) : Bool :=
  name != "" && name != "." && name != ".."

/-- Locations without detours. -/
def Plain (here : Location) : Prop :=
  ∀ name ∈ here, plainName name = true

/-- A step from a plain location leads to a plain one. -/
theorem plain_step {here : Location} (h : Plain here) (name : String) :
    Plain (here.step name) := by
  intro other hother
  simp only [step] at hother
  split at hother
  · exact h other hother
  · next hskip =>
    split at hother
    · exact h other (List.dropLast_subset here hother)
    · next hup =>
      rcases List.mem_append.mp hother with hmem | hmem
      · exact h other hmem
      · rw [List.mem_singleton] at hmem
        subst hmem
        simp only [Bool.or_eq_true, beq_iff_eq, not_or] at hskip hup
        simp [plainName, hskip.1, hskip.2, hup]

/-- A walk from a plain location leads to a plain one. -/
theorem plain_walk {base : Location} (h : Plain base) (path : String) :
    Plain (walk base path) := by
  have fold (names : List String) (start : Location) (hstart : Plain start) :
      Plain (names.foldl step start) := by
    induction names generalizing start with
    | nil => exact hstart
    | cons name names ih => exact ih _ (plain_step hstart name)
  simp only [walk]
  split
  · exact fold _ _ (by intro _ h; simp at h)
  · exact fold _ _ h

end Location

end Stencil
