import Stencil.Native.Evaluation
import Stencil.Native.Reader

/-! # The usual substrate — native templates as engines run them

    Code is read as a native template, in which filters and tests must be known.
    Of foreign objects only paths have members; an absence has none that could be
    read.  Of the native language it has the part that templates commonly use:
    no macros, blocks and includes, no slices, no methods of texts and lists, and
    the conditions of a loop are tested on all items first.  What is proved of
    engines is proved on any substrate. -/

namespace Stencil.Native

/-- The script that a code is, or what is wrong with it. -/
def build (code : String) : Except Trouble Script :=
  match Program.read? code.toList with
  | none => .error .malformedTemplate
  | some program =>
    if areNodesKnown false program then
      .ok fun strict vars => do return (← runNodes strict program vars).1
    else .error .unknownFilter

/-- What objects that are none of the engine's show to lookups. -/
def facets : Value → BindPath.Facets
  | .absent absence =>
    { BindPath.Facets.none with read := fun _ => .error (.absent absence.message) }
  | .foreign "PosixPath" path => pathFacets path
  | _ => .none

/-- The usual substrate. -/
@[reducible] def usual : Substrate where
  build := build
  facets := facets
  depth := 149

end Stencil.Native
