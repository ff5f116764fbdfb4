import Stencil.Files.Links
import Stencil.Files.Tree

/-! # Lookups — what the system finds for a written path

    A path that is used as it is written is looked up from folder to folder, links
    included.  Unlike a path that is followed, it leads back only out of folders
    that are there.  The system refuses a path and a name that is too long. -/

namespace Stencil.FileTree

/-- Why the system finds no location for a path. -/
inductive Miss where
  | absent
  | refused
deriving DecidableEq, Repr

variable [FileSystem]

/-- The location one name further, where `seek` looks up the path of a link. -/
def enter (tree : FileTree) (seek : Location → String → Except Miss Location) (here : Location)
    (name : String) : Except Miss Location :=
  if name == "" || name == "." then .ok here
  else if !tree.isFolder here then .error .absent
  else if isLongName name then .error .refused
  else
    let next := here.step name
    match if name == ".." then none else Location.link? next with
    | some path => seek here path
    | none => .ok next

/-- The location of a path with at most `depth` links inside one another. -/
def seekUpTo (tree : FileTree) : Nat → Location → String → Except Miss Location
  | 0, base, path =>
    (Location.namesOf path).foldlM (tree.enter fun _ _ => .error .absent) (base.startOf path)
  | depth + 1, base, path =>
    (Location.namesOf path).foldlM (tree.enter (tree.seekUpTo depth)) (base.startOf path)

/-- The location that the system finds for a path written from a base.  Nothing is there for a path
    with a null character, or one whose links go round in a circle. -/
def seek (tree : FileTree) (base : Location) (path : String) : Except Miss Location :=
  if path.toList.contains '\x00' then .error .absent
  else if mostBytes < (Location.tidied path).utf8ByteSize then .error .refused
  else tree.seekUpTo FileSystem.links.length base path

end Stencil.FileTree
