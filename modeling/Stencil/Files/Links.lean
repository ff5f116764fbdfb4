import Stencil.Files.Location

/-! # Links — where a written path really leads

    A machine has symbolic links, each with a path written in it.  A path is
    followed name by name: at a link its own path is followed first, from the
    folder of the link or from the root.  Links that lead back to one of
    themselves lead nowhere. -/

namespace Stencil

/-- What a machine has of symbolic links: where each one lies, and the path written in it.  Neither
    the links nor the folders that hold them come or go. -/
class FileSystem where
  links : List (Location × String)
  nodup : (links.map (·.1)).Nodup

/-- A machine without symbolic links. -/
@[reducible] def FileSystem.plain : FileSystem where
  links := []
  nodup := List.nodup_nil

namespace Location

/-- The path written in the link at a location, if there is one. -/
def link? [FileSystem] (here : Location) : Option String :=
  FileSystem.links.lookup here

/-- The location from which a written path is followed. -/
def startOf (base : Location) (path : String) : Location :=
  if path.toList.head? == some '/' then [] else base

/-- The location one name further, where `follow` follows the path of a link. -/
def pass [FileSystem] (follow : Location → String → Option Location) (here : Location)
    (name : String) : Option Location :=
  let next := here.step name
  if plainName name then
    match link? next with
    | some path => follow here path
    | none => some next
  else some next

/-- Where a path leads from a location with at most `depth` links inside one another. -/
def followUpTo [FileSystem] : Nat → Location → String → Option Location
  | 0, base, path => (namesOf path).foldlM (pass fun _ _ => none) (startOf base path)
  | depth + 1, base, path => (namesOf path).foldlM (pass (followUpTo depth)) (startOf base path)

/-- Where a written path really leads from a location; nowhere if links go round in a circle, as
    they do if more of them are inside one another than there are. -/
def follow? [FileSystem] (base : Location) (path : String) : Option Location :=
  followUpTo FileSystem.links.length base path

/-- A location with the links on its way followed. -/
def real? [FileSystem] (here : Location) : Option Location :=
  follow? [] here.text

/-- Whether a location is a link, the links on the way to it followed. -/
def isLink [FileSystem] (here : Location) : Bool :=
  ((real? here.dropLast).bind fun folder => link? (folder ++ here.getLast?.toList)).isSome

/-- The links below a location. -/
def linksBelow [FileSystem] (here : Location) : List Location :=
  (FileSystem.links.map (·.1)).filter fun place => here.isWithin place && place != here

end Location

end Stencil
