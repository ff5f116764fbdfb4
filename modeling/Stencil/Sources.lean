import Stencil.Fault
import Stencil.Files.Links
import Stencil.Files.Pattern
import Stencil.Files.Tree
import Stencil.Text.Place

/-! # Sources — where templates lie and how they are read

    Each role has a root folder.  A template's source is the file that its name,
    behind which the extension is written, leads to from the root of its role,
    links followed; it must not leave the root.  A path that is none for the
    system is a trouble of its own.  A source is read as text in UTF-8 whose line
    ends are unified. -/

namespace Stencil

open Stencil.Text

/-- The roots of the roles and the extension of the sources. -/
structure Sources where
  roots : List (Role × Location)
  extension : String
deriving DecidableEq, Repr, Inhabited

namespace Sources

/-- The roots of a list in which a later root of a role takes the place of an earlier one. -/
def rootsOf (roots : List (Role × Location)) : List (Role × Location) :=
  roots.foldl (fun found (role, root) =>
    if found.any (·.1 == role) then
      found.map fun entry => if entry.1 == role then (role, root) else entry
    else found ++ [(role, root)]) []

/-- The root of a role. -/
def root? (sources : Sources) (role : Role) : Option Location :=
  sources.roots.lookup role

/-- A text without the slashes at its ends. -/
def stripSlashes (text : List Char) : List Char :=
  ((text.dropWhile (· == '/')).reverse.dropWhile (· == '/')).reverse

/-- The name of a template as it is looked up: without blanks, then without slashes at its ends. -/
def plainName (name : String) : String :=
  String.ofList (stripSlashes (strip name.toList))

/-- The text of a source file, its line ends unified. -/
def textOf (file : File) : Except Fault (List Char) :=
  match decodeText? file.bytes with
  | some text => .ok (unifyLines text.toList)
  | none => .error (.trouble .undecodable)

section Links

variable [FileSystem]

/-- Where a template's source lies. -/
def locate (sources : Sources) (template : TemplateId) : Except Fault Location :=
  let name := plainName template.name
  match sources.root? template.role with
  | none => .error (.notFound template none)
  | some root =>
    if name.isEmpty then .error (.notFound template none)
    else
      let path := name ++ sources.extension
      if path.toList.contains '\x00' then .error (.trouble (.path .null))
      else
        match root.follow? path with
        | none => .error (.trouble (.path .endless))
        | some place =>
          if root.isWithin place then .ok place
          else .error (.notFound template (some place.text))

/-- Whether the system refuses to look for the source of a template at a location. -/
def isRefused (sources : Sources) (tree : FileTree) (template : TemplateId) (place : Location) :
    Bool :=
  (sources.root? template.role).any fun root => tree.isTooLong root place

/-- A template's source file, if the system can look for it. -/
def sourceFile (sources : Sources) (tree : FileTree) (template : TemplateId) :
    Except Fault File := do
  let place ← sources.locate template
  match tree.file? place with
  | some file => return file
  | none =>
    if sources.isRefused tree template place then .error (.trouble (.path .tooLong))
    else .error (.notFound template (some place.text))

/-- The time of the last change of a template's source. -/
def changed (sources : Sources) (tree : FileTree) (template : TemplateId) :
    Except Fault Binary64 := do
  return (← sources.sourceFile tree template).changed

/-- A template's source text and the time of its last change; a file that cannot be looked for is
    not found. -/
def read (sources : Sources) (tree : FileTree) (template : TemplateId) :
    Except Fault (List Char × Binary64) := do
  let place ← sources.locate template
  match tree.file? place with
  | some file => return (← textOf file, file.changed)
  | none => .error (.notFound template (some place.text))

/-- The name of a template whose source lies behind some names below its root. -/
def nameOf (sources : Sources) (names : List String) : String :=
  let path := ("/".intercalate names).toList
  String.ofList (path.take (path.length - sources.extension.length))

/-- The names that lead from a root down to files: those of files, and those of links to files.  No
    link is gone through. -/
def namesBelow (tree : FileTree) (root : Location) : List (List String) :=
  (tree.filesBelow root).map (·.1) ++
    (root.linksBelow.filter fun link => link.real?.any tree.isFile).map root.below

/-- The names of a role's templates, sorted by their code points. -/
def list (sources : Sources) (tree : FileTree) (role : Role) : List String :=
  match sources.root? role with
  | none => []
  | some root =>
    if tree.isFolder root then
      let patterns := Location.namesOf ("*" ++ sources.extension)
      let names := (namesBelow tree root).filterMap fun names =>
        if Pattern.holdLast patterns names then some (sources.nameOf names) else none
      names.mergeSort fun a b => decide (a ≤ b)
    else []

end Links

end Sources

end Stencil
