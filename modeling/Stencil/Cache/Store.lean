import Stencil.Cache.Artifact
import Stencil.Files.Links
import Stencil.Files.Pattern
import Stencil.Files.Tree

/-! # Stores — cache entries in a folder

    A store keeps one file for each template, at a place that the digest of its
    key gives.  A store whose folder cannot be made is disabled: it finds nothing
    and keeps nothing.  What a damaged file holds is not found; writes that fail
    leave everything as it is.  A folder for which a link stands is not emptied. -/

namespace Stencil

/-- A folder of cache entries, the path that names it, and whether the path ends in a link or in a
    circle of links. -/
structure Store where
  dir : Location
  enabled : Bool
  path : Location
  linked : Bool
deriving DecidableEq, Repr

/-- A summary of a store. -/
structure Snapshot where
  enabled : Bool
  path : Option Location
  present : Bool
  size : Nat
  entries : Nat
deriving DecidableEq, Repr

namespace Store

section Making

variable [FileSystem]

/-- The folder that a path of a store leads to. -/
def folder (path : Location) : Location :=
  (Location.real? path).getD path

/-- Whether the path of a store ends in a link or in a circle of links. -/
def isLinked (path : Location) : Bool :=
  (Location.real? path).isNone || Location.isLink path

/-- A store in the folder that a path leads to.  The folder is made if it is not there, but not in
    the place of a link. -/
def make (tree : FileTree) (path : Location) : Store × FileTree :=
  let dir := folder path
  if isLinked path then (⟨dir, (Location.real? path).any tree.isFolder, path, true⟩, tree)
  else
    match tree.makeFolders? dir with
    | some tree => (⟨dir, true, path, false⟩, tree)
    | none => (⟨dir, false, path, false⟩, tree)

end Making

/-- Where the entry of a template lies. -/
def place (store : Store) (template : TemplateId) : Location :=
  let key := template.cacheKey.toList
  store.dir ++ ["views", String.ofList (key.take 2), String.ofList ((key.drop 2).take 2),
    String.ofList key ++ ".json"]

/-- The document in the file of an entry. -/
def document? (store : Store) (tree : FileTree) (template : TemplateId) : Option Json := do
  if !store.enabled then none
  else
    let file ← tree.file? (store.place template)
    Json.read? (← decodeText? file.bytes).toList

/-- What is stored for a template. -/
def find (store : Store) (tree : FileTree) (template : TemplateId) :
    Except Trouble (Option Stored) :=
  match store.document? tree template with
  | some doc => Stored.ofJson doc
  | none => .ok none

/-- The tree with an entry written. -/
def keep (store : Store) (tree : FileTree) (template : TemplateId) (code : String)
    (storedAt now : Binary64) : FileTree :=
  if store.enabled then
    let text := (Entry.toJson template code storedAt now).line
    (tree.write? (store.place template) ⟨encodeText text, now⟩).getD tree
  else tree

/-- The tree with the store's folder emptied, which a link keeps as it is. -/
def purge (store : Store) (tree : FileTree) : FileTree :=
  if store.linked then tree
  else
    let tree := if tree.isFolder store.dir then tree.remove store.dir else tree
    (tree.makeFolders? store.dir).getD tree

/-- The entry files in the store's folder. -/
def files (store : Store) (tree : FileTree) : List File :=
  (tree.filesBelow store.dir).filterMap fun (names, file) =>
    if Pattern.holdLast ["*.json"] names then some file else none

/-- A summary of the store. -/
def snapshot (store : Store) (tree : FileTree) : Snapshot where
  enabled := store.enabled
  path := some store.path
  present := tree.has store.dir
  size := (store.files tree).foldl (fun size file => size + file.bytes.length) 0
  entries := (store.files tree).length

end Store

/-- The summary of no store. -/
def Snapshot.none : Snapshot where
  enabled := false
  path := Option.none
  present := false
  size := 0
  entries := 0

end Stencil
