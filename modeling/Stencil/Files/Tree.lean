import Stencil.Files.Location
import Stencil.Number.Binary64

/-! # File trees — files and folders with their times

    A tree knows what lies at a location: a file with its bytes and the time of
    its last change, or a folder.  Every change of a tree is a new tree. -/

namespace Stencil

/-- A file: its bytes and the time of its last change. -/
structure File where
  bytes : List UInt8
  changed : Binary64
deriving DecidableEq, Repr

/-- What lies at a location. -/
inductive Node where
  | file (file : File)
  | folder
deriving DecidableEq, Repr

/-- A file tree. -/
structure FileTree where
  nodes : List (Location × Node)
deriving Repr

namespace FileTree

/-- A tree with nothing in it. -/
def empty : FileTree := ⟨[]⟩

/-- What lies at a location. -/
def node? (tree : FileTree) (here : Location) : Option Node :=
  if here.isEmpty then some .folder else tree.nodes.lookup here

/-- The file at a location. -/
def file? (tree : FileTree) (here : Location) : Option File :=
  match tree.node? here with
  | some (.file f) => some f
  | _ => none

/-- Whether a file lies at a location. -/
def isFile (tree : FileTree) (here : Location) : Bool :=
  (tree.file? here).isSome

/-- Whether a folder lies at a location. -/
def isFolder (tree : FileTree) (here : Location) : Bool :=
  tree.node? here == some .folder

/-- Whether anything lies at a location. -/
def has (tree : FileTree) (here : Location) : Bool :=
  (tree.node? here).isSome

/-- The tree with a node put at a location. -/
def put (tree : FileTree) (here : Location) (node : Node) : FileTree :=
  ⟨(here, node) :: tree.nodes.filter (·.1 != here)⟩

/-- The locations on the way to a location, itself included, from the top. -/
def wayTo (here : Location) : List Location :=
  (List.range here.length).map fun i => here.take (i + 1)

/-- The greatest number of bytes in the text of a location. -/
def mostBytes : Nat := 4095

/-- Whether a name has more bytes than a name can have. -/
def isLongName (name : String) : Bool :=
  decide (255 < name.utf8ByteSize)

/-- Whether the system refuses to look for a location from a root: its text or a name of the root is
    too long, or a folder on the way, from the root on, is asked for too long a name. -/
def isTooLong (tree : FileTree) (root here : Location) : Bool :=
  decide (mostBytes < here.text.utf8ByteSize) || root.any isLongName ||
    (wayTo here).any fun place =>
      root.isWithin place.dropLast && tree.isFolder place.dropLast && place.getLast?.any isLongName

/-- The tree with the folders on the way to a location, itself included; nothing if a file lies
    on the way. -/
def makeFolders? (tree : FileTree) (here : Location) : Option FileTree :=
  (wayTo here).foldlM (fun tree place =>
    match tree.node? place with
    | some .folder => some tree
    | some (.file _) => none
    | none => some (tree.put place .folder)) tree

/-- The tree with a file written, its folders made; nothing if a file lies on the way or a folder
    at the end. -/
def write? (tree : FileTree) (here : Location) (file : File) : Option FileTree := do
  let tree ← tree.makeFolders? here.dropLast
  if tree.isFolder here then none else some (tree.put here (.file file))

/-- The tree without a location and what lies below it. -/
def remove (tree : FileTree) (here : Location) : FileTree :=
  ⟨tree.nodes.filter fun entry => !here.isWithin entry.1⟩

/-- The files below a location, with the names that lead down to them. -/
def filesBelow (tree : FileTree) (here : Location) : List (List String × File) :=
  tree.nodes.filterMap fun (place, node) =>
    match node with
    | .file f => if here.isWithin place && place != here then some (here.below place, f) else none
    | .folder => none

end FileTree

/-- The text of bytes in UTF-8. -/
def decodeText? (bytes : List UInt8) : Option String :=
  String.fromUTF8? ⟨bytes.toArray⟩

/-- The bytes of a text in UTF-8. -/
def encodeText (text : String) : List UInt8 :=
  text.toUTF8.toList

end Stencil
