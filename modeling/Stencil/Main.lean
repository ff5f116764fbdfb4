import Stencil.Command.Run
import Stencil.Native.Usual
import Stencil.Yaml.Meaning
import Std.Time.DateTime.Timestamp

/-! # The program — a command line run on the files of this machine

    The files that a command can read are loaded: the configuration, the data
    file, and what lies in the folders of the templates and of the cache.  The
    command is run on them, and what it changed in the cache is written back. -/

namespace Stencil.Program

open Stencil.Command

section

attribute [local instance] Native.usual FileSystem.plain Yaml.usual

/-- The time of a moment on this machine, in seconds. -/
def secondsOf (time : IO.FS.SystemTime) : Binary64 :=
  Numeral.nearest (time.sec < 0) (time.sec.natAbs * 1000000000 + time.nsec.toNat) (-9)

/-- The present time, in seconds. -/
def now : IO Binary64 := do
  let nanos := (← Std.Time.Timestamp.now).toNanosecondsSinceUnixEpoch.val
  return Numeral.nearest (nanos < 0) nanos.natAbs (-9)

/-- The present folder. -/
def presentFolder : IO Location := do
  return Location.walk [] (← IO.currentDir).toString

/-- The tree with what lies at a location of this machine, folders with all that is in them. -/
partial def load (place : Location) (tree : FileTree) : IO FileTree := do
  let path := (← IO.currentDir) / place.text
  if ← path.isDir then
    let mut tree := (tree.makeFolders? place).getD tree
    for entry in ← path.readDir do
      tree ← load (place ++ [entry.fileName]) tree
    return tree
  else if ← path.pathExists then
    let bytes ← IO.FS.readBinFile path
    let changed := secondsOf (← path.metadata).modified
    return (tree.write? place ⟨bytes.toList, changed⟩).getD tree
  else return tree

/-- The locations that a configuration names. -/
def locationsOf (config : Config) : List Location :=
  [config.layouts, config.views, config.components] ++ config.cache.toList

/-- The data file of a command. -/
def dataOf : Job → Option String
  | .render _ data _ _ => data
  | _ => none

/-- The tree with the folders that a path leads through. -/
def loadWay (cwd : Location) (path : String) (tree : FileTree) : IO FileTree :=
  let names := Location.namesOf path
  (List.range (names.length + 1)).foldlM (fun tree count => do
    let place := cwd.walk ("/".intercalate (names.take count))
    let folder := (← IO.currentDir) / place.text
    if ← folder.isDir then
      return (tree.makeFolders? place).getD tree
    else return tree) tree

/-- The files that a command can read. -/
def filesFor (cwd : Location) (root : String) (job : Job) : IO FileTree := do
  let dir := cwd.walk root
  let tree ← load (dir ++ [Config.fileName]) .empty
  let tree ←
    match dataOf job with
    | some path => loadWay cwd path (← load (cwd.walk path) tree)
    | none => pure tree
  match loadConfig tree dir with
  | .ok config => (locationsOf config).foldlM (fun tree place => load place tree) tree
  | .error _ => return tree

/-- The cache folder of a project, if it has one. -/
def cacheOf (tree : FileTree) (dir : Location) : Option Location :=
  match loadConfig tree dir with
  | .ok config => config.cache
  | .error _ => none

/-- Removes from this machine the files of the cache that are no longer there. -/
def removeOld (cache : Location) (before after : FileTree) : IO Unit := do
  for (names, _) in before.filesBelow cache do
    if !after.has (cache ++ names) then
      IO.FS.removeFile (Location.text (cache ++ names))

/-- Writes the files of the cache that are new or changed. -/
def writeNew (cache : Location) (before after : FileTree) : IO Unit := do
  for (names, file) in after.filesBelow cache do
    let place := cache ++ names
    if before.file? place != some file then
      IO.FS.createDirAll (Location.text place.dropLast)
      IO.FS.writeBinFile (Location.text place) ⟨file.bytes.toArray⟩

/-- Makes this machine's cache folder hold what a run has left there. -/
def storeBack (dir : Location) (before after : FileTree) : IO Unit := do
  match cacheOf before dir with
  | none => pure ()
  | some cache =>
    if after.isFolder cache then IO.FS.createDirAll (Location.text cache)
    removeOld cache before after
    writeNew cache before after

/-- Runs a command; the result is the exit code. -/
def runJob (root : String) (job : Job) : IO UInt32 := do
  let cwd ← presentFolder
  let files ← filesFor cwd root job
  let world : World := {
    host := ⟨files, ← now, 0, 0⟩
    switch := ← IO.getEnv "MKY_CACHE"
    sites := []
    components := []
    views := []
    streams := [] }
  let (result, world) := Id.run ((perform cwd root job).run.run world)
  storeBack (cwd.walk root) files world.host.files
  match result with
  | .ok output =>
    IO.print output.out
    IO.eprint output.message
    return output.exitCode.toUInt32
  | .error fault =>
    IO.eprintln fault.message
    return 1

end

end Stencil.Program

/-- Runs the program with the arguments of its command line. -/
def main (arguments : List String) : IO UInt32 :=
  match Stencil.Command.requestOf arguments with
  | .version => do
    IO.println ("mky " ++ Stencil.Command.version)
    return 0
  | .misuse => do
    IO.eprintln "usage: mky [--root ROOT] [--verbose] (render | compile | list | cache) ..."
    return 2
  | .command root job => Stencil.Program.runJob root job
