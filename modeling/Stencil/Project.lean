import Stencil.Config
import Stencil.Directive.Token
import Stencil.Engine.World
import Stencil.Files.Lookup
import Stencil.Yaml.Loader

/-! # Projects — sites made from configuration files

    A configuration and a data file hold one mapping, or nothing.  The paths of a
    configuration are followed from where its file really lies.  A site has the
    roots, the extension and the namespace of its configuration, and a store
    if a cache folder is set and the cache is not switched off.  The store is made
    before the namespace is checked. -/

namespace Stencil

/-- What a configuration or data file at a location may not be. -/
def documentFault (path : String) : Yaml.Refusal → Fault
  | .malformed => .config (.unparsable path)
  | .raised cause => .trouble cause

/-- The mapping that a document in the file that `path` names holds; a void value counts as an
    empty mapping. -/
def mappingOf (path : String) (v : Value) : Except Fault Value :=
  if !v.isTrue then .ok (.map [])
  else
    match v with
    | .map entries => .ok (.map entries)
    | _ => .error (.config (.notMapping path))

section Loading

variable [YamlLoader]

/-- The mapping in the file at a location, which `path` names; an absent file, like an empty
    document, is an empty mapping. -/
def readMapping (tree : FileTree) (place : Location) (path : String) : Except Fault Value :=
  match tree.file? place with
  | none => .ok (.map [])
  | some file => do
    let text ← Sources.textOf file
    mappingOf path (← (YamlLoader.load text).mapError (documentFault path))

/-- The settings in a configuration file at a location, if the system can look for it. -/
def loadSettings (tree : FileTree) (place : Location) : Except Fault Value :=
  if !tree.isFile place && tree.isTooLong [] place then .error (.trouble (.path .tooLong))
  else readMapping tree place place.text

/-- Where the configuration file of the project in a folder really lies. -/
def settingsPlace [FileSystem] (dir : Location) : Except Fault Location :=
  Config.placeOf dir Config.fileName

/-- The configuration of the project in a folder. -/
def loadConfig [FileSystem] (tree : FileTree) (dir : Location) : Except Fault Config := do
  let place ← settingsPlace dir
  Config.ofValue (← loadSettings tree place) place.dropLast

/-- The mapping in a data file at a location, which `path` names. -/
def loadData (tree : FileTree) (place : Location) (path : String) : Except Fault Value :=
  if tree.isFile place then readMapping tree place path
  else .error (.config (.noDataFile path))

/-- The mapping in the data file that a written path names. -/
def findData [FileSystem] (tree : FileTree) (cwd : Location) (path : String) :
    Except Fault Value :=
  match tree.seek cwd path with
  | .ok place => loadData tree place (Location.tidied path)
  | .error .absent => .error (.config (.noDataFile (Location.tidied path)))
  | .error .refused => .error (.trouble (.path .tooLong))

end Loading

/-- The settings of a new site; the roots are where their paths really lead. -/
structure Setup where
  roots : List (Role × Location)
  extension : String
  ns : String
  cache : Option Location
  strict : Bool
deriving DecidableEq, Repr

/-- The settings of a site for a configuration. -/
def Config.setup (config : Config) : Setup where
  roots := Role.all.map fun role => (role, config.directory role)
  extension := config.extension
  ns := config.ns
  cache := config.cache
  strict := config.strict

namespace Engine

/-- The store in a folder, if one is set and the cache is not switched off. -/
def openStore [FileSystem] (dir : Option Location) : Engine (Option Store) := do
  let world ← get
  match dir with
  | none => return none
  | some dir =>
    if cacheSwitchedOn world.switch true then
      let (store, files) := Store.make world.host.files dir
      set { world with host := { world.host with files } }
      return some store
    else return none

/-- A new site, and its number. -/
def openSite [FileSystem] (setup : Setup) : Engine Nat := do
  let store ← openStore setup.cache
  if !Directive.isNamespace setup.ns.toList then trouble (.badNamespace setup.ns)
  else
    let world ← get
    let site : Site := {
      sources := ⟨Sources.rootsOf setup.roots, setup.extension⟩
      ns := setup.ns
      strict := setup.strict
      cache := ⟨.empty, store⟩
      held := .empty }
    set { world with sites := world.sites ++ [site] }
    return world.sites.length

/-- A new site for the project in a folder. -/
def openProject [FileSystem] [YamlLoader] (dir : Location) : Engine Nat := do
  let config ← ofFault (loadConfig (← get).host.files dir)
  openSite config.setup

end Engine

end Stencil
