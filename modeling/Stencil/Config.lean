import Stencil.Fault
import Stencil.Files.Links
import Stencil.Value.Shown

/-! # Configuration — a project's settings

    A project names the directory of each role, the extension of its templates,
    the namespace of its directives, an optional cache directory, and whether
    undefined names are errors.  Settings come from a map; paths are followed from
    the directory that holds the file, and a missing setting has its default. -/

namespace Stencil

open Stencil.Text

/-- The settings of a project. -/
structure Config where
  layouts : Location
  views : Location
  components : Location
  extension : String
  ns : String
  cache : Option Location
  strict : Bool
deriving DecidableEq, Repr

namespace Config

/-- The name of the configuration file. -/
def fileName : String := "mky.yaml"

/-- The extension of templates by default. -/
def defaultExtension : String := ".html"

/-- The namespace of directives by default. -/
def defaultNamespace : String := "mky"

/-- The setting that holds a role's directory, which is also the default directory. -/
def directoryKey : Role → String
  | .layout => "layouts"
  | .view => "views"
  | .component => "components"

/-- The settings there are. -/
def knownKeys : List String :=
  Role.all.map directoryKey ++ ["extension", "namespace", "cache", "strict"]

/-- The directory of a role. -/
def directory (config : Config) : Role → Location
  | .layout => config.layouts
  | .view => config.views
  | .component => config.components

/-- What a value says when it is written out plainly, unless it cannot be shown. -/
def plainText (v : Value) : Except Fault String :=
  match v.text? with
  | some s => .ok s
  | none => if v.isShowable then .ok (v.shown fun _ => "") else .error .badValue

/-- Where a written path really leads from a base that is no link; no path holds a null character,
    and links in a circle lead nowhere. -/
def placeOf [FileSystem] (base : Location) (path : String) : Except Fault Location :=
  if path.toList.contains '\x00' then .error .badValue
  else
    match base.follow? path with
    | some place => .ok place
    | none => .error (.trouble (.path .endless))

/-- The keys of the settings, or the items of another collection that stands in their place. -/
def keysOf? : Value → Option (List Value)
  | .map entries => some (entries.map (·.1))
  | .list items => if items.all Value.isKey then some items else none
  | .tuple items => if items.all Value.isKey then some items else none
  | .set items => some items
  | .text s => some (s.toList.map fun c => .text (String.singleton c))
  | .safe s => some (s.toList.map fun c => .text (String.singleton c))
  | .bytes b => some (b.map fun n => .int n.toNat)
  | _ => none

/-- The texts among unknown keys, each once, in the order of their code points; nothing if one
    of them is no text. -/
def unknownTexts? (keys : List Value) : Option (List String) := do
  let texts ← keys.mapM Value.text?
  return (texts.eraseDups).mergeSort fun a b => decide (a ≤ b)

/-- Whether a key is the name of a setting. -/
def isKnown (key : Value) : Bool :=
  knownKeys.any fun known => Value.same (.text known) key

/-- The entries of the settings, all of which are known. -/
def entriesOf (data : Value) : Except Fault (List (Value × Value)) := do
  let keys ← (keysOf? data).elim (.error .badType) .ok
  let unknown := keys.filter fun key => !isKnown key
  if !unknown.isEmpty then
    match unknownTexts? unknown with
    | some texts => .error (.config (.unknownKeys texts))
    | none => .error .badType
  else
    match data with
    | .map entries => .ok entries
    | _ => .error .noMember

/-- A setting, or its default. -/
def setting (entries : List (Value × Value)) (key : String) (default : Value) : Value :=
  (Value.entry? entries (.text key)).getD default

/-- The directory of a role, followed from a base. -/
def directoryOf [FileSystem] (entries : List (Value × Value)) (base : Location) (role : Role) :
    Except Fault Location :=
  let key := directoryKey role
  match (setting entries key (.text key)).text? with
  | some path =>
    if allBlank path.toList then .error (.config (.badPath key)) else placeOf base path
  | none => .error (.config (.badPath key))

/-- An extension with the dot it starts with. -/
def dotted (extension : String) : String :=
  if extension.toList.head? == some '.' then extension else "." ++ extension

/-- The extension of templates. -/
def extensionOf (entries : List (Value × Value)) : Except Fault String := do
  return dotted (← plainText (setting entries "extension" (.text defaultExtension)))

/-- The cache directory, followed from a base, if one is set. -/
def cacheOf [FileSystem] (entries : List (Value × Value)) (base : Location) :
    Except Fault (Option Location) := do
  let written := setting entries "cache" .null
  if written.isTrue then return some (← placeOf base (← plainText written)) else return none

/-- Whether undefined names are errors. -/
def strictOf (entries : List (Value × Value)) : Except Fault Bool :=
  match setting entries "strict" (.bool true) with
  | .bool strict => .ok strict
  | _ => .error (.config (.notBoolean "strict"))

/-- The namespace of directives. -/
def namespaceOf (entries : List (Value × Value)) : Except Fault String :=
  plainText (setting entries "namespace" (.text defaultNamespace))

/-- The configuration of a map of settings, with paths followed from a base. -/
def ofValue [FileSystem] (data : Value) (base : Location) : Except Fault Config := do
  let entries ← entriesOf data
  let layouts ← directoryOf entries base .layout
  let views ← directoryOf entries base .view
  let components ← directoryOf entries base .component
  let extension ← extensionOf entries
  let cache ← cacheOf entries base
  let strict ← strictOf entries
  let ns ← namespaceOf entries
  return { layouts, views, components, extension, ns, cache, strict }

/-- The configuration's own settings, with absolute paths. -/
def toValue (config : Config) : Value :=
  .map [
    (.text "layouts", .text config.layouts.text),
    (.text "views", .text config.views.text),
    (.text "components", .text config.components.text),
    (.text "extension", .text config.extension),
    (.text "namespace", .text config.ns),
    (.text "cache", (config.cache.map fun place => Value.text place.text).getD .null),
    (.text "strict", .bool config.strict)]

end Config

/-- Words that turn the disk cache off. -/
def offWords : List String := ["0", "false", "no", "off", ""]

/-- Whether the switch of the disk cache leaves it on; without a switch the default counts.  No
    letter outside the Latin alphabet has a lower case in these words. -/
def cacheSwitchedOn (switch : Option String) (default : Bool) : Bool :=
  match switch with
  | none => default
  | some word => !offWords.contains (String.ofList ((strip word.toList).map Char.toLower))

/-- The version of the engine's tool: that of the first of its distributions that is installed. -/
def toolVersion (installed : List (String × String)) : String :=
  ((["mky-engine", "mky"].findSome? fun name => installed.lookup name).getD "0.0.0")

end Stencil
