import Stencil.Command.Arguments
import Stencil.Engine.Rendering
import Stencil.Json.Basic
import Stencil.Project

/-! # Running commands — templates rendered, compiled and listed

    A command works on the project of a folder.  What it gives is written out
    only when nothing went wrong; a fault that the author of templates can mend
    is written as a message, with nothing else put out. -/

namespace Stencil.Command

open Stencil.Text

/-- What a command comes to: what it writes, or the fault that it reports. -/
inductive Output where
  | written (text : String)
  | reported (fault : Fault)
deriving DecidableEq, Repr

/-- The exit code of a command. -/
def Output.exitCode : Output → Nat
  | .written _ => 0
  | .reported _ => 2

/-- The version of the program. -/
def version : String := "0.1.0"

/-- A variable set in the command line: its name, without blanks around it, and its value. -/
def settingOf (item : String) : Except Fault (Value × Value) :=
  match cutAt? '=' item.toList with
  | some (name, value) => .ok (.text (String.ofList (strip name)), .text (String.ofList value))
  | none => .error (.usage (.badSetting item))

/-- The template that a command names; one without a role is a view. -/
def targetOf (text : String) : Except Fault TemplateId :=
  (TemplateId.parse text .view).mapError fun unknown => .usage (.unknownRole unknown)

section Running

variable [Substrate] [FileSystem] [YamlLoader]

/-- The variables of a data file. -/
def dataEntries (cwd : Location) (data : Option String) : Engine (List (Value × Value)) := do
  match data with
  | none => return []
  | some path =>
    if path.isEmpty then return []
    else
      let files := (← get).host.files
      match ← Engine.ofFault (findData files cwd path) with
      | .map entries => return entries
      | _ => return []

/-- Renders a template with variables, in a layout if it is a view. -/
def renderTarget (site : Nat) (template : TemplateId) (scope : Scope)
    (layout : Option String) : Engine String := do
  match template.role with
  | .view =>
    let handle ← Engine.newView site template.name
    Engine.bindAll handle (.map scope)
    match handle with
    | .view i => Engine.extend i ((layout.map Value.text).getD .null)
    | .component _ => pure ()
    Engine.render handle
  | role =>
    if layout.any fun name => !name.isEmpty then throw (.usage .layoutForComponent)
    else if role == .component then
      let handle ← Engine.newComponent site template.name
      Engine.bindAll handle (.map scope)
      Engine.render handle
    else throw (.usage (.notRenderable template))

/-- The document of a summary of the cache. -/
def snapshotJson (snapshot : Snapshot) : Json :=
  .object [("enabled", .bool snapshot.enabled),
    ("path", (snapshot.path.map fun place => Json.text place.text).getD .null),
    ("exists", .bool snapshot.present), ("size_bytes", .int snapshot.size),
    ("entries", .int snapshot.entries)]

/-- What a command writes for the project at a site. -/
def outputOf (cwd : Location) (site : Nat) : Job → Engine String
  | .render target data settings layout => do
    let entries ← dataEntries cwd data
    let sets ← Engine.ofFault (settings.mapM settingOf)
    let template ← Engine.ofFault (targetOf target)
    renderTarget site template (Value.setEntries entries sets) layout
  | .compile target => do
    let artifact ← Engine.resolve site (← Engine.ofFault (targetOf target))
    match artifact.code.text? with
    | some code => return code
    | none => Engine.fail .badType
  | .list role => do
    let world ← get
    let names := (world.site site).sources.list world.host.files role
    return (Json.object [("templates", .array (names.map Json.text))]).pretty ++ "\n"
  | .cache clear => do
    if clear then Engine.purge site
    let world ← get
    return (snapshotJson ((world.site site).cache.snapshot world.host)).pretty ++ "\n"

/-- Whether a fault is one that the author of templates can mend. -/
def isMendable : Fault → Bool
  | .trouble _ => false
  | _ => true

/-- What a command puts out. -/
def Output.out : Output → String
  | .written text => text
  | .reported _ => ""

/-- The message of a command: that of its fault, as one line. -/
def Output.message : Output → String
  | .written _ => ""
  | .reported fault => String.ofList (stripEnd fault.message.toList) ++ "\n"

/-- A new site for the project in the folder that a path names. -/
def openRoot (cwd : Location) (root : String) : Engine Nat := do
  Engine.openProject (← Engine.ofFault (Config.placeOf cwd root))

/-- Runs a command for the project in a folder, which is named from the working folder. -/
def perform (cwd : Location) (root : String) (job : Job) : Engine Output :=
  tryCatch (do
      let site ← openRoot cwd root
      return .written (← outputOf cwd site job))
    fun fault => if isMendable fault then return .reported fault else throw fault

end Running

end Stencil.Command
