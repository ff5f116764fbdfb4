import Stencil.Cache.Resolve
import Stencil.Engine.Dialogue
import Stencil.Text.Quoted
import Stencil.Value.Shown

/-! # Worlds — the state of engines and their fragments

    A site is one engine: its sources, its cache and the scripts it holds.  A
    world has the host, the switch of the disk cache if it is set, the sites, the
    fragments made from them, and what the streams still hold.  What an engine
    does is a change of its world with a result or a fault; a change made before
    a fault stays.  Of what compiles a fragment, and of its site, values show how
    they are named and set up; the caches and what they do are no values. -/

namespace Stencil

/-- One engine: where its templates lie, how they are compiled, what it holds. -/
structure Site where
  sources : Sources
  ns : String
  strict : Bool
  cache : Cache
  held : Table TemplateId (String × Script)
deriving Inhabited

/-- The state of engines and their fragments. -/
structure World where
  host : Host
  switch : Option String
  sites : List Site
  components : List Component
  views : List View
  streams : List (List Value)

/-- What an engine does. -/
abbrev Engine (α : Type) := ExceptT Fault (StateM World) α

namespace World

/-- The site of a number. -/
def site (world : World) (i : Nat) : Site :=
  world.sites[i]?.getD default

/-- The component of a number. -/
def component (world : World) (i : Nat) : Component :=
  world.components[i]?.getD default

/-- The view of a number. -/
def view (world : World) (i : Nat) : View :=
  world.views[i]?.getD default

/-- The world with a site changed. -/
def setSite (world : World) (i : Nat) (site : Site) : World :=
  { world with sites := world.sites.set i site }

/-- The world with a component changed. -/
def setComponent (world : World) (i : Nat) (component : Component) : World :=
  { world with components := world.components.set i component }

/-- The world with a view changed. -/
def setView (world : World) (i : Nat) (view : View) : World :=
  { world with views := world.views.set i view }

/-- The site of a fragment. -/
def siteOf (world : World) : Handle → Nat
  | .component i => (world.component i).site
  | .view i => (world.view i).site

/-- The name of a fragment's template. -/
def templateOf (world : World) : Handle → String
  | .component i => (world.component i).template
  | .view i => (world.view i).template

/-- A fragment as it is shown. -/
def name (world : World) : Handle → String
  | .component i => "Component(" ++ Text.quoted (world.component i).template ++ ")"
  | .view i => "View(" ++ Text.quoted (world.view i).template ++ ")"

/-! ## What paths and templates see -/

/-- The state of a fragment. -/
def members (world : World) : Handle → List (String × Value)
  | .component i =>
    let c := world.component i
    [("view_compiler", .part (.compiler (.component i))), ("variables", .map c.vars),
      ("for_count", .int c.count), ("for_closure", (c.closure.map Closure.value).getD .null),
      ("condition", (c.gate.map Value.bool).getD .null), ("for_data", c.data),
      ("other_view", (c.other.map Value.text).getD .null)]
  | .view i =>
    let v := world.view i
    [("view_compiler", .part (.compiler (.view i))), ("variables", .map v.vars),
      ("layout", (v.layout.map Value.text).getD .null)]

/-- The roots of a site by their roles. -/
def rootsOf (world : World) (site : Nat) : Value :=
  .map ((world.site site).sources.roots.map fun (role, root) =>
    (.foreign "DirectoryType" role.name, .foreign "PosixPath" root.text))

/-- The state of a part. -/
def partState (world : World) : Part → List (String × Value)
  | .compiler handle =>
    [("environment", .part (.site (world.siteOf handle))),
      ("view", .text (world.templateOf handle))]
  | .site i =>
    [("_roots", world.rootsOf i), ("extension", .text (world.site i).sources.extension),
      ("namespace", .text (world.site i).ns)]

/-- What the kind of a part gives it. -/
def partKind (world : World) : Part → List (String × Value)
  | .compiler handle =>
    [("get_view", .action (.gives (.text (world.templateOf handle)))),
      ("get_environment", .action (.gives (.part (.site (world.siteOf handle)))))]
  | .site i => [("roots", world.rootsOf i)]

/-- What a value shows to lookups. -/
def facets [Substrate] (world : World) : Value → BindPath.Facets
  | .record _ r => .ofRecord r
  | .fragment handle => .ofMembers (world.members handle) (BindPath.methodsOf handle)
  | .part part => .ofMembers (world.partState part) (world.partKind part)
  | v => Substrate.facets v

/-- What calling a value without arguments comes to, if it renders nothing. -/
def call (world : World) : Value → Except Fault Value
  | .action outcome =>
    (BindPath.run outcome).mapError fun failure => .trouble (.failure failure)
  | .method handle .getView => .ok (.text (world.templateOf handle))
  | _ => .error .badType

/-- What paths and templates see of a world. -/
def surroundings [Substrate] (world : World) : BindPath.Surroundings where
  facets := world.facets
  call := world.call
  name := world.name

end World

namespace Engine

/-- A fault of a trouble. -/
def trouble {α : Type} (trouble : Trouble) : Engine α :=
  throw (.trouble trouble)

/-- A fault of a failure. -/
def fail {α : Type} (failure : Failure) : Engine α :=
  throw (.trouble (.failure failure))

/-- The result of a computation that can have a trouble. -/
def ofTrouble {α : Type} (result : Except Trouble α) : Engine α :=
  match result with
  | .ok x => pure x
  | .error cause => trouble cause

/-- The result of a computation that can have a fault. -/
def ofFault {α : Type} (result : Except Fault α) : Engine α :=
  match result with
  | .ok x => pure x
  | .error fault => throw fault

/-- A new component, and its handle. -/
def newComponent (site : Nat) (template : String) : Engine Handle := do
  let world ← get
  set { world with components := world.components ++ [Component.new site template] }
  return .component world.components.length

/-- A new view, and its handle. -/
def newView (site : Nat) (template : String) : Engine Handle := do
  let world ← get
  set { world with views := world.views ++ [View.new site template] }
  return .view world.views.length

/-- A new stream that holds some values. -/
def newStream (items : List Value) : Engine Value := do
  let world ← get
  set { world with streams := world.streams ++ [items] }
  return .stream world.streams.length

/-- All that a stream still holds, which it then holds no more. -/
def drain (id : Nat) : Engine (List Value) := do
  let world ← get
  set { world with streams := world.streams.set id [] }
  return world.streams[id]?.getD []

/-- The next value of a stream, which then holds it no more, and how many it still holds. -/
def next (id : Nat) : Engine (Option (Value × Nat)) := do
  let world ← get
  match world.streams[id]?.getD [] with
  | [] => return none
  | v :: rest =>
    set { world with streams := world.streams.set id rest }
    return some (v, rest.length)

/-- The artifact of a template at a site. -/
def resolve [FileSystem] (site : Nat) (template : TemplateId) : Engine Artifact := do
  let world ← get
  let s := world.site site
  let (result, cache, host) := s.cache.resolve s.sources s.ns.toList template world.host
  set { (world.setSite site { s with cache }) with host }
  ofFault result

/-- Empties the cache of a site. -/
def purge (site : Nat) : Engine Unit := do
  let world ← get
  let s := world.site site
  let (cache, host) := s.cache.purge world.host
  set { (world.setSite site { s with cache }) with host }

end Engine

end Stencil
