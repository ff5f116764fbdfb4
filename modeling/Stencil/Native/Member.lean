import Stencil.Engine.Dialogue
import Stencil.Native.Expression
import Stencil.Text.Blank
import Stencil.Text.Place
import Stencil.Value.Shown

/-! # Members — what native templates read from values

    A member is looked up among what the value itself has and then among its
    items; an item the other way round.  What is not there is an absence, which
    says what was looked for; looking anything up in an absence fails.  What lies
    in the engine is asked for. -/

namespace Stencil.Native

/-- A dialogue that ends with a failure. -/
def fail {α : Type} (failure : Failure) : Dialogue α :=
  .stop (.failure failure)

/-- A dialogue that ends because an absence is used. -/
def refuse {α : Type} (absence : Absence) : Dialogue α :=
  .stop (.absent absence.message)

/-- A value as messages name it. -/
def objectName : Value → String
  | .null => "None"
  | .safe _ => "markupsafe.Markup object"
  | .fragment (.component _) => "mky.component.Component object"
  | .fragment (.view _) => "mky.view.View object"
  | v => v.typeName ++ " object"

/-- The absence of a member. -/
def noMemberOf (strict : Bool) (subject : Value) (name : String) : Value :=
  let message := Text.quoted (objectName subject) ++ " has no attribute " ++ Text.quoted name
  .absent ⟨message, strict⟩

/-- The absence of an item. -/
def noItemOf (strict : Bool) (subject : Value) (index : String) : Value :=
  .absent ⟨objectName subject ++ " has no element " ++ index, strict⟩

/-- The absence of a variable. -/
def noVariable (strict : Bool) (name : String) : Value :=
  .absent ⟨Text.quoted name ++ " is undefined", strict⟩

/-- A value as it is shown. -/
def shown (v : Value) : Dialogue String := do
  return v.shown (← Dialogue.request .look).name

/-- A member that a value has of its own; nothing if it has none of that name. -/
def ownMember (v : Value) (name : String) : Dialogue (Option Value) := do
  match ((← Dialogue.request .look).facets v).read name with
  | .ok v => return some v
  | .error (.failure .noMember) => return none
  | .error cause => .stop cause

/-- A member of a value. -/
def memberOf (strict : Bool) (v : Value) (name : String) : Dialogue Value := do
  match v with
  | .absent absence => refuse absence
  | .map entries => return (Value.entry? entries (.text name)).getD (noMemberOf strict v name)
  | v => return (← ownMember v name).getD (noMemberOf strict v name)

/-- The item of a list at an index, which counts from the end if it is negative. -/
def listItem? {α : Type} (items : List α) (index : Int) : Option α :=
  let place := if index < 0 then index + items.length else index
  if place < 0 then none else items[place.toNat]?

/-- The item of a sequence at an index. -/
def sequenceItem? (v : Value) (index : Int) : Option Value :=
  match v with
  | .map _ => none
  | v => v.items?.bind fun items => listItem? items index

/-- An item of a value. -/
def itemOf (strict : Bool) (v index : Value) : Dialogue Value := do
  let missing : Dialogue Value := do return noItemOf strict v (← shown index)
  match v, index with
  | .absent absence, _ => refuse absence
  | .map entries, .absent absence =>
    if absence.strict then refuse absence
    else
      match Value.entry? entries index with
      | some found => return found
      | none => missing
  | .map entries, index =>
    match Value.entry? entries index, index.text? with
    | some found, _ => return found
    | none, some name => return noMemberOf strict v name
    | none, none => missing
  | v, index =>
    match index.int?.bind (sequenceItem? v), index.text? with
    | some found, _ => return found
    | none, some name => return (← ownMember v name).getD (noMemberOf strict v name)
    | none, none => missing

/-- What a value puts into the output. -/
def textOf (v : Value) : Dialogue String := do
  match v with
  | .text s => return s
  | .safe s => return s
  | .fragment handle => Dialogue.request (.render handle)
  | .absent absence => if absence.strict then refuse absence else return ""
  | v => if v.isShowable then shown v else fail .badValue

/-! ## Collections -/

/-- What a stream still gives, of which `left` bounds the number. -/
def drainUpTo (stream : Nat) : Nat → Dialogue (List Value)
  | 0 => pure []
  | left + 1 => do
    match ← Dialogue.request (.next stream) with
    | none => return []
    | some (v, _) => return v :: (← drainUpTo stream left)

/-- All that a stream still gives. -/
def drain (stream : Nat) : Dialogue (List Value) := do
  match ← Dialogue.request (.next stream) with
  | none => return []
  | some (v, left) => return v :: (← drainUpTo stream left)

/-- The values that a repetition goes through. -/
def valuesOf (v : Value) : Dialogue (List Value) := do
  match v with
  | .map entries => return entries.map (·.1)
  | .set items => return items
  | .safe s => return s.toList.map fun c => .text (String.singleton c)
  | .stream id => drain id
  | .absent absence => if absence.strict then refuse absence else return []
  | v =>
    match v.items? with
    | some items => return items
    | none => fail .badType

/-- Whether a value is among others. -/
def isAmong (v : Value) : List Value → Except Trouble Bool
  | [] => .ok false
  | other :: others => do
    if ← Value.equal other v then return true else isAmong v others

/-- Bytes as the characters of their numbers. -/
def bytesAsChars (bytes : List UInt8) : List Char :=
  bytes.map fun n => Char.ofNat n.toNat

/-- Whether a value lies inside another. -/
def isInside (v container : Value) : Dialogue Bool := do
  match container with
  | .text s =>
    match v.text? with
    | some part => return Value.isPart part.toList s.toList
    | none => fail .badType
  | .safe s =>
    match v.text? with
    | some part => return Value.isPart part.toList s.toList
    | none => fail .badType
  | .bytes b =>
    match v, v.int? with
    | .bytes part, _ => return Value.isPart (bytesAsChars part) (bytesAsChars b)
    | _, some i =>
      if 0 ≤ i && i < 256 then return b.contains (UInt8.ofNat i.toNat) else fail .badValue
    | _, none => fail .badType
  | .map entries =>
    match v with
    | .absent absence => if absence.strict then refuse absence else return false
    | v => if v.isKey then return (Value.entry? entries v).isSome else fail .badType
  | container => .ofTrouble (isAmong v (← valuesOf container))

/-! ## Paths -/

/-- The name of the type of paths. -/
def pathType : String := "PosixPath"

/-- What a path shows to lookups. -/
def pathFacets (path : String) : BindPath.Facets :=
  let place := Location.walk [] path
  .ofMembers [] [("parent", .foreign pathType (Location.text place.dropLast)),
    ("name", .text (place.getLast?.getD ""))]

/-- The text of the file that a path names. -/
def readText (path : String) : Dialogue String := do
  match (← Dialogue.request .files).file? (Location.walk [] path) with
  | none => .stop (.raised "FileNotFoundError")
  | some file =>
    match decodeText? file.bytes with
    | some text => return String.ofList (Text.unifyLines text.toList)
    | none => .stop .undecodable

/-! ## Calls -/

/-- Calls a value. -/
def callValue (callee : Value) (plain : List Value) (named : List (String × Value)) :
    Dialogue Value := do
  match callee with
  | .absent absence => refuse absence
  | .method handle method => Dialogue.request (.call handle method plain named)
  | .action outcome =>
    if !plain.isEmpty || !named.isEmpty then fail .badType
    else
      match outcome with
      | .gives v => return v
      | .fails failure => fail failure
  | _ => fail .badType

/-- A view of a map's parts, as it is shown. -/
def viewOf (typeName : String) (items : List Value) : Dialogue Value := do
  return .row typeName (typeName ++ "(" ++ (← shown (.list items)) ++ ")") none items

/-- A function that has no parameters. -/
def bare (result : Dialogue Value) (plain : List Value) : Dialogue Value :=
  if plain.isEmpty then result else fail .badType

/-- The path behind another one. -/
def joinPath (path : String) (plain : List Value) : Dialogue Value :=
  match plain with
  | [.text part] => pure (.foreign pathType (Location.text ((Location.walk [] path).walk part)))
  | _ => fail .badType

/-- A function that maps or paths have under a name. -/
def function? (v : Value) (name : String) : Option (List Value → Dialogue Value) :=
  match v, name with
  | .map entries, "keys" => some (bare (viewOf "dict_keys" (entries.map (·.1))))
  | .map entries, "values" => some (bare (viewOf "dict_values" (entries.map (·.2))))
  | .map entries, "items" =>
    some (bare (viewOf "dict_items" (entries.map fun e => .tuple [e.1, e.2])))
  | .foreign "PosixPath" path, "joinpath" => some (joinPath path)
  | .foreign "PosixPath" path, "read_text" => some (bare do return .text (← readText path))
  | _, _ => none

/-- Sets entries in the variables of a fragment. -/
def update (handle : Handle) (entries : Value) : Dialogue Value := do
  match entries with
  | .map entries =>
    Dialogue.request (.alterScope handle fun scope => Value.setEntries scope entries)
    return .null
  | _ => fail .badType

end Stencil.Native
