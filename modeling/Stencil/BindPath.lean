import Stencil.Fault
import Stencil.Number.Digits
import Stencil.Text.Upper

/-! # Bind paths — dotted paths into the data

    A path is cut at its dots, and each segment is looked up in the value
    reached so far.  A scalar absorbs the rest of the path.  Maps are looked up
    by the segment as a key, then as an integer key; lists, tuples and other
    rows by an index that counts from their start; objects by their own members,
    then their accessor for the segment, which is called, then any member.  A
    segment that writes an integer of too many digits fails in every keyed
    collection. -/

namespace Stencil.BindPath

open Stencil.Text

/-- What an object shows to lookups: its own fields, the slots of its kind that are set, which
    names it or its kind declares, and what reading a member comes to. -/
structure Facets where
  field? : String → Option Value
  slot? : String → Option Value
  declares : String → Bool
  read : String → Except Trouble Value

/-- What paths depend on: what objects show, what calling a value without arguments comes to, and
    how fragments are named. -/
structure Surroundings where
  facets : Value → Facets
  call : Value → Except Fault Value
  name : Handle → String

/-- The shape by which the members of a value are looked up; scalars have none. -/
def shape? : Value → Option Shape
  | .null => none
  | .bool _ => none
  | .int _ => none
  | .real _ => none
  | .text _ => none
  | .safe _ => none
  | .bytes _ => none
  | .list _ => some .keyed
  | .tuple _ => some .keyed
  | .row _ _ _ _ => some .keyed
  | .map _ => some .keyed
  | _ => some .structured

/-- The natural that a row of decimal digits writes, unless there are too many of them. -/
def naturalOf (digits : List Char) : Except Failure (Option Nat) :=
  if digits.isEmpty || !digits.all Char.isDigit then .ok none
  else if Digits.most < digits.length then .error .badValue
  else .ok (some (Digits.decimal digits))

/-- The integer a segment writes: decimal digits behind at most one minus. -/
def indexOf (segment : String) : Except Failure (Option Int) :=
  match segment.toList with
  | '-' :: digits => return (← naturalOf digits).map fun n => -(n : Int)
  | digits => return (← naturalOf digits).map Int.ofNat

/-- The item of a sequence at an index from its start. -/
def item? (items : List Value) (index : Option Int) : Option Value :=
  match index with
  | some (.ofNat n) => items[n]?
  | _ => none

/-- The item at an index of a row, whose length is asked for unless the index lies before its
    start. -/
def rowItem (refusal : Option Failure) (items : List Value) (index : Option Int) :
    Except Failure (Option Value) :=
  match index, refusal with
  | some (.ofNat _), some failure => .error failure
  | index, _ => .ok (item? items index)

/-- The value in a map under a segment itself, else under the integer it writes. -/
def entryAt? (entries : List (Value × Value)) (segment : String) (index : Option Int) :
    Option Value :=
  match Value.entry? entries (.text segment) with
  | some v => some v
  | none => index.bind fun i => Value.entry? entries (.int i)

/-! ## Objects -/

/-- The outcome of an action. -/
def run (outcome : Outcome Value) : Except Failure Value :=
  match outcome with
  | .gives v => .ok v
  | .fails failure => .error failure

/-- A member that a record serves although it does not have it. -/
def served (r : Record Value) (name : String) : Except Failure Value :=
  match r.dynamic with
  | none => .error .noMember
  | some (values, refusal) =>
    match values.lookup name with
    | some v => .ok v
    | none => .error refusal

/-- A member of a record as any reader sees it: properties first, then what the record has and
    its kind declares, then what it serves. -/
def read (r : Record Value) (name : String) : Except Failure Value :=
  match r.properties.lookup name with
  | some (.gives v) => .ok v
  | some (.fails .noMember) => served r name
  | some (.fails failure) => .error failure
  | none =>
    match r.slots.lookup name with
    | some v => .ok v
    | none =>
      if r.emptySlots.contains name then served r name
      else
        match (r.fields.getD []).lookup name with
        | some v => .ok v
        | none =>
          match r.getters.lookup name with
          | some outcome => .ok (.action outcome)
          | none =>
            match r.statics.lookup name with
            | some v => .ok v
            | none => served r name

/-- Whether a record or its kind declares a member of a name. -/
def declares (r : Record Value) (name : String) : Bool :=
  (r.properties.lookup name).isSome || (r.slots.lookup name).isSome ||
    r.emptySlots.contains name || ((r.fields.getD []).lookup name).isSome ||
    (r.getters.lookup name).isSome || (r.statics.lookup name).isSome

/-- The name of the accessor for a segment: `get` and the segment with a capital. -/
def accessorName? (segment : String) : Option String :=
  match segment.toList with
  | [] => none
  | c :: cs => some (String.ofList ('g' :: 'e' :: 't' :: (upperChar c ++ cs)))

/-- What a record shows to lookups. -/
def Facets.ofRecord (r : Record Value) : Facets where
  field? name := (r.fields.getD []).lookup name
  slot? name := r.slots.lookup name
  declares := BindPath.declares r
  read name := (BindPath.read r name).mapError .failure

/-- What an object without slots shows to lookups: its state, before what its kind gives it. -/
def Facets.ofMembers (state kind : List (String × Value)) : Facets where
  field? name := state.lookup name
  slot? _ := .none
  declares name := (state.lookup name).isSome || (kind.lookup name).isSome
  read name :=
    match (state ++ kind).lookup name with
    | some v => .ok v
    | .none => .error (.failure .noMember)

/-- What an object without members shows to lookups. -/
def Facets.none : Facets where
  field? _ := .none
  slot? _ := .none
  declares _ := false
  read _ := .error (.failure .noMember)

/-! ## Fragments -/

/-- The name under which a method is read. -/
def methodName : Method → String
  | .bind => "bind"
  | .multipleBind => "multiple_bind"
  | .gate => "if_"
  | .repeated => "for_"
  | .each => "each"
  | .extend => "extends"
  | .component => "component"
  | .redirect => "set_view_compiler"
  | .render => "render"
  | .getView => "get_view"

/-- The methods of a fragment under their names. -/
def methodsOf (handle : Handle) : List (String × Value) :=
  let methods : List Method :=
    match handle with
    | .component _ =>
      [.bind, .multipleBind, .gate, .repeated, .each, .component, .redirect, .render, .getView]
    | .view _ => [.bind, .multipleBind, .extend, .component, .render, .getView]
  methods.map fun method => (methodName method, .method handle method)

/-- Surroundings in which only records have members. -/
def Surroundings.none : Surroundings where
  facets
    | .record _ r => .ofRecord r
    | _ => .none
  call
    | .action outcome => (run outcome).mapError fun failure => .trouble (.failure failure)
    | _ => .error .badType
  name _ := ""

/-! ## Lookups -/

/-- What the lookup of a segment comes to: a value, or one that is to be called for it. -/
inductive Found where
  | missing
  | value (v : Value)
  | calling (callee : Value)

/-- Whether a trouble only says that a member is not there. -/
def isMissing : Trouble → Bool
  | .failure .noMember => true
  | .failure .noKey => true
  | .failure .noIndex => true
  | .failure .noLookup => true
  | _ => false

/-- A member as the last source of a lookup. -/
def readLast (facets : Facets) (segment : String) : Except Trouble Found :=
  match facets.read segment with
  | .ok v => .ok (.value v)
  | .error trouble => if isMissing trouble then .ok .missing else .error trouble

/-- The accessor of a segment, if one is declared and can be called. -/
def accessor? (facets : Facets) (segment : String) : Except Trouble (Option Value) :=
  match accessorName? segment with
  | none => .ok none
  | some name =>
    if facets.declares name then do
      let v ← facets.read name
      return if v.isCallable then some v else none
    else .ok none

/-- A segment in an object: an own field, a set slot, the accessor, any member. -/
def member (facets : Facets) (segment : String) : Except Trouble Found :=
  match facets.field? segment with
  | some v => .ok (.value v)
  | none =>
    match facets.slot? segment with
    | some v => .ok (.value v)
    | none => do
      match ← accessor? facets segment with
      | some callee => return .calling callee
      | none => readLast facets segment

/-- What a keyed lookup comes to. -/
def Found.ofKeyed (result : Except Failure (Option Value)) : Except Trouble Found :=
  match result with
  | .ok (some v) => .ok (.value v)
  | .ok none => .ok .missing
  | .error failure => .error (.failure failure)

/-- A segment in a value that has a shape. -/
def lookup (surroundings : Surroundings) (v : Value) (segment : String) : Except Trouble Found :=
  match v with
  | .map entries => Found.ofKeyed ((indexOf segment).map (entryAt? entries segment))
  | .list items => Found.ofKeyed ((indexOf segment).map (item? items))
  | .tuple items => Found.ofKeyed ((indexOf segment).map (item? items))
  | .row _ _ refusal items => Found.ofKeyed (indexOf segment >>= rowItem refusal items)
  | v => member (surroundings.facets v) segment

/-- An object is asked for its facets. -/
theorem lookup_structured {surroundings : Surroundings} {v : Value}
    (hv : shape? v = some .structured) (segment : String) :
    lookup surroundings v segment = member (surroundings.facets v) segment := by
  cases v with
  | null | bool | int | real | text | safe | bytes | list | tuple | row | map => cases hv
  | _ => rfl

/-! ## Resolving -/

/-- The value that a lookup comes to, if there is one. -/
def Found.value? (surroundings : Surroundings) : Found → Except Fault (Option Value)
  | missing => .ok none
  | value v => .ok (some v)
  | calling callee => (surroundings.call callee).map some

/-- The value of a segment in a value that has a shape; nothing if it is not there. -/
def valueAt (surroundings : Surroundings) (v : Value) (segment : String) :
    Except Fault (Option Value) := do
  let found ← (lookup surroundings v segment).mapError .trouble
  found.value? surroundings

/-- The value at the end of a chain of segments. -/
def follow (surroundings : Surroundings) (template : String) (v : Value) :
    List String → Except Fault Value
  | [] => .ok v
  | segment :: segments =>
    match shape? v with
    | none => .ok v
    | some shape =>
      match valueAt surroundings v segment with
      | .error fault => .error fault
      | .ok none => .error (.noVariable shape segment template)
      | .ok (some found) => follow surroundings template found segments

/-- The segments of a path. -/
def segments (path : String) : List String :=
  (path.toList.splitOn '.').map String.ofList

/-- The value at the end of a dotted path; `template` is named by the fault of a missing
    variable. -/
def resolve (surroundings : Surroundings) (root : Value) (path template : String) :
    Except Fault Value :=
  follow surroundings template root (segments path)

end Stencil.BindPath
