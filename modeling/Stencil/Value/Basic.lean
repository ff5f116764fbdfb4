import Stencil.Number.Binary64

/-! # Values — the data that templates are filled with

    Values are scalars (nothing, truth values, numbers, texts and bytes), keyed
    collections (lists, tuples, other rows and maps), and structured ones: sets,
    one-shot streams, actions, records, and the fragments and parts of the engine
    itself.  A safe text is markup already; other texts are escaped when they are
    bound.

    Streams, records and fragments have an identity; what a stream still holds
    and what a fragment is bound to is state of the engine, not of the value. -/

namespace Stencil

/-- How reading a member of a record, or an operation on values, can fail. -/
inductive Failure where
  | noKey
  | noIndex
  | noMember
  | noLookup
  | badValue
  | badType
  | broken
  | zeroDivision
  | overflow
deriving DecidableEq, Repr

/-- What running an action or a getter comes to. -/
inductive Outcome (α : Type) where
  | gives (value : α)
  | fails (failure : Failure)

/-- A structured object.  `fields` are its own members, if it can have any; `slots` are declared
    members that are set and `emptySlots` those that are not; `statics`, `getters` and
    `properties` belong to its kind; `dynamic` serves further names, and refuses the others. -/
structure Record (α : Type) where
  label : String
  fields : Option (List (String × α))
  slots : List (String × α)
  emptySlots : List String
  statics : List (String × α)
  getters : List (String × Outcome α)
  properties : List (String × Outcome α)
  dynamic : Option (List (String × α) × Failure)

/-- A fragment of the engine: a component or a view, by its number. -/
inductive Handle where
  | component (index : Nat)
  | view (index : Nat)
deriving DecidableEq, Repr

/-- What a template can ask of a fragment. -/
inductive Method where
  | bind
  | multipleBind
  | gate
  | repeated
  | each
  | extend
  | component
  | redirect
  | render
  | getView
deriving DecidableEq, Repr

/-- A part of the engine that fragments lead to: what a fragment is compiled by, or a site by its
    number. -/
inductive Part where
  | compiler (handle : Handle)
  | site (index : Nat)
deriving DecidableEq, Repr

/-- What stands for a name or member that is not there: the message of the error that using it
    raises, and whether any use raises it. -/
structure Absence where
  message : String
  strict : Bool
deriving DecidableEq, Repr

/-- A value.  A row is a sequence of another kind, which may refuse to tell its length. -/
inductive Value where
  | null
  | bool (b : Bool)
  | int (i : Int)
  | real (x : Binary64)
  | text (s : String)
  | safe (s : String)
  | bytes (b : List UInt8)
  | list (items : List Value)
  | tuple (items : List Value)
  | row (typeName text : String) (refusal : Option Failure) (items : List Value)
  | map (entries : List (Value × Value))
  | set (items : List Value)
  | stream (id : Nat)
  | action (outcome : Outcome Value)
  | record (id : Nat) (record : Record Value)
  | fragment (handle : Handle)
  | method (handle : Handle) (method : Method)
  | part (part : Part)
  | absent (absence : Absence)
  | foreign (typeName text : String)

instance : Inhabited Value := ⟨.null⟩

namespace Value

/-- The text of a textual value, safe or not. -/
def text? : Value → Option String
  | .text s => some s
  | .safe s => some s
  | _ => none

/-- Whether a value is an integer, a truth value counting as one, and which. -/
def int? : Value → Option Int
  | .int i => some i
  | .bool b => some (if b then 1 else 0)
  | _ => none

/-- The rank of a number among all numbers. -/
def rank? : Value → Option Binary64.Rank
  | .real x => x.rank?
  | v => v.int?.map Binary64.rankOfInt

/-- Whether a value is a number. -/
def isNumber (v : Value) : Bool :=
  match v with
  | .real _ => true
  | v => v.int?.isSome

/-- Whether a value counts as true. -/
def isTrue : Value → Bool
  | .null => false
  | .bool b => b
  | .int i => i != 0
  | .real x => !x.isZero
  | .text s => !s.isEmpty
  | .safe s => !s.isEmpty
  | .bytes b => !b.isEmpty
  | .list items => !items.isEmpty
  | .tuple items => !items.isEmpty
  | .row _ _ refusal items => refusal.isSome || !items.isEmpty
  | .map entries => !entries.isEmpty
  | .set items => !items.isEmpty
  | .absent _ => false
  | _ => true

/-- Whether a value can be called. -/
def isCallable : Value → Bool
  | .action _ => true
  | .method _ _ => true
  | _ => false

/-! ## Equality -/

mutual

/-- Whether two values are equal: numbers by their size, texts by their characters, collections
    item by item, and what has an identity by that. -/
def same : Value → Value → Bool
  | .null, .null => true
  | .text s, v => v.text? == some s
  | .safe s, v => v.text? == some s
  | .bytes a, .bytes b => a == b
  | .list a, .list b => sameItems a b
  | .tuple a, .tuple b => sameItems a b
  | .row t _ _ a, .row u _ _ b => t == u && sameItems a b
  | .map a, .map b => a.length == b.length && sameEntries a b
  | .set a, .set b => a.length == b.length && sameMembers a b
  | .stream a, .stream b => a == b
  | .record a _, .record b _ => a == b
  | .fragment a, .fragment b => a == b
  | .method a m, .method b n => a == b && m == n
  | .part a, .part b => a == b
  | .absent _, .absent _ => true
  | .foreign t s, .foreign u r => t == u && s == r
  | .bool a, v => (Value.bool a).rank? == v.rank?
  | .int a, v => (Value.int a).rank? == v.rank?
  | .real x, v => (Value.real x).rank?.isSome && (Value.real x).rank? == v.rank?
  | _, _ => false

/-- Whether two sequences are equal item by item. -/
def sameItems : List Value → List Value → Bool
  | [], [] => true
  | a :: as, b :: bs => same a b && sameItems as bs
  | _, _ => false

/-- Whether every entry of one map is an entry of another. -/
def sameEntries : List (Value × Value) → List (Value × Value) → Bool
  | [], _ => true
  | (key, value) :: entries, others =>
    others.any (fun other => same key other.1 && same value other.2) && sameEntries entries others

/-- Whether every member of one set is a member of another. -/
def sameMembers : List Value → List Value → Bool
  | [], _ => true
  | a :: as, others => others.any (same a) && sameMembers as others

end

/-! ## Maps -/

/-- The value of a key. -/
def entry? (entries : List (Value × Value)) (key : Value) : Option Value :=
  (entries.find? fun e => same key e.1).map (·.2)

/-- The entries with a key set: in its place if it is there, else at the end. -/
def setEntry (key value : Value) : List (Value × Value) → List (Value × Value)
  | [] => [(key, value)]
  | (k, v) :: entries =>
    if same key k then (k, value) :: entries else (k, v) :: setEntry key value entries

/-- The entries without a key. -/
def dropEntry (key : Value) (entries : List (Value × Value)) : List (Value × Value) :=
  entries.filter fun e => !same key e.1

/-- The entries of one map and then those of another, set one after the other. -/
def setEntries (entries others : List (Value × Value)) : List (Value × Value) :=
  others.foldl (fun entries e => setEntry e.1 e.2 entries) entries

/-- The map of a list of entries, of which some may have one key. -/
def mapOf (entries : List (Value × Value)) : Value :=
  .map (setEntries [] entries)

/-- The members of a set given by a list, of which some may be equal. -/
def setOf (items : List Value) : Value :=
  .set (items.foldl (fun seen v => if seen.any (same v) then seen else seen ++ [v]) [])

mutual

/-- Whether a value can be a key. -/
def isKey : Value → Bool
  | .list _ => false
  | .map _ => false
  | .set _ => false
  | .tuple items => areKeys items
  | _ => true

/-- Whether values can all be keys. -/
def areKeys : List Value → Bool
  | [] => true
  | v :: vs => isKey v && areKeys vs

end

end Value

end Stencil
