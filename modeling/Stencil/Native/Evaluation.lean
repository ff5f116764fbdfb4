import Stencil.Engine.Parameter
import Stencil.Native.Member

/-! # Evaluation — native templates run against variables

    An expression is evaluated from the left; the second operand of a
    conjunction or disjunction, and the branches of a conditional, only when they
    are needed.  An assignment holds to the end of the loop pass it stands in.  A
    loop goes through its items with a record of its progress, through a stream
    without a test item by item; without items its other part is run. -/

namespace Stencil.Native

open Stencil.Engine

/-- The value of a variable. -/
def lookUp (strict : Bool) (vars : Variables) (name : String) : Value :=
  (vars.lookup name).getD (noVariable strict name)

/-- Whether a comparison holds. -/
def holds (comparison : Comparison) (a b : Value) : Dialogue Bool := do
  match comparison with
  | .same => Dialogue.ofTrouble (a.equal b)
  | .different => return !(← Dialogue.ofTrouble (a.equal b))
  | .ordered op => Dialogue.ofTrouble (Value.compare op a b)
  | .inside => isInside a b
  | .outside => return !(← isInside a b)

/-- Refuses entries of which a key cannot be one. -/
def checkKeys : List (Value × Value) → Dialogue Unit
  | [] => pure ()
  | (.absent absence, _) :: entries =>
    if absence.strict then refuse absence else checkKeys entries
  | (key, _) :: entries => if key.isKey then checkKeys entries else fail .badType

/-- The map of a list of entries, whose keys must be able to be keys. -/
def mapFrom (entries : List (Value × Value)) : Dialogue Value := do
  checkKeys entries
  return Value.mapOf entries

/-- A value filtered. -/
def applyFilter (v : Value) (name : String) (plain : List Value)
    (named : List (String × Value)) : Dialogue Value := do
  match filter? name with
  | none => .stop .lateUnknown
  | some .default =>
    match fill? [⟨"default_value", false⟩, ⟨"boolean", false⟩] plain named with
    | some [replacement, boolean] =>
      let replacement := replacement.getD (.text "")
      match v with
      | .absent _ => return replacement
      | v =>
        if ← Dialogue.ofTrouble (boolean.getD (.bool false)).truth then
          return if v.isTrue then v else replacement
        else return v
    | _ => fail .badType
  | some .length =>
    if plain.isEmpty && named.isEmpty then return .int (← Dialogue.ofTrouble v.size)
    else fail .badType
  | some .upper =>
    if plain.isEmpty && named.isEmpty then
      match v with
      | .safe s => return .safe (String.ofList (Text.upper s.toList))
      | v => return .text (String.ofList (Text.upper (← textOf v).toList))
    else fail .badType

/-- Whether a value passes a test. -/
def applyTest (v : Value) (name : String) (arguments : List Value) : Dialogue Value := do
  if (test? name).isSome && !arguments.isEmpty then fail .badType
  else
    match test? name, v with
    | none, _ => .stop .lateUnknown
    | some .defined, .absent _ => return .bool false
    | some .defined, _ => return .bool true
    | some .undefined, .absent _ => return .bool true
    | some .undefined, _ => return .bool false
    | some .none, .null => return .bool true
    | some .none, _ => return .bool false

/-- The message of a conditional without an else branch whose condition is false. -/
def unguarded (line : Nat) : String :=
  s!"the inline if-expression on line {line} evaluated to false and no else section was defined."

mutual

/-- The value of an expression. -/
def evaluate (strict : Bool) (vars : Variables) : Expr → Dialogue Value
  | .const v => pure v
  | .name name => pure (lookUp strict vars name)
  | .list items => do return .list (← evaluateAll strict vars items)
  | .tuple items => do return .tuple (← evaluateAll strict vars items)
  | .map entries => do mapFrom (← evaluatePairs strict vars entries)
  | .member subject name => do memberOf strict (← evaluate strict vars subject) name
  | .item subject index => do
    let v ← evaluate strict vars subject
    itemOf strict v (← evaluate strict vars index)
  | .call callee arguments named => do
    let v ← evaluate strict vars callee
    let plain ← evaluateAll strict vars arguments
    callValue v plain (← evaluateNamed strict vars named)
  | .invoke subject name arguments => do
    let v ← evaluate strict vars subject
    match function? v name with
    | some f => f (← evaluateAll strict vars arguments)
    | none =>
      let callee ← memberOf strict v name
      callValue callee (← evaluateAll strict vars arguments) []
  | .update subject entries => do
    match ← evaluate strict vars subject with
    | .fragment handle => update handle (← evaluate strict vars entries)
    | v =>
      let callee ← memberOf strict (← memberOf strict v "variables") "update"
      callValue callee [← evaluate strict vars entries] []
  | .filter subject name arguments named => do
    let v ← evaluate strict vars subject
    let plain ← evaluateAll strict vars arguments
    applyFilter v name plain (← evaluateNamed strict vars named)
  | .test subject name arguments => do
    let v ← evaluate strict vars subject
    applyTest v name (← evaluateAll strict vars arguments)
  | .signed turned operand => do
    Dialogue.ofTrouble ((← evaluate strict vars operand).signed turned)
  | .negation operand => do
    return .bool (!(← Dialogue.ofTrouble (← evaluate strict vars operand).truth))
  | .binary op left right => do
    let a ← evaluate strict vars left
    Dialogue.ofTrouble (Value.operate op a (← evaluate strict vars right))
  | .chain first links => do evaluateLinks strict vars (← evaluate strict vars first) links
  | .concat parts => do
    let values ← evaluateAll strict vars parts
    return .text (String.join (← values.mapM textOf))
  | .both left right => do
    let a ← evaluate strict vars left
    if ← Dialogue.ofTrouble a.truth then evaluate strict vars right else return a
  | .either left right => do
    let a ← evaluate strict vars left
    if ← Dialogue.ofTrouble a.truth then return a else evaluate strict vars right
  | .choice condition yes no => do
    let c ← evaluate strict vars condition
    if ← Dialogue.ofTrouble c.truth then evaluate strict vars yes else evaluate strict vars no
  | .guarded condition yes line => do
    let c ← evaluate strict vars condition
    if ← Dialogue.ofTrouble c.truth then evaluate strict vars yes
    else return .absent ⟨unguarded line, strict⟩

/-- The values of expressions. -/
def evaluateAll (strict : Bool) (vars : Variables) : List Expr → Dialogue (List Value)
  | [] => pure []
  | e :: es => do
    let v ← evaluate strict vars e
    return v :: (← evaluateAll strict vars es)

/-- The values of the entries of a map. -/
def evaluatePairs (strict : Bool) (vars : Variables) :
    List (Expr × Expr) → Dialogue (List (Value × Value))
  | [] => pure []
  | (key, value) :: entries => do
    let k ← evaluate strict vars key
    let v ← evaluate strict vars value
    return (k, v) :: (← evaluatePairs strict vars entries)

/-- The values of named arguments. -/
def evaluateNamed (strict : Bool) (vars : Variables) :
    List (String × Expr) → Dialogue (List (String × Value))
  | [] => pure []
  | (name, e) :: named => do
    let v ← evaluate strict vars e
    return (name, v) :: (← evaluateNamed strict vars named)

/-- Whether the links of a chain hold one after the other, up to the first that does not. -/
def evaluateLinks (strict : Bool) (vars : Variables) (left : Value) :
    List (Comparison × Expr) → Dialogue Value
  | [] => pure (.bool true)
  | (comparison, e) :: links => do
    let right ← evaluate strict vars e
    if ← holds comparison left right then evaluateLinks strict vars right links
    else return .bool false

end

mutual

/-- The variables with a target bound to a value. -/
def assign (vars : Variables) (target : Target) (v : Value) : Dialogue Variables :=
  match target with
  | .one name => pure ((name, v) :: vars)
  | .several targets => do
    let values ← valuesOf v
    assignAll vars targets values

/-- The variables with targets bound to as many values. -/
def assignAll (vars : Variables) (targets : List Target) (values : List Value) :
    Dialogue Variables :=
  match targets, values with
  | [], [] => pure vars
  | target :: targets, v :: values => do assignAll (← assign vars target v) targets values
  | _, _ => fail .badValue

end

/-- The record of a loop's progress: how many items were before this one, and how many come
    after it. -/
def progress (before after : Nat) : Value :=
  .record 0 {
    label := "loop"
    fields := some [
      ("index", .int (before + 1)), ("index0", .int before), ("first", .bool (before == 0)),
      ("last", .bool (after == 0)), ("length", .int (before + 1 + after)),
      ("revindex", .int (after + 1)), ("revindex0", .int after)]
    slots := []
    emptySlots := []
    statics := []
    getters := []
    properties := []
    dynamic := none }

/-- The items of a loop for which its test holds. -/
def tested (strict : Bool) (vars : Variables) (target : Target) (test : Option Expr)
    (items : List Value) : Dialogue (List Value) :=
  match test with
  | none => pure items
  | some e => items.filterM fun item => do
    let inner ← assign vars target item
    Dialogue.ofTrouble (← evaluate strict inner e).truth

/-- One pass of a loop for an item, with the number of items before it and behind it. -/
def runPass (body : Variables → Dialogue (String × Variables)) (vars : Variables)
    (target : Target) (before after : Nat) (item : Value) : Dialogue String := do
  let inner ← assign (("loop", progress before after) :: vars) target item
  return (← body inner).1

/-- Runs a loop's body for items one after the other; `before` counts those already done. -/
def runPasses (body : Variables → Dialogue (String × Variables)) (vars : Variables)
    (target : Target) : Nat → List Value → Dialogue String
  | _, [] => pure ""
  | before, item :: items => do
    let out ← runPass body vars target before items.length item
    return out ++ (← runPasses body vars target (before + 1) items)

/-- Runs a loop's body for what a stream gives, of which the first argument bounds the number. -/
def runStream (body : Variables → Dialogue (String × Variables)) (vars : Variables)
    (target : Target) (stream : Nat) : Nat → Nat → Dialogue String
  | 0, _ => pure ""
  | left + 1, before => do
    match ← Dialogue.request (.next stream) with
    | none => return ""
    | some (item, after) =>
      let out ← runPass body vars target before after item
      return out ++ (← runStream body vars target stream left (before + 1))

/-- Runs a loop over a value; nothing if there are no items. -/
def runLoop (strict : Bool) (body : Variables → Dialogue (String × Variables)) (vars : Variables)
    (target : Target) (test : Option Expr) (v : Value) : Dialogue (Option String) := do
  match v, test with
  | .stream id, none =>
    match ← Dialogue.request (.next id) with
    | none => return none
    | some (item, after) =>
      let out ← runPass body vars target 0 after item
      return some (out ++ (← runStream body vars target id after 1))
  | v, test =>
    let found ← tested strict vars target test (← valuesOf v)
    if found.isEmpty then return none else return some (← runPasses body vars target 0 found)

mutual

/-- Runs a part of a template: its output, and the variables after it. -/
def runNode (strict : Bool) (vars : Variables) : Node → Dialogue (String × Variables)
  | .text run => pure (run, vars)
  | .output e => do
    let v ← evaluate strict vars e
    return (← textOf v, vars)
  | .branch condition body otherwise => do
    let c ← evaluate strict vars condition
    if ← Dialogue.ofTrouble c.truth then runNodes strict body vars
    else runNodes strict otherwise vars
  | .loop target items test body otherwise => do
    let v ← evaluate strict vars items
    match ← runLoop strict (runNodes strict body) vars target test v with
    | some out => return (out, vars)
    | none => return ((← runNodes strict otherwise vars).1, vars)
  | .assign target e => do
    let v ← evaluate strict vars e
    return ("", ← assign vars target v)

/-- Runs the parts of a template one after the other. -/
def runNodes (strict : Bool) : List Node → Variables → Dialogue (String × Variables)
  | [], vars => pure ("", vars)
  | node :: nodes, vars => do
    let (out, vars) ← runNode strict vars node
    let (more, vars) ← runNodes strict nodes vars
    return (out ++ more, vars)

end

end Stencil.Native
