import Stencil.Number.Numeral
import Stencil.Yaml.Loader
import Stencil.Yaml.Reader

/-! # The meaning of YAML — the value of a document

    A plain scalar is a truth value, a number, nothing, a date or else a text; a
    tag decides otherwise.  A mapping holds each key once; one whose key is the
    merge mark takes over the entries of other mappings, before its own.  Sets,
    ordered mappings, binary scalars and mappings that hold themselves are left
    out; what is proved of projects is proved for any loader. -/

namespace Stencil.Yaml

open Stencil.Text

/-- The refusal of a scalar that is tagged as what it is not. -/
def badScalar : Refusal := .raised (.failure .badValue)

/-! ## Plain scalars -/

/-- Whether all characters are digits or underscores, and there are some. -/
def areDigits (isDigit : Char → Bool) (cs : List Char) : Bool :=
  !cs.isEmpty && cs.all fun c => isDigit c || c == '_'

/-- The sign of a number, and the rest. -/
def signAndRest (cs : List Char) : Bool × List Char :=
  Numeral.signAndRest cs

/-- Whether a scalar looks like an integer. -/
def looksInt (text : List Char) : Bool :=
  let (_, body) := signAndRest text
  let behind (start : String) (base : Nat) : Bool :=
    match rest? start.toList body with
    | some digits => areDigits (Digits.isDigitTo base) digits
    | none => false
  (text.head? != some '_') &&
    (areDigits Char.isDigit body || behind "0b" 2 || behind "0o" 8 || behind "0x" 16)

/-- The number that digits to a base write, if there are any and all are digits. -/
def based? (base : Nat) (digits : List Char) : Option Nat :=
  if digits.isEmpty then none else Digits.number? base digits

/-- The integer of a scalar. -/
def intOf? (text : List Char) : Option Int := do
  let (negative, body) := signAndRest (text.filter (· != '_'))
  let size ←
    match rest? "0b".toList body, rest? "0o".toList body, rest? "0x".toList body with
    | some digits, _, _ => based? 2 digits
    | _, some digits, _ => based? 8 digits
    | _, _, some digits => based? 16 digits
    | _, _, _ => if Digits.most < body.length then none else based? 10 body
  return if negative then -(size : Int) else size

/-- Whether a text is an exponent; its sign may be required. -/
def isExponent (needsSign : Bool) : List Char → Bool
  | e :: cs =>
    let digits :=
      match cs with
      | c :: ds => if c == '+' || c == '-' then some ds else if needsSign then none else some cs
      | [] => none
    (e == 'e' || e == 'E') && digits.any fun ds => !ds.isEmpty && ds.all Char.isDigit
  | [] => false

/-- Whether a text is an exponent or empty. -/
def mayBeExponent (needsSign : Bool) (cs : List Char) : Bool :=
  cs.isEmpty || isExponent needsSign cs

/-- The names of the infinity. -/
def infinityNames : List String := [".inf", ".Inf", ".INF"]

/-- The names of what is not a number. -/
def nanNames : List String := [".nan", ".NaN", ".NAN"]

/-- Whether a scalar looks like a floating-point number. -/
def looksReal (text : List Char) : Bool :=
  let (_, body) := signAndRest text
  let isDigit (c : Char) : Bool := c.isDigit || c == '_'
  if nanNames.contains (String.ofList text) || infinityNames.contains (String.ofList body) then true
  else
    match body with
    | '.' :: cs =>
      !(cs.takeWhile isDigit).isEmpty && mayBeExponent true (cs.dropWhile isDigit)
    | c :: _ =>
      if c.isDigit then
        match body.dropWhile isDigit with
        | '.' :: cs => mayBeExponent false (cs.dropWhile isDigit)
        | rest => isExponent false rest
      else false
    | [] => false

/-- The floating-point number of a scalar. -/
def realOf? (text : List Char) : Option Binary64 :=
  let (negative, body) := signAndRest (text.filter (· != '_'))
  let word := String.ofList (body.map Char.toLower)
  if word == ".inf" then some (.infinite negative)
  else if word == ".nan" then some .nan
  else
    (Numeral.readReal? body).map fun x => if negative then x.neg else x

/-! ## Dates -/

/-- Digits at the start of a text, at least `least` and at most `most`, and the rest. -/
def digitsAndRest? (least most : Nat) (cs : List Char) : Option (Nat × List Char) :=
  let digits := (cs.take most).takeWhile Char.isDigit
  if digits.length < least then none else some (Digits.decimal digits, cs.drop digits.length)

/-- A date at the start of a text, with its numbers of digits, and the rest. -/
def dateAndRest? (cs : List Char) : Option ((Nat × Nat × Nat) × List Char) := do
  let (year, cs) ← digitsAndRest? 4 4 cs
  let cs ← rest? ['-'] cs
  let (month, cs) ← digitsAndRest? 1 2 cs
  let cs ← rest? ['-'] cs
  let (day, cs) ← digitsAndRest? 1 2 cs
  return ((year, month, day), cs)

/-- Whether a text is a time zone or empty. -/
def isZone (cs : List Char) : Bool :=
  match cs.dropWhile isGap with
  | [] => cs.isEmpty
  | ['Z'] => true
  | c :: rest =>
    (c == '+' || c == '-') &&
      match digitsAndRest? 1 2 rest with
      | some (_, []) => true
      | some (_, ':' :: minutes) => minutes.length == 2 && minutes.all Char.isDigit
      | _ => false

/-- The time of day behind a date, and whether it is well formed. -/
def timeOf? (cs : List Char) : Option (Nat × Nat × Nat) := do
  let inner ←
    match cs with
    | c :: rest =>
      if c == 'T' || c == 't' then some rest
      else if isGap c then some (cs.dropWhile isGap)
      else none
    | [] => none
  let (hour, cs) ← digitsAndRest? 1 2 inner
  let cs ← rest? [':'] cs
  let (minute, cs) ← digitsAndRest? 2 2 cs
  let cs ← rest? [':'] cs
  let (second, cs) ← digitsAndRest? 2 2 cs
  let rest :=
    match cs with
    | '.' :: places => places.dropWhile Char.isDigit
    | _ => cs
  if isZone rest then some (hour, minute, second) else none

/-- The number of days of a month. -/
def daysOf (year month : Nat) : Nat :=
  let isLeap := year % 4 == 0 && (year % 100 != 0 || year % 400 == 0)
  if month == 2 then if isLeap then 29 else 28
  else if [4, 6, 9, 11].contains month then 30
  else 31

/-- Whether a date is one of the calendar. -/
def isDate (year month day : Nat) : Bool :=
  1 ≤ year && 1 ≤ month && month ≤ 12 && 1 ≤ day && day ≤ daysOf year month

/-- A number with at least two digits. -/
def twoDigits (n : Nat) : String :=
  if n < 10 then "0" ++ toString n else toString n

/-- The value of a scalar that looks like a date, with or without a time of day; nothing if it
    does not look like one. -/
def dateOf? (text : List Char) : Option (Except Refusal Value) := do
  let ((year, month, day), rest) ← dateAndRest? text
  let padded := String.ofList (text.take 5) ++ twoDigits month ++ "-" ++ twoDigits day
  if rest.isEmpty then
    if text.length == 10 then
      return if isDate year month day then .ok (.foreign "date" padded) else .error badScalar
    else none
  else
    let (hour, minute, second) ← timeOf? rest
    let time := twoDigits hour ++ ":" ++ twoDigits minute ++ ":" ++ twoDigits second
    return if isDate year month day && hour < 24 && minute < 60 && second < 60 then
      .ok (.foreign "datetime" (padded ++ " " ++ time))
    else .error badScalar

/-! ## Scalars -/

/-- The truth values as they are written. -/
def truthNames : List (String × Bool) :=
  [("true", true), ("True", true), ("TRUE", true), ("false", false), ("False", false),
    ("FALSE", false)]

/-- The further words for truth values behind a tag. -/
def taggedTruthNames : List (String × Bool) :=
  [("yes", true), ("no", false), ("y", true), ("n", false), ("true", true), ("false", false),
    ("on", true), ("off", false)]

/-- The names of nothing. -/
def nullNames : List String := ["", "~", "null", "Null", "NULL"]

/-- The mark of a key that merges other mappings. -/
def mergeMark : String := "<<"

/-- The mark of a default value, which stands for itself as a key and for nothing elsewhere. -/
def valueMark : String := "="

/-- A value that must be there. -/
def orBad {α : Type} (value : Option α) : Except Refusal α :=
  value.elim (.error badScalar) .ok

/-- The value of a plain scalar. -/
def plainValue (text : String) : Except Refusal Value :=
  let cs := text.toList
  match truthNames.lookup text with
  | some b => .ok (.bool b)
  | none =>
    if nullNames.contains text then .ok .null
    else if looksReal cs then (orBad (realOf? cs)).map .real
    else if looksInt cs then (orBad (intOf? cs)).map .int
    else if text == valueMark || text == mergeMark then .error .malformed
    else (dateOf? cs).getD (.ok (.text text))

/-- The value of a scalar with a tag. -/
def taggedValue (tag text : String) : Except Refusal Value :=
  let cs := text.toList
  match tag with
  | "!" => .ok (.text text)
  | "!!str" => .ok (.text text)
  | "!!null" => .ok .null
  | "!!int" => (orBad (intOf? cs)).map .int
  | "!!float" => (orBad (realOf? cs)).map .real
  | "!!bool" =>
    match taggedTruthNames.lookup (String.ofList (cs.map Char.toLower)) with
    | some b => .ok (.bool b)
    | none => .error .malformed
  | _ => .error .malformed

/-! ## Nodes -/

/-- Whether a node is the mark of a key that merges other mappings. -/
def Node.isMerge : Node → Bool
  | .scalar none true text => text == mergeMark
  | .scalar (some tag) _ _ => tag == "!!merge"
  | _ => false

/-- A value as a key: a list becomes a tuple; collections that cannot be keys are refused. -/
def keyOf (v : Value) : Except Refusal Value :=
  let key :=
    match v with
    | .list items => .tuple items
    | v => v
  if key.isKey then .ok key else .error .malformed

/-- The entries that a merged value gives: those of a mapping, or those of several, of which an
    earlier one counts more. -/
def mergedEntries (v : Value) : Except Refusal (List (Value × Value)) :=
  match v with
  | .map entries => .ok entries
  | .list items =>
    items.foldrM (fun item found =>
      match item with
      | .map entries => .ok (found ++ entries)
      | _ => .error .malformed) []
  | _ => .error .malformed

/-- Entries none of whose keys comes twice. -/
def distinct : List (Value × Value) → List (Value × Value) → Except Refusal (List (Value × Value))
  | found, [] => .ok found
  | found, (key, v) :: entries =>
    if (Value.entry? found key).isSome then .error .malformed
    else distinct (found ++ [(key, v)]) entries

/-- The map of a mapping's own entries and those it merges. -/
def mapOf (merged : List (List (Value × Value))) (own : List (Value × Value)) :
    Except Refusal Value :=
  match merged with
  | [] => (distinct [] own).map .map
  | [entries] => .ok (.map (Value.setEntries (Value.setEntries [] entries) own))
  | _ => .error .malformed

mutual

/-- The value of a node. -/
def valueOf : Node → Except Refusal Value
  | .scalar none true text => plainValue text
  | .scalar none false text => .ok (.text text)
  | .scalar (some tag) _ text => taggedValue tag text
  | .sequence tag items => do
    if tag == none || tag == some "!!seq" then return .list (← valuesOf items)
    else .error .malformed
  | .mapping tag entries => do
    if tag == none || tag == some "!!map" then
      let (merged, own) ← entriesOf entries
      mapOf merged own
    else .error .malformed

/-- The values of nodes. -/
def valuesOf : List Node → Except Refusal (List Value)
  | [] => .ok []
  | node :: nodes => do
    let v ← valueOf node
    return v :: (← valuesOf nodes)

/-- What a mapping merges, and its own entries. -/
def entriesOf :
    List (Node × Node) → Except Refusal (List (List (Value × Value)) × List (Value × Value))
  | [] => .ok ([], [])
  | (key, node) :: entries => do
    if key.isMerge then
      let found ← mergedEntries (← valueOf node)
      let (merged, own) ← entriesOf entries
      return (found :: merged, own)
    else
      let k ←
        match key with
        | .scalar none true text =>
          if text == valueMark then .ok (.text text) else do keyOf (← plainValue text)
        | key => do keyOf (← valueOf key)
      let v ← valueOf node
      let (merged, own) ← entriesOf entries
      return (merged, (k, v) :: own)

end

/-- The value of the only document of a text. -/
def read (text : List Char) : Except Refusal Value :=
  match document? text with
  | some node => valueOf node
  | none => .error .malformed

/-- The usual loader. -/
@[reducible] def usual : YamlLoader where
  load := read

end Stencil.Yaml
