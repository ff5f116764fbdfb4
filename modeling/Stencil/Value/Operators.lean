import Stencil.Fault
import Stencil.Number.Numeral
import Stencil.Text.Entity

/-! # Operators — arithmetic and order on values

    Numbers of both kinds mix: integers stay exact until one operand is a
    floating-point number.  Texts, lists and tuples are joined and repeated; a
    text joined to a safe one is escaped first.  Using what stands for an absent
    name is that absence's trouble, the left operand's first. -/

namespace Stencil.Value

open Stencil.Text

/-- A trouble with the type of an operand. -/
def typeTrouble : Trouble := .failure .badType

/-- A binary operator on numbers, joined or repeated collections. -/
inductive Operator where
  | add
  | sub
  | mul
  | div
  | floorDiv
  | mod
  | pow
deriving DecidableEq, Repr

/-- An ordering comparison. -/
inductive Ordered where
  | less
  | lessOrSame
  | greater
  | greaterOrSame
deriving DecidableEq, Repr

/-! ## Numbers -/

/-- The floating-point number of an integer, which may be too large for one. -/
def realOfInt (i : Int) : Except Trouble Binary64 :=
  match Binary64.ofInt i with
  | .infinite _ => .error (.failure .overflow)
  | x => .ok x

/-- The quotient of two integers, rounded once. -/
def divideInts (a b : Int) : Except Trouble Value :=
  if b == 0 then .error (.failure .zeroDivision)
  else
    match Binary64.roundRatio ((a < 0) != (b < 0)) a.natAbs b.natAbs with
    | .infinite _ => .error (.failure .overflow)
    | x => .ok (.real x)

/-- The power of a floating-point number to a whole exponent. -/
def powReal (x : Binary64) (exponent : Int) : Except Trouble Value :=
  let power := if 0 ≤ exponent then x.pow exponent.toNat else x.powInverse exponent.natAbs
  if x.isZero && exponent < 0 then .error (.failure .zeroDivision)
  else
    match x, power with
    | .finite _ _ _, .infinite _ => .error (.failure .overflow)
    | _, y => .ok (.real y)

/-- The power of two integers; a negative exponent gives a floating-point number. -/
def powInts (a b : Int) : Except Trouble Value :=
  if 0 ≤ b then .ok (.int (Int.pow a b.toNat)) else do powReal (← realOfInt a) b

/-- An operator on integers. -/
def operateInts (op : Operator) (a b : Int) : Except Trouble Value :=
  match op with
  | .add => .ok (.int (a + b))
  | .sub => .ok (.int (a - b))
  | .mul => .ok (.int (a * b))
  | .div => divideInts a b
  | .floorDiv => if b == 0 then .error (.failure .zeroDivision) else .ok (.int (Int.fdiv a b))
  | .mod => if b == 0 then .error (.failure .zeroDivision) else .ok (.int (Int.fmod a b))
  | .pow => powInts a b

/-- An operator on floating-point numbers. -/
def operateReals (op : Operator) (x y : Binary64) : Except Trouble Value :=
  let unlessZero (z : Binary64) : Except Trouble Value :=
    if y.isZero then .error (.failure .zeroDivision) else .ok (.real z)
  match op with
  | .add => .ok (.real (x.add y))
  | .sub => .ok (.real (x.sub y))
  | .mul => .ok (.real (x.mul y))
  | .div => unlessZero (x.div y)
  | .floorDiv => unlessZero (x.floorDiv y)
  | .mod => unlessZero (x.mod y)
  | .pow =>
    match y.isWhole, y.truncate? with
    | true, some exponent => powReal x exponent
    | _, _ => .error typeTrouble

/-- The floating-point number of a numeric value. -/
def toReal (v : Value) : Except Trouble Binary64 :=
  match v with
  | .real x => .ok x
  | v => v.int?.elim (.error typeTrouble) realOfInt

/-- An operator on numbers of either kind. -/
def operateNumbers (op : Operator) (a b : Value) : Except Trouble Value :=
  match a.int?, b.int? with
  | some i, some j => operateInts op i j
  | _, _ => do operateReals op (← a.toReal) (← b.toReal)

/-! ## Collections -/

/-- Two values joined. -/
def join (a b : Value) : Except Trouble Value :=
  match a, b with
  | .text s, .text t => .ok (.text (s ++ t))
  | .safe s, .safe t => .ok (.safe (s ++ t))
  | .safe s, .text t => .ok (.safe (s ++ escaped t))
  | .text s, .safe t => .ok (.safe (escaped s ++ t))
  | .list xs, .list ys => .ok (.list (xs ++ ys))
  | .tuple xs, .tuple ys => .ok (.tuple (xs ++ ys))
  | .bytes xs, .bytes ys => .ok (.bytes (xs ++ ys))
  | _, _ => .error typeTrouble

/-- A text written several times. -/
def repeatText (count : Int) (s : String) : String :=
  String.join (List.replicate count.toNat s)

/-- Items written several times. -/
def repeatItems {α : Type} (count : Int) (items : List α) : List α :=
  (List.replicate count.toNat items).flatten

/-- A collection repeated. -/
def repeated (v : Value) (count : Int) : Except Trouble Value :=
  match v with
  | .text s => .ok (.text (repeatText count s))
  | .safe s => .ok (.safe (repeatText count s))
  | .list items => .ok (.list (repeatItems count items))
  | .tuple items => .ok (.tuple (repeatItems count items))
  | .bytes items => .ok (.bytes (repeatItems count items))
  | _ => .error typeTrouble

/-- An operator on collections. -/
def operateCollections (op : Operator) (a b : Value) : Except Trouble Value :=
  match op with
  | .add => join a b
  | .mul =>
    match a.int?, b.int? with
    | some count, _ => repeated b count
    | _, some count => repeated a count
    | _, _ => .error typeTrouble
  | .sub =>
    match a, b with
    | .set xs, .set ys => .ok (.set (xs.filter fun x => !ys.any (same x)))
    | _, _ => .error typeTrouble
  | .mod =>
    match a.text?, b with
    | some s, .map _ => if s.toList.contains '%' then .error typeTrouble else .ok a
    | some s, .tuple [] => if s.toList.contains '%' then .error typeTrouble else .ok a
    | _, _ => .error typeTrouble
  | _ => .error typeTrouble

/-- A binary operator on values. -/
def operate (op : Operator) (a b : Value) : Except Trouble Value :=
  match a, b with
  | .absent absence, _ => .error (.absent absence.message)
  | _, .absent absence => .error (.absent absence.message)
  | a, b => if a.isNumber && b.isNumber then operateNumbers op a b else operateCollections op a b

/-- A number with its sign kept or turned. -/
def signed (turned : Bool) (v : Value) : Except Trouble Value :=
  match v with
  | .absent absence => .error (.absent absence.message)
  | .real x => .ok (.real (if turned then x.neg else x))
  | v =>
    match v.int? with
    | some i => .ok (.int (if turned then -i else i))
    | none => .error typeTrouble

/-! ## Order -/

/-- The answer of a comparison to whether the first is less and whether both are the same. -/
def Ordered.answer (op : Ordered) (isLess isSame : Bool) : Bool :=
  match op with
  | .less => isLess
  | .lessOrSame => isLess || isSame
  | .greater => !isLess && !isSame
  | .greaterOrSame => !isLess

/-- A comparison of two ranks; what is not a number compares as false. -/
def compareRanks (op : Ordered) (a b : Option Binary64.Rank) : Bool :=
  match a, b with
  | some a, some b => op.answer (a.le b && a != b) (a == b)
  | _, _ => false

mutual

/-- A comparison of two values by size. -/
def compare (op : Ordered) : Value → Value → Except Trouble Bool
  | .absent absence, _ => .error (.absent absence.message)
  | _, .absent absence => .error (.absent absence.message)
  | .list xs, .list ys => compareItems op xs ys
  | .tuple xs, .tuple ys => compareItems op xs ys
  | .bytes xs, .bytes ys => .ok (op.answer (decide (xs < ys)) (xs == ys))
  | .set xs, .set ys =>
    let below := sameMembers xs ys
    let above := sameMembers ys xs
    .ok (match op with
      | .less => below && !above
      | .lessOrSame => below
      | .greater => above && !below
      | .greaterOrSame => above)
  | a, b =>
    match a.text?, b.text? with
    | some s, some t => .ok (op.answer (decide (s < t)) (s == t))
    | _, _ =>
      if a.isNumber && b.isNumber then .ok (compareRanks op a.rank? b.rank?)
      else .error typeTrouble

/-- A comparison of two sequences by their first items that differ, else by their lengths. -/
def compareItems (op : Ordered) : List Value → List Value → Except Trouble Bool
  | [], ys => .ok (op.answer (!ys.isEmpty) ys.isEmpty)
  | _ :: _, [] => .ok (op.answer false false)
  | x :: xs, y :: ys => if same x y then compareItems op xs ys else compare op x y

end

/-- Whether two values are equal, where a strict absence has no equality. -/
def equal (a b : Value) : Except Trouble Bool :=
  match a, b with
  | .absent absence, _ =>
    if absence.strict then .error (.absent absence.message) else .ok (same a b)
  | _, .absent absence =>
    if absence.strict then .error (.absent absence.message) else .ok (same a b)
  | a, b => .ok (same a b)

/-- Whether a value counts as true, where a strict absence does not count. -/
def truth (v : Value) : Except Trouble Bool :=
  match v with
  | .absent absence => if absence.strict then .error (.absent absence.message) else .ok false
  | v => .ok v.isTrue

/-- Whether one text is part of another. -/
def isPart (part : List Char) : List Char → Bool
  | [] => part.isEmpty
  | c :: cs => part.isPrefixOf (c :: cs) || isPart part cs

/-- The length of a collection. -/
def size (v : Value) : Except Trouble Nat :=
  match v with
  | .text s => .ok s.length
  | .safe s => .ok s.length
  | .bytes b => .ok b.length
  | .list items => .ok items.length
  | .tuple items => .ok items.length
  | .row _ _ (some failure) _ => .error (.failure failure)
  | .row _ _ none items => .ok items.length
  | .map entries => .ok entries.length
  | .set items => .ok items.length
  | .absent absence => if absence.strict then .error (.absent absence.message) else .ok 0
  | _ => .error typeTrouble

/-! ## Conversions -/

/-- The integer that a value counts as: a number cut toward zero, or a numeral. -/
def toInt (v : Value) : Except Trouble Int :=
  match v with
  | .absent absence => .error (.absent absence.message)
  | .real .nan => .error (.failure .badValue)
  | .real x => x.truncate?.elim (.error (.failure .overflow)) .ok
  | .bytes b =>
    let digits := b.map fun n => if n < 128 then Char.ofNat n.toNat else '?'
    (Numeral.readInt? digits).elim (.error (.failure .badValue)) .ok
  | v =>
    match v.text? with
    | some s => (Numeral.readInt? s.toList).elim (.error (.failure .badValue)) .ok
    | none => v.int?.elim (.error typeTrouble) .ok

/-- A value as it is bound: a text escaped, every other value itself. -/
def bound (v : Value) : Value :=
  match v with
  | .text s => .text (escaped s)
  | v => v

/-- The items of a collection in the order of a repetition: the values of a map, the items of a
    sequence. -/
def items? : Value → Option (List Value)
  | .map entries => some (entries.map (·.2))
  | .list items => some items
  | .tuple items => some items
  | .row _ _ _ items => some items
  | .text s => some (s.toList.map fun c => .text (String.singleton c))
  | .safe s => some (s.toList.map fun c => .safe (String.singleton c))
  | .bytes b => some (b.map fun n => .int n.toNat)
  | _ => none

/-- How many items a collection has for a repetition, unless it refuses to tell. -/
def count (v : Value) : Except Trouble Nat :=
  match v with
  | .row _ _ (some failure) _ => .error (.failure failure)
  | v => .ok (v.items?.getD []).length

end Stencil.Value
