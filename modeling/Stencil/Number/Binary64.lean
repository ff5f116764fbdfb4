/-! # Binary floating-point numbers — 53 bits of mantissa, exact arithmetic

    A number is a signed mantissa times a power of two, an infinity, or not a
    number.  The canonical form has a mantissa below `2^53` that is at least
    `2^52` unless the exponent is the least one.  Every finite number is a whole
    multiple of `2^(-1074)`; its multiple (`units`) is what comparisons look at.
    `roundRatio` gives the number nearest to a quotient of naturals, a tie going
    to the even mantissa; the arithmetic computes exactly and rounds once. -/

namespace Stencil

/-- A binary floating-point number. -/
inductive Binary64 where
  | nan
  | infinite (negative : Bool)
  | finite (negative : Bool) (mantissa : Nat) (exponent : Int)
deriving DecidableEq, Repr, Inhabited

namespace Binary64

/-- The exponent of the least positive number. -/
def leastExponent : Int := -1074

/-- The exponent of the greatest finite number. -/
def greatestExponent : Int := 971

/-- The number of units in one: `2^1074`. -/
def unitsPerOne : Nat :=
  Nat.pow 2 1074

/-- The zero of a sign. -/
def zero (negative : Bool) : Binary64 :=
  .finite negative 0 leastExponent

/-- `number · 2^shift` as a quotient of naturals. -/
def scaled (num den : Nat) (shift : Int) : Nat × Nat :=
  if shift < 0 then (num, den * Nat.pow 2 shift.natAbs) else (num * Nat.pow 2 shift.toNat, den)

/-- A quotient rounded to the nearest natural, a tie going to the even one. -/
def roundQuotient (num den : Nat) : Nat :=
  let whole := num / den
  let rest := num % den
  if den < 2 * rest || (2 * rest == den && whole % 2 == 1) then whole + 1 else whole

/-- The number nearest to a positive quotient with the given sign. -/
def roundRatio (negative : Bool) (num den : Nat) : Binary64 :=
  if num == 0 then zero negative
  else
    let guess : Int := (num.log2 : Int) - (den.log2 : Int) - 52
    let (n, d) := scaled num den (-guess)
    let exponent := max (if n / d < Nat.pow 2 52 then guess - 1 else guess) leastExponent
    let (n, d) := scaled num den (-exponent)
    let mantissa := roundQuotient n d
    let (mantissa, exponent) :=
      if mantissa == Nat.pow 2 53 then (Nat.pow 2 52, exponent + 1) else (mantissa, exponent)
    if exponent > greatestExponent then .infinite negative
    else .finite negative mantissa exponent

/-- The number nearest to an integer. -/
def ofInt (i : Int) : Binary64 :=
  roundRatio (i < 0) i.natAbs 1

/-- The number nearest to `digits · 10^power`. -/
def ofDecimal (negative : Bool) (digits : Nat) (power : Int) : Binary64 :=
  if power < 0 then roundRatio negative digits (Nat.pow 10 power.natAbs)
  else roundRatio negative (digits * Nat.pow 10 power.toNat) 1

/-- A finite number as a multiple of `2^(-1074)`; the others have none. -/
def units? : Binary64 → Option Int
  | .finite negative mantissa exponent =>
    let size := (mantissa * Nat.pow 2 (exponent - leastExponent).toNat : Nat)
    some (if negative then -(size : Int) else size)
  | _ => none

/-- The multiple of `2^(-1074)` that an integer is. -/
def unitsOfInt (i : Int) : Int :=
  i * unitsPerOne

/-- The place of a number in the order, between the infinities; none is not a number. -/
inductive Rank where
  | lowest
  | at (units : Int)
  | highest
deriving DecidableEq, Repr

/-- The rank of a number. -/
def rank? : Binary64 → Option Rank
  | .nan => none
  | .infinite true => some .lowest
  | .infinite false => some .highest
  | x => x.units?.map .at

/-- The rank of an integer. -/
def rankOfInt (i : Int) : Rank :=
  .at (unitsOfInt i)

/-- Whether a rank is below another or the same. -/
def Rank.le : Rank → Rank → Bool
  | .lowest, _ => true
  | _, .highest => true
  | .at a, .at b => decide (a ≤ b)
  | _, _ => false

/-- Whether one number is at most another; what is not a number is in no order. -/
def le (x y : Binary64) : Bool :=
  match x.rank?, y.rank? with
  | some a, some b => a.le b
  | _, _ => false

/-- Whether two numbers are equal; the two zeros are, and what is not a number equals nothing. -/
def same (x y : Binary64) : Bool :=
  match x.rank?, y.rank? with
  | some a, some b => a == b
  | _, _ => false

/-- The greater of two numbers: the second if it is strictly greater, else the first. -/
def largest (x y : Binary64) : Binary64 :=
  if x.le y && !y.le x then y else x

/-- Whether the sign is negative. -/
def isNegative : Binary64 → Bool
  | .nan => false
  | .infinite negative => negative
  | .finite negative _ _ => negative

/-- Whether a number is one of the zeros. -/
def isZero : Binary64 → Bool
  | .finite _ 0 _ => true
  | _ => false

/-- The number of the other sign. -/
def neg : Binary64 → Binary64
  | .nan => .nan
  | .infinite negative => .infinite !negative
  | .finite negative mantissa exponent => .finite (!negative) mantissa exponent

/-- The number nearest to a multiple of `2^(-1074)`; a zero takes the given sign. -/
def ofUnits (zeroNegative : Bool) (units : Int) : Binary64 :=
  if units == 0 then zero zeroNegative
  else roundRatio (units < 0) units.natAbs unitsPerOne

/-- The sum, rounded once. -/
def add (x y : Binary64) : Binary64 :=
  match x, y with
  | .nan, _ => .nan
  | _, .nan => .nan
  | .infinite a, .infinite b => if a == b then .infinite a else .nan
  | .infinite a, _ => .infinite a
  | _, .infinite b => .infinite b
  | x, y => ofUnits (x.isNegative && y.isNegative) (x.units?.getD 0 + y.units?.getD 0)

/-- The difference, rounded once. -/
def sub (x y : Binary64) : Binary64 :=
  x.add y.neg

/-- The product, rounded once. -/
def mul (x y : Binary64) : Binary64 :=
  match x, y with
  | .nan, _ => .nan
  | _, .nan => .nan
  | .infinite a, y => if y.isZero then .nan else .infinite (a != y.isNegative)
  | x, .infinite b => if x.isZero then .nan else .infinite (x.isNegative != b)
  | .finite a m e, .finite b n f =>
    let (num, den) := scaled (m * n) 1 (e + f)
    roundRatio (a != b) num den

/-- The quotient by a number that is not zero, rounded once. -/
def div (x y : Binary64) : Binary64 :=
  match x, y with
  | .nan, _ => .nan
  | _, .nan => .nan
  | .infinite _, .infinite _ => .nan
  | .infinite a, y => .infinite (a != y.isNegative)
  | x, .infinite b => zero (x.isNegative != b)
  | .finite a m e, .finite b n f =>
    let (num, den) := scaled m n (e - f)
    roundRatio (a != b) num den

/-- The remainder of the division by a number that is not zero, with the divisor's sign. -/
def mod (x y : Binary64) : Binary64 :=
  match x, y with
  | .infinite _, _ => .nan
  | .nan, _ => .nan
  | _, .nan => .nan
  | x, .infinite b =>
    if x.isZero then zero b else if x.isNegative == b then x else .infinite b
  | x, y =>
    let units := y.units?.getD 1
    ofUnits y.isNegative (Int.fmod (x.units?.getD 0) units)

/-- The greatest whole number that is not above a number. -/
def floor (x : Binary64) : Binary64 :=
  match x.units? with
  | some units => ofInt (Int.fdiv units unitsPerOne)
  | none => x

/-- The whole quotient by a number that is not zero: what is left over is taken away first, and
    each step is rounded. -/
def floorDiv (x y : Binary64) : Binary64 :=
  match x, y with
  | .infinite _, _ => .nan
  | .nan, _ => .nan
  | _, .nan => .nan
  | x, .infinite b =>
    if x.isZero || x.isNegative == b then zero (x.isNegative != b) else ofInt (-1)
  | x, y =>
    let left := ofUnits x.isNegative (Int.tmod (x.units?.getD 0) (y.units?.getD 1))
    let quotient := (x.sub left).div y
    let quotient :=
      if !left.isZero && left.isNegative != y.isNegative then quotient.sub (ofInt 1) else quotient
    let whole := quotient.floor
    if quotient.isZero then zero (x.isNegative != y.isNegative)
    else if !(quotient.sub whole).le (roundRatio false 1 2) then whole.add (ofInt 1)
    else whole

/-- The natural power, rounded once. -/
def pow (x : Binary64) (n : Nat) : Binary64 :=
  match x with
  | .nan => if n == 0 then ofInt 1 else .nan
  | .infinite negative => if n == 0 then ofInt 1 else .infinite (negative && n % 2 == 1)
  | .finite negative m e =>
    let (num, den) := scaled (Nat.pow m n) 1 (e * n)
    roundRatio (negative && n % 2 == 1) num den

/-- The reciprocal of a natural power of a number that is not zero, rounded once. -/
def powInverse (x : Binary64) (n : Nat) : Binary64 :=
  match x with
  | .finite negative m e =>
    let (num, den) := scaled (Nat.pow m n) 1 (e * n)
    roundRatio (negative && n % 2 == 1) den num
  | x => (ofInt 1).div (x.pow n)

/-- The integer nearest toward zero. -/
def truncate? (x : Binary64) : Option Int :=
  x.units?.map fun units => Int.tdiv units unitsPerOne

/-- Whether a finite number is a whole one. -/
def isWhole (x : Binary64) : Bool :=
  match x.units? with
  | some units => units % unitsPerOne == 0
  | none => false

end Binary64

end Stencil
