import Stencil.Number.Binary64

/-! # Shortest decimals — the fewest digits that read back

    A finite number is shown with the fewest decimal digits that read back as
    the same number, and of those with the digits nearest to it.  For each count
    of digits the two neighbours on that decimal grid are tried; the exact
    decimal is the last resort. -/

namespace Stencil

/-- `digits · 10^power`. -/
structure Decimal where
  digits : Nat
  power : Int
deriving DecidableEq, Repr

namespace Decimal

/-- The number nearest to a decimal. -/
def toBinary (negative : Bool) (d : Decimal) : Binary64 :=
  Binary64.ofDecimal negative d.digits d.power

/-- The digits of a natural to the base ten. -/
def digitsOf (n : Nat) : List Char :=
  Nat.toDigits 10 n

/-- The least `j` up to `fuel` with `den ≤ num · 10^j`, counted from `j`. -/
def leadingZeros (num den : Nat) : Nat → Nat → Nat
  | 0, j => j
  | fuel + 1, j => if den ≤ num * Nat.pow 10 j then j else leadingZeros num den fuel (j + 1)

/-- The number of digits before the point of a positive quotient: `k` with
    `10^(k-1) ≤ num / den < 10^k`. -/
def pointPlace (num den : Nat) : Int :=
  if den ≤ num then (digitsOf (num / den)).length else 1 - (leadingZeros num den 400 1 : Nat)

/-- A decimal without zeros at its end. -/
def trimmed : Nat → Decimal → Decimal
  | 0, d => d
  | fuel + 1, d =>
    if d.digits != 0 && d.digits % 10 == 0 then trimmed fuel ⟨d.digits / 10, d.power + 1⟩ else d

/-- The decimal with `count` digits that reads back as `target`, if the quotient has one nearby. -/
def onGrid? (target : Binary64) (num den : Nat) (count : Nat) : Option Decimal :=
  let power : Int := pointPlace num den - count
  let (n, d) :=
    if power < 0 then (num * Nat.pow 10 power.natAbs, den)
    else (num, den * Nat.pow 10 power.toNat)
  let below : Decimal := ⟨n / d, power⟩
  let above : Decimal := ⟨n / d + 1, power⟩
  let nearer := Binary64.roundQuotient n d
  let order := if nearer == n / d then [below, above] else [above, below]
  order.find? fun candidate => candidate.toBinary false == target

/-- The exact decimal of `mantissa · 2^exponent`. -/
def exact (mantissa : Nat) (exponent : Int) : Decimal :=
  if exponent < 0 then ⟨mantissa * Nat.pow 5 exponent.natAbs, exponent⟩
  else ⟨mantissa * Nat.pow 2 exponent.toNat, 0⟩

/-- The shortest decimal that reads back as `mantissa · 2^exponent`. -/
def shortest (mantissa : Nat) (exponent : Int) : Decimal :=
  if mantissa == 0 then ⟨0, 0⟩
  else
    let (num, den) := Binary64.scaled mantissa 1 exponent
    let target := Binary64.finite false mantissa exponent
    let found := (List.range 17).findSome? fun count => onGrid? target num den (count + 1)
    let d := found.getD (exact mantissa exponent)
    trimmed (digitsOf d.digits).length d

end Decimal

end Stencil
