import Stencil.Number.Binary64

/-! # Instants — moments written as a date and a time

    A moment counts seconds from the first day of 1970.  It is written with its
    calendar date, the time of day and, if it is no whole second, six digits of
    microseconds. -/

namespace Stencil.Instant

/-- The microseconds of a moment, a half going to the even neighbour. -/
def micros (moment : Binary64) : Int :=
  let units := (moment.units?.getD 0) * 1000000
  let size := Binary64.roundQuotient units.natAbs Binary64.unitsPerOne
  if units < 0 then -(size : Int) else size

/-- The date of a day counted from the first day of 1970, as year, month and day.  Years are
    counted from March, in eras of 400. -/
def dateOf (day : Int) : Int × Nat × Nat :=
  let shifted := day + 719468
  let era := Int.fdiv shifted 146097
  let inEra := (Int.fmod shifted 146097).toNat
  let year := (inEra - inEra / 1460 + inEra / 36524 - inEra / 146096) / 365
  let inYear := inEra - (365 * year + year / 4 - year / 100)
  let month := (5 * inYear + 2) / 153
  let date := inYear - (153 * month + 2) / 5 + 1
  let month := if month < 10 then month + 3 else month - 9
  (era * 400 + year + (if month ≤ 2 then 1 else 0), month, date)

/-- The decimal digits of a number, at least `width` of them. -/
def padded (width number : Nat) : String :=
  let digits := toString number
  String.ofList (List.replicate (width - digits.length) '0') ++ digits

/-- A moment in universal time. -/
def text (moment : Binary64) : String :=
  let all := micros moment
  let fraction := (Int.fmod all 1000000).toNat
  let seconds := Int.fdiv all 1000000
  let ofDay := (Int.fmod seconds 86400).toNat
  let (year, month, date) := dateOf (Int.fdiv seconds 86400)
  padded 4 year.toNat ++ "-" ++ padded 2 month ++ "-" ++ padded 2 date ++ "T" ++
    padded 2 (ofDay / 3600) ++ ":" ++ padded 2 (ofDay / 60 % 60) ++ ":" ++ padded 2 (ofDay % 60) ++
    (if fraction == 0 then "" else "." ++ padded 6 fraction) ++ "Z"

end Stencil.Instant
