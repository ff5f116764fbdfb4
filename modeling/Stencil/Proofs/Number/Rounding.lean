import Mathlib.Algebra.Order.Field.Power
import Mathlib.Algebra.Order.Floor.Semifield
import Mathlib.Data.Int.Log
import Mathlib.Data.Rat.Floor
import Mathlib.Tactic.FieldSimp
import Mathlib.Tactic.Linarith
import Mathlib.Tactic.Positivity
import Stencil.Number.Numeral

/-! # Rounding — what a quotient rounds to depends on the quotient alone

    `roundRatio` scales a numerator and a denominator by a power of two that it
    guesses from their sizes, and divides once.  `nearestTo` is the same rounding
    of a rational, its exponent read off the binary logarithm, so two ways to
    write one quotient round alike.  With it the guards of `nearest` are seen to
    save work only, and every number of canonical form is what it itself rounds
    to.

    Headline: `nearestTo_finite`. -/

namespace Stencil.Binary64

/-! ## Numbers of canonical form -/

/-- A number as the type holds it: the mantissa has 53 bits, the first of them set unless the
    exponent is the least one. -/
def IsCanonical : Binary64 → Prop
  | .finite _ mantissa exponent =>
    mantissa < 2 ^ 53 ∧ leastExponent ≤ exponent ∧ exponent ≤ greatestExponent
      ∧ (2 ^ 52 ≤ mantissa ∨ exponent = leastExponent)
  | _ => True

instance (x : Binary64) : Decidable x.IsCanonical := by
  cases x <;> unfold IsCanonical <;> infer_instance

/-! ## Rounding a rational -/

/-- A rational that is not negative rounded to the nearest natural, a tie going to the even one. -/
def nearestNat (q : ℚ) : Nat :=
  if 1 / 2 < q - ⌊q⌋₊ ∨ (q - ⌊q⌋₊ = 1 / 2 ∧ ⌊q⌋₊ % 2 = 1) then ⌊q⌋₊ + 1 else ⌊q⌋₊

/-- The exponent under which a positive rational is rounded. -/
def exponentOf (q : ℚ) : Int :=
  max (Int.log 2 q - 52) leastExponent

/-- The number of a mantissa that rounding may have carried to `2 ^ 53`. -/
def carried (negative : Bool) (mantissa : Nat) (exponent : Int) : Binary64 :=
  let (mantissa, exponent) :=
    if mantissa = 2 ^ 53 then (2 ^ 52, exponent + 1) else (mantissa, exponent)
  if exponent > greatestExponent then .infinite negative else .finite negative mantissa exponent

/-- The number nearest to a rational that is not negative, with the given sign. -/
def nearestTo (negative : Bool) (q : ℚ) : Binary64 :=
  if q = 0 then zero negative
  else carried negative (nearestNat (q / 2 ^ exponentOf q)) (exponentOf q)

theorem nearestNat_natCast (n : Nat) : nearestNat n = n := by
  rw [nearestNat, Nat.floor_natCast, sub_self]
  norm_num

theorem nearestNat_eq_zero {q : ℚ} (hq : q < 1 / 2) : nearestNat q = 0 := by
  have hfloor : ⌊q⌋₊ = 0 := Nat.floor_eq_zero.mpr (by linarith)
  rw [nearestNat, hfloor, Nat.cast_zero, sub_zero, if_neg]
  rintro (h | h)
  · linarith
  · exact absurd h.2 (by decide)

theorem carried_of_lt (negative : Bool) {mantissa : Nat} {exponent : Int}
    (hmantissa : mantissa < 2 ^ 53) (hexponent : exponent ≤ greatestExponent) :
    carried negative mantissa exponent = .finite negative mantissa exponent := by
  rw [carried, if_neg (Nat.ne_of_lt hmantissa)]
  exact if_neg (not_lt.mpr hexponent)

/-- A mantissa under too great an exponent is an infinity. -/
theorem carried_of_gt (negative : Bool) (mantissa : Nat) {exponent : Int}
    (hexponent : greatestExponent < exponent) :
    carried negative mantissa exponent = .infinite negative := by
  rw [carried]
  by_cases hcarry : mantissa = 2 ^ 53
  · rw [if_pos hcarry]
    exact if_pos (lt_trans hexponent (lt_add_one exponent))
  · rw [if_neg hcarry]
    exact if_pos hexponent

/-! ## Rounding a quotient of naturals -/

theorem scaled_den_pos {den : Nat} (num : Nat) (shift : Int) (hden : 0 < den) :
    0 < (scaled num den shift).2 := by
  rw [scaled]
  split
  · exact Nat.mul_pos hden (Nat.pow_pos (by decide))
  · exact hden

/-- Scaling multiplies the quotient. -/
theorem scaled_ratio (num den : Nat) (shift : Int) :
    ((scaled num den shift).1 : ℚ) / (scaled num den shift).2 = num / den * 2 ^ shift := by
  rw [scaled]
  split
  case isTrue h =>
    obtain ⟨n, rfl⟩ : ∃ n : Nat, shift = -n := ⟨shift.natAbs, by omega⟩
    rw [Int.natAbs_neg, Int.natAbs_natCast, zpow_neg, zpow_natCast]
    push_cast [Nat.pow_eq]
    rw [div_mul_eq_div_div, div_eq_mul_inv (_ / _)]
  case isFalse h =>
    obtain ⟨n, rfl⟩ : ∃ n : Nat, shift = n := ⟨shift.toNat, by omega⟩
    rw [Int.toNat_natCast, zpow_natCast]
    push_cast [Nat.pow_eq]
    rw [mul_div_right_comm]

theorem roundQuotient_eq (num : Nat) {den : Nat} (hden : 0 < den) :
    roundQuotient num den = nearestNat (num / den) := by
  have hpos : (0 : ℚ) < den := by exact_mod_cast hden
  have hrest : (num : ℚ) / den - (num / den : Nat) = (num % den : Nat) / den := by
    rw [eq_div_iff hpos.ne', sub_mul, div_mul_cancel₀ _ hpos.ne', sub_eq_iff_eq_add]
    exact_mod_cast (Nat.mod_add_div' num den).symm
  have habove : (1 : ℚ) / 2 < (num % den : Nat) / den ↔ den < 2 * (num % den) := by
    rw [div_lt_div_iff₀ two_pos hpos, one_mul, mul_comm]
    exact_mod_cast Iff.rfl
  have htie : ((num % den : Nat) : ℚ) / den = 1 / 2 ↔ 2 * (num % den) = den := by
    rw [div_eq_div_iff hpos.ne' two_ne_zero, one_mul, mul_comm]
    exact_mod_cast Iff.rfl
  rw [roundQuotient, nearestNat, Nat.floor_div_eq_div, hrest]
  simp only [habove, htie, Bool.or_eq_true, Bool.and_eq_true, decide_eq_true_eq, beq_iff_eq]

/-- The binary sizes of a numerator and a denominator give the logarithm of their quotient up to
    one. -/
theorem log_ratio_bounds {num den : Nat} (hnum : 0 < num) (hden : 0 < den) :
    (num.log2 : Int) - den.log2 - 1 ≤ Int.log 2 ((num : ℚ) / den)
      ∧ Int.log 2 ((num : ℚ) / den) ≤ (num.log2 : Int) - den.log2 := by
  have hn : (0 : ℚ) < num := by exact_mod_cast hnum
  have hd : (0 : ℚ) < den := by exact_mod_cast hden
  have hnLow : (2 : ℚ) ^ (num.log2 : Int) ≤ num := by
    rw [zpow_natCast]
    exact_mod_cast Nat.log2_self_le hnum.ne'
  have hdLow : (2 : ℚ) ^ (den.log2 : Int) ≤ den := by
    rw [zpow_natCast]
    exact_mod_cast Nat.log2_self_le hden.ne'
  have hnHigh : (num : ℚ) < 2 ^ ((num.log2 : Int) + 1) := by
    exact_mod_cast (Nat.lt_log2_self : num < 2 ^ (num.log2 + 1))
  have hdHigh : (den : ℚ) < 2 ^ ((den.log2 : Int) + 1) := by
    exact_mod_cast (Nat.lt_log2_self : den < 2 ^ (den.log2 + 1))
  constructor
  · refine (Int.zpow_le_iff_le_log (by decide) (div_pos hn hd)).mp ?_
    rw [Nat.cast_ofNat, le_div_iff₀ hd]
    calc (2 : ℚ) ^ ((num.log2 : Int) - den.log2 - 1) * den
        ≤ 2 ^ ((num.log2 : Int) - den.log2 - 1) * 2 ^ ((den.log2 : Int) + 1) :=
          mul_le_mul_of_nonneg_left hdHigh.le (by positivity)
      _ = 2 ^ (num.log2 : Int) := by
          rw [← zpow_add₀ two_ne_zero]
          congr 1
          omega
      _ ≤ num := hnLow
  · refine Int.lt_add_one_iff.mp ((Int.lt_zpow_iff_log_lt (by decide) (div_pos hn hd)).mp ?_)
    rw [Nat.cast_ofNat, div_lt_iff₀ hd]
    calc (num : ℚ) < 2 ^ ((num.log2 : Int) + 1) := hnHigh
      _ = 2 ^ ((num.log2 : Int) - den.log2 + 1) * 2 ^ (den.log2 : Int) := by
          rw [← zpow_add₀ two_ne_zero]
          congr 1
          omega
      _ ≤ 2 ^ ((num.log2 : Int) - den.log2 + 1) * den :=
          mul_le_mul_of_nonneg_left hdLow (by positivity)

/-- Rounding a quotient of naturals is rounding a rational. -/
theorem roundRatio_eq (negative : Bool) (num : Nat) {den : Nat} (hden : 0 < den) :
    roundRatio negative num den = nearestTo negative (num / den) := by
  have hd : (0 : ℚ) < den := by exact_mod_cast hden
  rcases Nat.eq_zero_or_pos num with rfl | hnum
  · rw [nearestTo, Nat.cast_zero, zero_div, if_pos rfl]
    rfl
  have hn : (0 : ℚ) < num := by exact_mod_cast hnum
  obtain ⟨hlow, hhigh⟩ := log_ratio_bounds hnum hden
  have hq := div_pos hn hd
  rw [nearestTo, if_neg hq.ne']
  generalize hguess : (num.log2 : Int) - den.log2 - 52 = guess at *
  -- the guess is one too great exactly if the scaled quotient falls short of 53 bits
  have hfirst : (scaled num den (-guess)).1 / (scaled num den (-guess)).2 < 2 ^ 52
      ↔ Int.log 2 ((num : ℚ) / den) < guess + 52 := by
    rw [← Int.lt_zpow_iff_log_lt (by decide) hq, ← Nat.floor_div_eq_div (K := ℚ), scaled_ratio,
      Nat.floor_lt (by positivity), zpow_neg, ← div_eq_mul_inv, div_lt_iff₀ (by positivity),
      zpow_add₀ (by norm_num), mul_comm]
    norm_num
  have hexponent : max (if (scaled num den (-guess)).1 / (scaled num den (-guess)).2 < Nat.pow 2 52
      then guess - 1 else guess) leastExponent = exponentOf ((num : ℚ) / den) := by
    rw [exponentOf]
    congr 1
    split
    case isTrue h =>
      have := hfirst.mp h
      omega
    case isFalse h =>
      have := mt hfirst.mpr h
      omega
  rw [roundRatio]
  simp only [beq_iff_eq, hnum.ne', if_false, hguess, hexponent, Nat.pow_eq]
  rw [roundQuotient_eq _ (scaled_den_pos num _ hden), scaled_ratio, zpow_neg, ← div_eq_mul_inv]
  rfl

/-! ## What numbers and the ends of the range round to -/

/-- A mantissa in range under an exponent in range is the number that their product rounds to. -/
theorem nearestTo_finite (negative : Bool) {mantissa : Nat} {exponent : Int}
    (h : (Binary64.finite negative mantissa exponent).IsCanonical) :
    nearestTo negative (mantissa * 2 ^ exponent) = .finite negative mantissa exponent := by
  obtain ⟨hmantissa, hleast, hgreatest, hlead⟩ := h
  rw [nearestTo]
  rcases Nat.eq_zero_or_pos mantissa with rfl | hpos
  · rw [Nat.cast_zero, zero_mul, if_pos rfl, hlead.resolve_left (by decide)]
    rfl
  have hm : (0 : ℚ) < mantissa := by exact_mod_cast hpos
  have hpow : (0 : ℚ) < 2 ^ exponent := by positivity
  have hexponent : exponentOf (mantissa * 2 ^ exponent : ℚ) = exponent := by
    have hhigh : Int.log 2 (mantissa * 2 ^ exponent : ℚ) < 53 + exponent := by
      refine (Int.lt_zpow_iff_log_lt (by decide) (mul_pos hm hpow)).mp ?_
      rw [Nat.cast_ofNat, zpow_add₀ two_ne_zero]
      exact mul_lt_mul_of_pos_right (by exact_mod_cast hmantissa) hpow
    rw [exponentOf]
    -- the leading bit fixes the logarithm; without it the exponent is the least one anyway
    rcases hlead with hlead | rfl
    · have hlow : 52 + exponent ≤ Int.log 2 (mantissa * 2 ^ exponent : ℚ) := by
        refine (Int.zpow_le_iff_le_log (by decide) (mul_pos hm hpow)).mp ?_
        rw [Nat.cast_ofNat, zpow_add₀ two_ne_zero]
        exact mul_le_mul_of_nonneg_right (by exact_mod_cast hlead) hpow.le
      omega
    · omega
  rw [if_neg (mul_pos hm hpow).ne', hexponent, mul_div_cancel_right₀ _ hpow.ne',
    nearestNat_natCast, carried_of_lt negative hmantissa hgreatest]

/-- What is too great rounds to an infinity. -/
theorem nearestTo_of_great (negative : Bool) {q : ℚ} (hq : 2 ^ (1024 : Int) ≤ q) :
    nearestTo negative q = .infinite negative := by
  have hpos : 0 < q := lt_of_lt_of_le (by positivity) hq
  have hlog : 1024 ≤ Int.log 2 q := (Int.zpow_le_iff_le_log (by decide) hpos).mp hq
  have hexponent : greatestExponent < exponentOf q := by
    rw [greatestExponent, exponentOf]
    omega
  rw [nearestTo, if_neg hpos.ne', carried_of_gt negative _ hexponent]

/-- What is less than half the least positive number rounds to zero. -/
theorem nearestTo_of_small (negative : Bool) {q : ℚ} (hpos : 0 < q)
    (hq : q < 2 ^ (-1075 : Int)) : nearestTo negative q = zero negative := by
  have hlog : Int.log 2 q < -1075 := (Int.lt_zpow_iff_log_lt (by decide) hpos).mp hq
  have hexponent : exponentOf q = leastExponent := by
    rw [exponentOf, leastExponent]
    omega
  have hhalf : q / 2 ^ leastExponent < 1 / 2 := by
    rw [leastExponent, div_lt_iff₀ (by positivity)]
    calc q < 2 ^ (-1075 : Int) := hq
      _ = 1 / 2 * 2 ^ (-1074 : Int) := by
          rw [show (-1075 : Int) = -1 + -1074 from rfl, zpow_add₀ two_ne_zero]
          norm_num
  rw [nearestTo, if_neg hpos.ne', hexponent, nearestNat_eq_zero hhalf]
  exact carried_of_lt negative (by decide) (by decide)

/-- The sign of what a rational rounds to is the given one, and nothing else depends on it. -/
theorem nearestTo_sign {q : ℚ} {mantissa : Nat} {exponent : Int} (one other : Bool)
    (h : nearestTo one q = .finite one mantissa exponent) :
    nearestTo other q = .finite other mantissa exponent := by
  have result (size : Nat × Int)
      (hsize : (if size.2 > greatestExponent then Binary64.infinite one
        else .finite one size.1 size.2) = .finite one mantissa exponent) :
      (if size.2 > greatestExponent then Binary64.infinite other
        else .finite other size.1 size.2) = .finite other mantissa exponent := by
    by_cases hgreat : size.2 > greatestExponent
    · rw [if_pos hgreat] at hsize
      cases hsize
    · rw [if_neg hgreat] at hsize ⊢
      cases hsize
      rfl
  rw [nearestTo] at h ⊢
  by_cases hzero : q = 0
  · rw [if_pos hzero] at h ⊢
    cases h
    rfl
  · rw [if_neg hzero] at h ⊢
    exact result _ h

end Stencil.Binary64

/-! ## Decimals -/

namespace Stencil.Decimal

open Binary64

/-- The rational that a decimal writes. -/
def value (d : Decimal) : ℚ :=
  d.digits * 10 ^ d.power

theorem value_mk (digits : Nat) (power : Int) : value ⟨digits, power⟩ = digits * 10 ^ power := rfl

/-- Zeros behind the digits take from the power. -/
theorem value_mul_pow (digits count : Nat) (power : Int) :
    value ⟨digits * 10 ^ count, power - count⟩ = value ⟨digits, power⟩ := by
  rw [value_mk, value_mk, zpow_sub₀ (by norm_num), zpow_natCast]
  push_cast
  field_simp

theorem ofDecimal_eq (negative : Bool) (digits : Nat) (power : Int) :
    ofDecimal negative digits power = nearestTo negative (value ⟨digits, power⟩) := by
  rw [ofDecimal]
  split
  case isTrue h =>
    obtain ⟨n, rfl⟩ : ∃ n : Nat, power = -n := ⟨power.natAbs, by omega⟩
    have hden : 0 < Nat.pow 10 n := Nat.pow_pos (by decide)
    rw [Int.natAbs_neg, Int.natAbs_natCast, roundRatio_eq _ _ hden, value_mk, zpow_neg,
      zpow_natCast, ← div_eq_mul_inv]
    norm_num
  case isFalse h =>
    obtain ⟨n, rfl⟩ : ∃ n : Nat, power = n := ⟨power.toNat, by omega⟩
    rw [Int.toNat_natCast, roundRatio_eq _ _ Nat.one_pos, value_mk, zpow_natCast]
    norm_num

theorem digitsOf_length_pos (n : Nat) : 0 < (digitsOf n).length :=
  Nat.length_toDigits_pos

/-- A positive natural lies between the powers of ten that its number of digits gives. -/
theorem pow_length_digitsOf {n : Nat} (hn : 0 < n) :
    10 ^ ((digitsOf n).length - 1) ≤ n ∧ n < 10 ^ (digitsOf n).length := by
  have hpos := digitsOf_length_pos n
  constructor
  · rcases Nat.eq_zero_or_pos ((digitsOf n).length - 1) with hone | hmore
    · rw [hone]
      exact hn
    · refine Nat.not_lt.mp fun h => ?_
      have hle := (Nat.length_toDigits_le_iff (by decide) hmore).mpr h
      rw [digitsOf] at hpos hmore hle
      omega
  · exact (Nat.length_toDigits_le_iff (by decide) hpos).mp (Nat.le_refl _)

theorem two_pow_le_ten_pow : (2 : ℚ) ^ (1200 : Int) ≤ 10 ^ (400 : Int) := by
  rw [show (1200 : Int) = (3 * 400 : Nat) from rfl, show (400 : Int) = (400 : Nat) from rfl,
    zpow_natCast, zpow_natCast, pow_mul]
  exact pow_le_pow_left₀ (by norm_num) (by norm_num) 400

/-- The guards that spare the rounding of what is too great or too small change nothing. -/
theorem nearest_eq (negative : Bool) (digits : Nat) (power : Int) :
    Numeral.nearest negative digits power = nearestTo negative (value ⟨digits, power⟩) := by
  rw [Numeral.nearest]
  rcases Nat.eq_zero_or_pos digits with rfl | hpos
  · rw [value_mk, Nat.cast_zero, zero_mul, nearestTo, if_pos rfl]
    rfl
  have hd : (0 : ℚ) < digits := by exact_mod_cast hpos
  have hp : (0 : ℚ) < 10 ^ power := by positivity
  obtain ⟨hlow, hhigh⟩ := pow_length_digitsOf hpos
  have hone := digitsOf_length_pos digits
  generalize (digitsOf digits).length = size at *
  show (if (digits == 0 || decide ((size : Int) + power < -400)) = true then zero negative
    else if (size : Int) + power > 400 then .infinite negative
    else ofDecimal negative digits power) = _
  split
  case isTrue h =>
    have hsmall : (size : Int) + power < -400 := by
      simpa [hpos.ne'] using h
    refine (nearestTo_of_small negative (mul_pos hd hp) ?_).symm
    calc (digits : ℚ) * 10 ^ power
        < 10 ^ (size : Int) * 10 ^ power :=
          mul_lt_mul_of_pos_right (by exact_mod_cast hhigh) hp
      _ = 10 ^ (size + power) := (zpow_add₀ (by norm_num) _ _).symm
      _ ≤ 10 ^ (-400 : Int) := zpow_le_zpow_right₀ (by norm_num) (by omega)
      _ = (10 ^ (400 : Int))⁻¹ := zpow_neg 10 400
      _ ≤ (2 ^ (1200 : Int))⁻¹ := inv_anti₀ (by positivity) two_pow_le_ten_pow
      _ = 2 ^ (-1200 : Int) := (zpow_neg 2 1200).symm
      _ ≤ 2 ^ (-1075 : Int) := zpow_le_zpow_right₀ one_le_two (by decide)
  case isFalse h =>
    split
    case isTrue hgreat =>
      refine (nearestTo_of_great negative ?_).symm
      calc (2 : ℚ) ^ (1024 : Int) ≤ 2 ^ (1200 : Int) :=
          zpow_le_zpow_right₀ one_le_two (by decide)
        _ ≤ 10 ^ (400 : Int) := two_pow_le_ten_pow
        _ ≤ 10 ^ (((size - 1 : Nat) : Int) + power) :=
          zpow_le_zpow_right₀ (by norm_num) (by omega)
        _ = 10 ^ ((size - 1 : Nat) : Int) * 10 ^ power := zpow_add₀ (by norm_num) _ _
        _ ≤ digits * 10 ^ power :=
          mul_le_mul_of_nonneg_right (by exact_mod_cast hlow) hp.le
    case isFalse => exact ofDecimal_eq negative digits power

end Stencil.Decimal
