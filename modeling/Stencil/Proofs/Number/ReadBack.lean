import Stencil.Json.Reader
import Stencil.Proofs.Number.Rounding

/-! # Numerals read back — a written number is the number it was

    The digits of a number are the shortest that round to it, or its exact
    decimal, so they round to it in every case.  A decimal is laid out with a
    point or with an exponent; the reader puts the parts together again as the
    same rational, and what a rational rounds to does not depend on how it is
    written.

    Headline: `leafAndRest?_writeReal`. -/

namespace Stencil.Decimal

open Binary64

/-! ## The digits that are chosen -/

/-- The exact decimal of a number is the number. -/
theorem value_exact (mantissa : Nat) (exponent : Int) :
    value (exact mantissa exponent) = mantissa * 2 ^ exponent := by
  rw [exact]
  split
  case isTrue h =>
    obtain ⟨n, rfl⟩ : ∃ n : Nat, exponent = -n := ⟨exponent.natAbs, by omega⟩
    rw [Int.natAbs_neg, Int.natAbs_natCast, value_mk, zpow_neg, zpow_neg, zpow_natCast,
      zpow_natCast, show (10 : ℚ) = 5 * 2 by norm_num, mul_pow]
    push_cast [Nat.pow_eq]
    field_simp
  case isFalse h =>
    obtain ⟨n, rfl⟩ : ∃ n : Nat, exponent = n := ⟨exponent.toNat, by omega⟩
    rw [Int.toNat_natCast, value_mk, zpow_natCast, zpow_zero, mul_one]
    push_cast [Nat.pow_eq]
    rfl

/-- Zeros taken from the end of the digits go into the power. -/
theorem value_trimmed (fuel : Nat) (d : Decimal) : value (trimmed fuel d) = value d := by
  induction fuel generalizing d with
  | zero => rfl
  | succ fuel ih =>
      rw [trimmed]
      split
      case isFalse => rfl
      case isTrue h =>
        have hten : d.digits % 10 = 0 := by simp at h; exact h.2
        have hdigits : d.digits = d.digits / 10 * 10 ^ 1 := by omega
        rw [ih, ← value_mul_pow _ 1, ← hdigits, Nat.cast_one, add_sub_cancel_right]

/-- What is found on a grid rounds to the number looked for. -/
theorem nearestTo_of_onGrid? {target : Binary64} {num den count : Nat} {d : Decimal}
    (h : onGrid? target num den count = some d) : nearestTo false (value d) = target := by
  have hd : ((d.toBinary false == target) : Bool) = true := by
    rw [onGrid?] at h
    exact List.find?_some (p := fun candidate : Decimal => candidate.toBinary false == target) h
  rw [← beq_iff_eq.mp hd]
  exact (ofDecimal_eq false d.digits d.power).symm

/-- The digits that are written for a number round to it. -/
theorem nearestTo_shortest (negative : Bool) {mantissa : Nat} {exponent : Int}
    (h : (Binary64.finite negative mantissa exponent).IsCanonical) :
    nearestTo negative (value (shortest mantissa exponent))
      = .finite negative mantissa exponent := by
  have hfalse : (Binary64.finite false mantissa exponent).IsCanonical := h
  rcases Nat.eq_zero_or_pos mantissa with rfl | hpos
  · have hzero := nearestTo_finite negative h
    rw [Nat.cast_zero, zero_mul] at hzero
    show nearestTo negative (value ⟨0, 0⟩) = _
    rw [value_mk, Nat.cast_zero, zero_mul, hzero]
  refine nearestTo_sign false negative ?_
  rw [shortest, if_neg (by simpa using hpos.ne'), value_trimmed]
  generalize hfound : List.findSome? _ _ = found
  -- if no grid holds a candidate, the exact decimal is written
  cases found with
  | none => rw [Option.getD_none, value_exact, nearestTo_finite false hfalse]
  | some d =>
      obtain ⟨count, _, hgrid⟩ := List.exists_of_findSome?_eq_some hfound
      rw [Option.getD_some]
      exact nearestTo_of_onGrid? hgrid

/-! ## Digits -/

theorem decimal_eq_ofDigitChars (digits : List Char) :
    Digits.decimal digits = Nat.ofDigitChars 10 digits 0 := by
  rw [Digits.decimal, Nat.ofDigitChars_eq_foldl]
  simp only [Nat.mul_comm]
  rfl

theorem decimal_digitsOf (n : Nat) : Digits.decimal (digitsOf n) = n := by
  rw [decimal_eq_ofDigitChars]
  exact Nat.ofDigitChars_ten_toDigits

/-- Zeros before digits do not count. -/
theorem decimal_zeros_append (count : Nat) (digits : List Char) :
    Digits.decimal (List.replicate count '0' ++ digits) = Digits.decimal digits := by
  rw [decimal_eq_ofDigitChars, Nat.ofDigitChars_append, Nat.ofDigitChars_replicate_zero,
    Nat.mul_zero, decimal_eq_ofDigitChars]

/-- Zeros behind digits multiply by powers of ten. -/
theorem decimal_append_zeros (digits : List Char) (count : Nat) :
    Digits.decimal (digits ++ List.replicate count '0') = Digits.decimal digits * 10 ^ count := by
  rw [decimal_eq_ofDigitChars, Nat.ofDigitChars_append, Nat.ofDigitChars_replicate_zero,
    decimal_eq_ofDigitChars, Nat.mul_comm]

theorem isDigit_of_mem_digitsOf {n : Nat} {c : Char} (hc : c ∈ digitsOf n) : c.isDigit :=
  Nat.isDigit_of_mem_toDigits (by decide) (by decide) hc

/-- The digits of a positive natural do not begin with a zero. -/
theorem head?_digitsOf {n : Nat} (hn : 0 < n) : (digitsOf n).head? ≠ some '0' := by
  rw [digitsOf]
  induction n using Nat.strongRecOn with
  | ind n ih =>
      rcases Nat.lt_or_ge n 10 with hsmall | hlarge
      · rw [Nat.toDigits_of_lt_base hsmall]
        have hall : ∀ m < 10, 0 < m → [m.digitChar].head? ≠ some '0' := by decide
        exact hall n hsmall hn
      · rw [Nat.toDigits_of_base_le (by decide) hlarge,
          List.head?_append_of_ne_nil _ Nat.toDigits_ne_nil]
        exact ih (n / 10) (by omega) (by omega)

end Stencil.Decimal

/-! ## The parts of a number in a text -/

namespace Stencil.Json

open Text Binary64 Decimal

/-- A text that does not go on with a number before it. -/
def EndsNumber : List Char → Prop
  | [] => True
  | c :: _ => c.isDigit = false ∧ c ≠ '.' ∧ c ≠ 'e' ∧ c ≠ 'E'

/-- The digits before the point: one zero, or all there are. -/
def wholeAndRest (cs : List Char) : List Char × List Char :=
  match cs with
  | '0' :: rest => (['0'], rest)
  | cs => spanDigits cs

theorem spanDigits_append {digits rest : List Char} (hdigits : ∀ c ∈ digits, c.isDigit)
    (hrest : ∀ c ∈ rest.head?, c.isDigit = false) :
    spanDigits (digits ++ rest) = (digits, rest) := by
  rw [spanDigits, List.takeWhile_append_of_pos hdigits, List.dropWhile_append_of_pos hdigits]
  cases rest with
  | nil => rw [List.takeWhile_nil, List.dropWhile_nil, List.append_nil]
  | cons c cs =>
      have hc : ¬ c.isDigit = true := by simp [hrest c rfl]
      rw [List.takeWhile_cons_of_neg hc, List.dropWhile_cons_of_neg hc, List.append_nil]

theorem wholeAndRest_zero (rest : List Char) : wholeAndRest ('0' :: rest) = (['0'], rest) := rfl

theorem wholeAndRest_append {digits rest : List Char} (hdigits : ∀ c ∈ digits, c.isDigit)
    (hne : digits ≠ []) (hhead : digits.head? ≠ some '0')
    (hrest : ∀ c ∈ rest.head?, c.isDigit = false) :
    wholeAndRest (digits ++ rest) = (digits, rest) := by
  obtain ⟨c, cs, rfl⟩ := List.exists_cons_of_ne_nil hne
  rw [← spanDigits_append hdigits hrest]
  unfold wholeAndRest
  split
  case h_1 heq =>
    injection heq with hc _
    exact absurd (congrArg some hc) hhead
  case h_2 => rfl

theorem placesAndRest_point {places rest : List Char} (hplaces : ∀ c ∈ places, c.isDigit)
    (hne : places ≠ []) (hrest : ∀ c ∈ rest.head?, c.isDigit = false) :
    placesAndRest ('.' :: (places ++ rest)) = (places, rest) := by
  cases places with
  | nil => exact absurd rfl hne
  | cons c cs =>
      rw [placesAndRest]
      simp only [spanDigits_append hplaces hrest]

theorem placesAndRest_of_ne {c : Char} (rest : List Char) (hc : c ≠ '.') :
    placesAndRest (c :: rest) = ([], c :: rest) := by
  unfold placesAndRest
  split
  case h_1 heq =>
    injection heq with h _
    exact absurd h hc
  case h_2 => rfl

theorem powerAndRest_of_ends {rest : List Char} (hrest : EndsNumber rest) :
    powerAndRest rest = (none, rest) := by
  cases rest with
  | nil => rfl
  | cons c cs =>
      obtain ⟨_, _, hlower, hupper⟩ := hrest
      have hmark : ¬ (c == 'e' || c == 'E') = true := by simp [hlower, hupper]
      simp only [powerAndRest, if_neg hmark]

theorem powerAndRest_mark {sign : Char} {negative : Bool} {size rest : List Char}
    (hsign : Numeral.signAndRest (sign :: (size ++ rest)) = (negative, size ++ rest))
    (hsize : ∀ c ∈ size, c.isDigit) (hne : size ≠ [])
    (hrest : ∀ c ∈ rest.head?, c.isDigit = false) :
    powerAndRest ('e' :: sign :: (size ++ rest))
      = (some (if negative then -(Digits.decimal size : Int) else Digits.decimal size), rest) := by
  obtain ⟨c, cs, rfl⟩ := List.exists_cons_of_ne_nil hne
  simp only [powerAndRest, beq_self_eq_true, Bool.true_or, if_true, hsign,
    spanDigits_append hsize hrest]

/-- The exponent of a number as it is written. -/
theorem powerAndRest_scientific {exponent : Int} {size rest : List Char}
    (hsize : ∀ c ∈ size, c.isDigit) (hne : size ≠ [])
    (hvalue : Digits.decimal size = exponent.natAbs)
    (hrest : ∀ c ∈ rest.head?, c.isDigit = false) :
    powerAndRest ('e' :: (if exponent < 0 then '-' else '+') :: (size ++ rest))
      = (some exponent, rest) := by
  split
  case isTrue hneg =>
    rw [powerAndRest_mark rfl hsize hne hrest, if_pos rfl, hvalue]
    congr 2
    omega
  case isFalse hpos =>
    rw [powerAndRest_mark rfl hsize hne hrest, if_neg (by decide), hvalue]
    congr 2
    omega

/-- A number behind its whole part. -/
theorem numberAndRest?_eq {negative : Bool} {cs digits rest : List Char} {c : Char}
    (hwhole : wholeAndRest cs = (c :: digits, rest)) :
    numberAndRest? negative cs
      = if (placesAndRest rest).1.isEmpty && (powerAndRest (placesAndRest rest).2).1.isNone then
          if Digits.most < (c :: digits).length then none
          else some (.int (if negative then -(Digits.decimal (c :: digits) : Int)
            else (Digits.decimal (c :: digits) : Int)), (powerAndRest (placesAndRest rest).2).2)
        else some (.real (Numeral.nearest negative
          (Digits.decimal (c :: digits ++ (placesAndRest rest).1))
          ((powerAndRest (placesAndRest rest).2).1.getD 0 - ((placesAndRest rest).1.length : Int))),
          (powerAndRest (placesAndRest rest).2).2) := by
  unfold numberAndRest?
  extract_lets whole
  have hstart : whole = (c :: digits, rest) := hwhole
  rw [hstart]

/-- A number with places or an exponent is the rational of its parts, rounded once. -/
theorem numberAndRest?_of_parts (negative : Bool) {cs whole places afterWhole afterPlaces rest :
    List Char} {power : Option Int} (hwhole : wholeAndRest cs = (whole, afterWhole))
    (hne : whole ≠ []) (hplaces : placesAndRest afterWhole = (places, afterPlaces))
    (hpower : powerAndRest afterPlaces = (power, rest)) (hreal : places ≠ [] ∨ power ≠ none) :
    numberAndRest? negative cs
      = some (.real (nearestTo negative
          (value ⟨Digits.decimal (whole ++ places), power.getD 0 - places.length⟩)), rest) := by
  obtain ⟨c, digits, rfl⟩ := List.exists_cons_of_ne_nil hne
  rw [numberAndRest?_eq hwhole, hplaces]
  simp only
  rw [hpower]
  simp only
  have hint : (places.isEmpty && power.isNone) = false := by
    rcases hreal with h | h
    · simp [h]
    · cases power with
      | none => exact absurd rfl h
      | some => simp
  rw [if_neg (by simp [hint]), nearest_eq]

theorem placesAndRest_of_ends {rest : List Char} (h : EndsNumber rest) :
    placesAndRest rest = ([], rest) := by
  cases rest with
  | nil => rfl
  | cons c cs => exact placesAndRest_of_ne cs h.2.1

/-- A number without places and exponent is an integer. -/
theorem numberAndRest?_whole {cs digits rest : List Char}
    (hwhole : wholeAndRest cs = (digits, rest)) (hne : digits ≠ [])
    (hlength : digits.length ≤ Digits.most) (hrest : EndsNumber rest) :
    numberAndRest? false cs = some (.int (Digits.decimal digits), rest) := by
  obtain ⟨c, ds, rfl⟩ := List.exists_cons_of_ne_nil hne
  rw [numberAndRest?_eq hwhole, placesAndRest_of_ends hrest]
  simp only
  rw [powerAndRest_of_ends hrest]
  simp only
  rw [if_pos (by rfl), if_neg (Nat.not_lt.mpr hlength), if_neg Bool.false_ne_true]

theorem EndsNumber.isDigit_head {rest : List Char} (h : EndsNumber rest) :
    ∀ c ∈ rest.head?, c.isDigit = false := by
  intro c hc
  cases rest with
  | nil => cases hc
  | cons d ds =>
      cases hc
      exact h.1

/-! ## A decimal is read back -/

theorem digitsOf_ne_nil (n : Nat) : digitsOf n ≠ [] :=
  List.ne_nil_of_length_pos (digitsOf_length_pos n)

theorem isDigit_of_mem_zeros_append (count : Nat) {digits : List Char}
    (hdigits : ∀ c ∈ digits, c.isDigit) : ∀ c ∈ List.replicate count '0' ++ digits, c.isDigit := by
  intro c hc
  rcases List.mem_append.mp hc with h | h
  · rw [List.eq_of_mem_replicate h]
    rfl
  · exact hdigits c h

/-- A decimal below one, with its point. -/
theorem numberAndRest?_positional_low (negative : Bool) (n : Nat) {point : Int} {rest : List Char}
    (hpoint : point ≤ 0) (hrest : EndsNumber rest) :
    numberAndRest? negative (Numeral.positional (digitsOf n) point ++ rest)
      = some (.real (nearestTo negative (value ⟨n, point - (digitsOf n).length⟩)), rest) := by
  have hplaces := isDigit_of_mem_zeros_append point.natAbs
    (fun c hc => @isDigit_of_mem_digitsOf n c hc)
  have hne : List.replicate point.natAbs '0' ++ digitsOf n ≠ [] := by
    simp [digitsOf_ne_nil]
  have hdecimal :
      Digits.decimal (['0'] ++ (List.replicate point.natAbs '0' ++ digitsOf n)) = n := by
    rw [← List.append_assoc, show ['0'] = List.replicate 1 '0' from rfl,
      List.replicate_append_replicate, decimal_zeros_append, decimal_digitsOf]
  rw [Numeral.positional, if_pos hpoint]
  show numberAndRest? negative
    ('0' :: '.' :: ((List.replicate point.natAbs '0' ++ digitsOf n) ++ rest)) = _
  rw [numberAndRest?_of_parts negative (wholeAndRest_zero _) (by decide)
    (placesAndRest_point hplaces hne hrest.isDigit_head) (powerAndRest_of_ends hrest) (.inl hne),
    hdecimal]
  congr 6
  simp only [Option.getD_none, List.length_append, List.length_replicate]
  omega

/-- A decimal of at least one, with its point. -/
theorem numberAndRest?_positional_high (negative : Bool) {n : Nat} {point : Int} {rest : List Char}
    (hn : 0 < n) (hpoint : 0 < point) (hrest : EndsNumber rest) :
    numberAndRest? negative (Numeral.positional (digitsOf n) point ++ rest)
      = some (.real (nearestTo negative (value ⟨n, point - (digitsOf n).length⟩)), rest) := by
  have hdigits : ∀ c ∈ digitsOf n, c.isDigit := fun c hc => isDigit_of_mem_digitsOf hc
  have hhead := head?_digitsOf hn
  have hne := digitsOf_ne_nil n
  have hvalue := decimal_digitsOf n
  obtain ⟨count, rfl⟩ : ∃ count : Nat, point = count := ⟨point.toNat, by omega⟩
  rw [Numeral.positional, if_neg (by omega), Int.toNat_natCast]
  simp only
  generalize digitsOf n = digits at *
  have hpointDigit : ∀ places : List Char, ∀ c ∈ ('.' :: (places ++ rest)).head?,
      c.isDigit = false := by
    intro places c hc
    cases hc
    rfl
  rcases Nat.lt_or_ge count digits.length with hinside | hbeyond
  · -- the point stands among the digits
    have hwhole : ∀ c ∈ digits.take count, c.isDigit := fun c hc =>
      hdigits c (List.mem_of_mem_take hc)
    have hplaces : ∀ c ∈ digits.drop count, c.isDigit := fun c hc =>
      hdigits c (List.mem_of_mem_drop hc)
    have hwholeNe : digits.take count ≠ [] := by
      rw [Ne, List.take_eq_nil_iff]
      rintro (h | h)
      · omega
      · exact hne h
    have hplacesNe : digits.drop count ≠ [] := by
      rw [Ne, List.drop_eq_nil_iff]
      omega
    have hwholeHead : (digits.take count).head? ≠ some '0' := by
      rw [List.head?_take, if_neg (by omega)]
      exact hhead
    rw [show count - digits.length = 0 by omega, List.replicate_zero, List.append_nil,
      if_neg (by simpa using hinside), List.append_assoc, List.cons_append,
      numberAndRest?_of_parts negative
        (wholeAndRest_append hwhole hwholeNe hwholeHead (hpointDigit _)) hwholeNe
        (placesAndRest_point hplaces hplacesNe hrest.isDigit_head) (powerAndRest_of_ends hrest)
        (.inl hplacesNe), List.take_append_drop, hvalue]
    congr 6
    simp only [Option.getD_none, List.length_drop]
    omega
  · -- the point stands behind the digits and their zeros
    have hwhole : ∀ c ∈ digits ++ List.replicate (count - digits.length) '0', c.isDigit := by
      intro c hc
      rcases List.mem_append.mp hc with h | h
      · exact hdigits c h
      · rw [List.eq_of_mem_replicate h]
        rfl
    have hwholeNe : digits ++ List.replicate (count - digits.length) '0' ≠ [] := by
      simp [hne]
    have hwholeHead : (digits ++ List.replicate (count - digits.length) '0').head? ≠ some '0' := by
      rw [List.head?_append_of_ne_nil _ hne]
      exact hhead
    rw [List.take_of_length_le hbeyond, List.drop_of_length_le hbeyond, if_pos List.isEmpty_nil,
      List.append_assoc, List.cons_append,
      numberAndRest?_of_parts negative
        (wholeAndRest_append hwhole hwholeNe hwholeHead (hpointDigit _)) hwholeNe
        (placesAndRest_point (List.forall_mem_singleton.mpr rfl) (by decide) hrest.isDigit_head)
        (powerAndRest_of_ends hrest) (.inl (by decide)), List.append_assoc,
      show ['0'] = List.replicate 1 '0' from rfl, List.replicate_append_replicate,
      decimal_append_zeros, hvalue, ← value_mul_pow n (count - digits.length + 1)]
    congr 6
    simp only [Option.getD_none, List.length_replicate]
    omega

/-- A decimal with an exponent. -/
theorem numberAndRest?_scientific (negative : Bool) {n : Nat} {exponent : Int} {rest : List Char}
    (hn : 0 < n) (hrest : EndsNumber rest) :
    numberAndRest? negative (Numeral.scientific (digitsOf n) exponent ++ rest)
      = some (.real (nearestTo negative (value ⟨n, exponent + 1 - (digitsOf n).length⟩)),
          rest) := by
  have hdigits : ∀ c ∈ digitsOf n, c.isDigit := fun c hc => isDigit_of_mem_digitsOf hc
  have hvalue := decimal_digitsOf n
  have hhead := head?_digitsOf hn
  have hsize := isDigit_of_mem_zeros_append (2 - (digitsOf exponent.natAbs).length)
    (fun c hc => @isDigit_of_mem_digitsOf exponent.natAbs c hc)
  have hsizeNe : List.replicate (2 - (digitsOf exponent.natAbs).length) '0'
      ++ digitsOf exponent.natAbs ≠ [] := by
    simp [digitsOf_ne_nil]
  have hsizeValue : Digits.decimal (List.replicate (2 - (digitsOf exponent.natAbs).length) '0'
      ++ digitsOf exponent.natAbs) = exponent.natAbs := by
    rw [decimal_zeros_append, decimal_digitsOf]
  have hpower := powerAndRest_scientific hsize hsizeNe hsizeValue hrest.isDigit_head
  unfold Numeral.scientific
  simp only
  generalize List.replicate (2 - (digitsOf exponent.natAbs).length) '0'
    ++ digitsOf exponent.natAbs = size at *
  obtain ⟨c, places, hcons⟩ := List.exists_cons_of_ne_nil (digitsOf_ne_nil n)
  rw [hcons] at hdigits hvalue hhead ⊢
  have hwhole : ∀ d ∈ [c], d.isDigit := fun d hd => hdigits d (by simp_all)
  have hplaces : ∀ d ∈ places, d.isDigit := fun d hd => hdigits d (List.mem_cons_of_mem c hd)
  rw [List.take_one, List.head?_cons, Option.toList_some, List.drop_one, List.tail_cons]
  -- a single digit is written without a point
  cases places with
  | nil =>
      rw [show ([c] ++ (if ([] : List Char).isEmpty then [] else '.' :: [])
          ++ 'e' :: (if exponent < 0 then '-' else '+') :: size) ++ rest
          = [c] ++ 'e' :: (if exponent < 0 then '-' else '+') :: (size ++ rest) by simp,
        numberAndRest?_of_parts negative
          (wholeAndRest_append hwhole (by simp) hhead (by intro d hd; cases hd; rfl)) (by simp)
          (placesAndRest_of_ne _ (by decide)) hpower (.inr (by simp)), List.append_nil, hvalue]
      congr 6
      simp
  | cons d ds =>
      rw [show ([c] ++ (if (d :: ds).isEmpty then [] else '.' :: d :: ds)
          ++ 'e' :: (if exponent < 0 then '-' else '+') :: size) ++ rest
          = [c] ++ '.' :: ((d :: ds) ++ 'e' :: (if exponent < 0 then '-' else '+')
            :: (size ++ rest)) by simp,
        numberAndRest?_of_parts negative
          (wholeAndRest_append hwhole (by simp) hhead (by intro d hd; cases hd; rfl)) (by simp)
          (placesAndRest_point hplaces (by simp) (by intro d hd; cases hd; rfl)) hpower
          (.inl (by simp)), List.singleton_append, hvalue]
      congr 6
      simp only [Option.getD_some, List.length_cons]
      omega

/-- A decimal that is written is read back as what it rounds to. -/
theorem numberAndRest?_decimalText (negative : Bool) (d : Decimal) {rest : List Char}
    (hrest : EndsNumber rest) :
    numberAndRest? negative (Numeral.decimalText d ++ rest)
      = some (.real (nearestTo negative d.value), rest) := by
  rw [Numeral.decimalText]
  rcases Nat.eq_zero_or_pos d.digits with hzero | hpos
  · simp only [hzero, beq_self_eq_true, if_true]
    rw [show ['0', '.', '0'] ++ rest = '0' :: '.' :: (['0'] ++ rest) from rfl,
      numberAndRest?_of_parts negative (wholeAndRest_zero _) (by decide)
        (placesAndRest_point (List.forall_mem_singleton.mpr rfl) (by decide) hrest.isDigit_head)
        (powerAndRest_of_ends hrest) (.inl (by decide))]
    unfold value
    rw [hzero, show Digits.decimal (['0'] ++ ['0']) = 0 from rfl, Nat.cast_zero, zero_mul, zero_mul]
  have hvalue : value ⟨d.digits, (digitsOf d.digits).length + d.power - (digitsOf d.digits).length⟩
      = d.value := by
    rw [add_sub_cancel_left]
  simp only [beq_iff_eq, hpos.ne', if_false]
  split
  case isTrue hpositional =>
    rcases lt_or_ge 0 ((digitsOf d.digits).length + d.power) with hhigh | hlow
    · rw [numberAndRest?_positional_high negative hpos hhigh hrest, hvalue]
    · rw [numberAndRest?_positional_low negative d.digits hlow hrest, hvalue]
  case isFalse hscientific =>
    rw [numberAndRest?_scientific negative hpos hrest, sub_add_cancel, hvalue]

/-! ## A number is read back -/

/-- A natural is read back. -/
theorem numberAndRest?_digitsOf {n : Nat} (hlength : (digitsOf n).length ≤ Digits.most)
    {rest : List Char} (hrest : EndsNumber rest) :
    numberAndRest? false (digitsOf n ++ rest) = some (.int n, rest) := by
  rcases Nat.eq_zero_or_pos n with rfl | hpos
  · exact numberAndRest?_whole (wholeAndRest_zero rest) (by decide) hlength hrest
  · rw [numberAndRest?_whole (wholeAndRest_append (fun c hc => isDigit_of_mem_digitsOf hc)
      (digitsOf_ne_nil n) (head?_digitsOf hpos) hrest.isDigit_head) (digitsOf_ne_nil n) hlength
      hrest, decimal_digitsOf]

/-- A decimal begins with a digit. -/
theorem decimalText_cons (d : Decimal) :
    ∃ c cs, Numeral.decimalText d = c :: cs ∧ c.isDigit := by
  obtain ⟨c, cs, hcons⟩ := List.exists_cons_of_ne_nil (digitsOf_ne_nil d.digits)
  have hc : c.isDigit := isDigit_of_mem_digitsOf (hcons ▸ List.mem_cons_self)
  unfold Numeral.decimalText
  simp only
  split
  case isTrue => exact ⟨'0', ['.', '0'], rfl, rfl⟩
  case isFalse =>
    split
    case isTrue =>
      rw [Numeral.positional]
      split
      case isTrue => exact ⟨'0', _, rfl, rfl⟩
      case isFalse hpoint =>
        obtain ⟨count, hcount⟩ : ∃ count, ((digitsOf d.digits).length + d.power : Int).toNat
            = count + 1 := ⟨((digitsOf d.digits).length + d.power : Int).toNat - 1, by omega⟩
        rw [hcount, hcons]
        exact ⟨c, _, rfl, hc⟩
    case isFalse =>
      rw [Numeral.scientific, hcons]
      exact ⟨c, _, rfl, hc⟩

/-- None of the names begins with a digit. -/
theorem named_of_isDigit {c : Char} (hc : c.isDigit) (cs : List Char) :
    names.findSome? (fun (name, doc) => (rest? name (c :: cs)).map fun rest => (doc, rest))
      = none := by
  have hhead : ∀ name ∈ names.map Prod.fst, name.head?.any (fun d => !d.isDigit) = true := by
    decide
  rw [List.findSome?_eq_none_iff]
  rintro ⟨name, doc⟩ hmem
  obtain ⟨d, hd, hdigit⟩ := (Option.any_eq_true _ _).mp (hhead name (List.mem_map_of_mem hmem))
  rw [Bool.not_eq_true'] at hdigit
  obtain ⟨ds, rfl⟩ := List.head?_eq_some_iff.mp hd
  have hne : (d == c) = false := by
    rw [beq_eq_false_iff_ne]
    rintro rfl
    rw [hc] at hdigit
    cases hdigit
  simp [rest?, hne]

/-- What begins with a digit is a number. -/
theorem leafAndRest?_of_isDigit {c : Char} (hc : c.isDigit) (cs : List Char) :
    leafAndRest? (c :: cs) = numberAndRest? false (c :: cs) := by
  have hsign : c ≠ '-' := by
    rintro rfl
    cases hc
  unfold leafAndRest?
  rw [named_of_isDigit hc]
  simp only
  split
  case h_1 heq =>
    injection heq with h _
    exact absurd h hsign
  case h_2 => rfl

/-- None of the names begins with a sign and a digit. -/
theorem named_of_sign {c : Char} (hc : c.isDigit) (cs : List Char) :
    names.findSome? (fun (name, doc) => (rest? name ('-' :: c :: cs)).map fun rest => (doc, rest))
      = none := by
  have hinfinity : ('I' == c) = false := by
    rw [beq_eq_false_iff_ne]
    rintro rfl
    cases hc
  simp [names, rest?, hinfinity]

/-- A number of canonical form is read back as it was written. -/
theorem leafAndRest?_writeReal {x : Binary64} (hx : x.IsCanonical) {rest : List Char}
    (hrest : EndsNumber rest) :
    leafAndRest? (writeReal x ++ rest) = some (.real x, rest) := by
  match x, hx with
  | .nan, _ => simp [leafAndRest?, writeReal, names, rest?]
  | .infinite true, _ => simp [leafAndRest?, writeReal, names, rest?]
  | .infinite false, _ => simp [leafAndRest?, writeReal, names, rest?]
  | .finite false mantissa exponent, hx =>
      obtain ⟨c, cs, hcons, hc⟩ := decimalText_cons (shortest mantissa exponent)
      have hread := numberAndRest?_decimalText false (shortest mantissa exponent) hrest
      rw [nearestTo_shortest false hx, hcons, List.cons_append] at hread
      show leafAndRest? ((Numeral.realText (.finite false mantissa exponent)).toList ++ rest) = _
      simp only [Numeral.realText, Bool.false_eq_true, if_false, String.toList_ofList]
      rw [hcons, List.cons_append, leafAndRest?_of_isDigit hc, hread]
  | .finite true mantissa exponent, hx =>
      obtain ⟨c, cs, hcons, hc⟩ := decimalText_cons (shortest mantissa exponent)
      have hread := numberAndRest?_decimalText true (shortest mantissa exponent) hrest
      rw [nearestTo_shortest true hx, hcons, List.cons_append] at hread
      show leafAndRest? ((Numeral.realText (.finite true mantissa exponent)).toList ++ rest) = _
      simp only [Numeral.realText, if_true, String.toList_ofList]
      rw [hcons, List.cons_append, List.cons_append, leafAndRest?, named_of_sign hc]
      exact hread

end Stencil.Json
