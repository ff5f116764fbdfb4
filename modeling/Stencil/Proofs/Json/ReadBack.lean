import Stencil.Proofs.Number.ReadBack

/-! # JSON read back — a written object is the object it was

    A text is read back because every character is escaped to something that
    reads as its own code point, and because no character is half of a pair of
    surrogates.  An object of texts and numbers is read back member by member:
    what stands behind a member never goes on with the number before it.

    Headline: `read?_line_object`. -/

namespace Stencil.Json

open Text

/-! ## Texts -/

/-- The code unit that four digits of an escape name. -/
def unitOf? : List Char → Option Nat
  | [a, b, c, d] => unit? a b c d
  | _ => none

/-- The escape of a control character names its code point. -/
theorem unitsAndRest?_control {n : Nat} (hn : n < 32) (cs : List Char) :
    unitsAndRest? ('\\' :: 'u' :: hexDigits 4 n ++ cs)
      = (unitsAndRest? cs).map fun (units, rest) => (n :: units, rest) := by
  have hall : ∀ n < 32, unitOf? (hexDigits 4 n) = some n := by decide
  have hdigits := hall n hn
  unfold unitOf? at hdigits
  split at hdigits
  case h_1 a b c d heq =>
    rw [heq]
    show unitsAndRest? ('\\' :: 'u' :: a :: b :: c :: d :: cs) = _
    rw [unitsAndRest?, hdigits]
    cases unitsAndRest? cs <;> rfl
  case h_2 => cases hdigits

/-- What a character is escaped to reads as its code point. -/
theorem unitsAndRest?_escapedChar (c : Char) (cs : List Char) :
    unitsAndRest? (escapedChar c ++ cs)
      = (unitsAndRest? cs).map fun (units, rest) => (c.toNat :: units, rest) := by
  have named (d : Char) (u : Nat) (hd : d ≠ 'u') (hu : namedEscape? d = some u) :
      unitsAndRest? ('\\' :: d :: cs)
        = (unitsAndRest? cs).map fun (units, rest) => (u :: units, rest) := by
    rw [unitsAndRest?, hu]
    · cases unitsAndRest? cs <;> rfl
    · rintro _ _ _ _ _ rfl
      exact absurd rfl hd
  unfold escapedChar
  split
  case h_1 => exact named '"' 34 (by decide) rfl
  case h_2 => exact named '\\' 92 (by decide) rfl
  case h_3 => exact named 'n' 10 (by decide) rfl
  case h_4 => exact named 'r' 13 (by decide) rfl
  case h_5 => exact named 't' 9 (by decide) rfl
  case h_6 hquote hbackslash _ _ _ =>
    split
    case isTrue h =>
      rw [beq_iff_eq.mp h]
      exact named 'b' 8 (by decide) rfl
    case isFalse =>
      split
      case isTrue h =>
        rw [beq_iff_eq.mp h]
        exact named 'f' 12 (by decide) rfl
      case isFalse =>
        split
        case isTrue h => exact unitsAndRest?_control h cs
        case isFalse h =>
          show unitsAndRest? (c :: cs) = _
          rw [unitsAndRest?.eq_5 c cs (by rintro rfl; exact hquote rfl)
            (by rintro _ _ _ _ _ rfl; exact absurd rfl hbackslash)
            (by rintro _ _ rfl; exact absurd rfl hbackslash)]
          rw [if_neg (by simp [h, show c ≠ '\\' from hbackslash])]

theorem unitsAndRest?_escaped (text rest : List Char) :
    unitsAndRest? (text.flatMap escapedChar ++ '"' :: rest)
      = some (text.map Char.toNat, rest) := by
  induction text with
  | nil => rfl
  | cons c cs ih =>
      rw [List.flatMap_cons, List.append_assoc, unitsAndRest?_escapedChar, ih]
      rfl

/-- The code points of characters are no surrogates, so they join to the same characters. -/
theorem joinUnits_map_toNat (text : List Char) : joinUnits (text.map Char.toNat) = text := by
  have hscalar (c : Char) : ¬ (0xD800 ≤ c.toNat ∧ c.toNat < 0xE000) := by
    have hvalid : c.toNat.isValidChar := c.valid
    rw [Nat.isValidChar] at hvalid
    omega
  induction text with
  | nil => rfl
  | cons c cs ih =>
      have hc := hscalar c
      cases cs with
      | nil =>
          show [if (decide (0xD800 ≤ c.toNat) && decide (c.toNat < 0xE000)) = true then _
            else _] = _
          rw [if_neg (by simpa using hc), Char.ofNat_toNat]
      | cons d ds =>
          -- a pair is joined only if its first half is a surrogate, which no character is
          rw [List.map_cons] at ih
          rw [List.map_cons, List.map_cons, joinUnits, ih, if_neg, if_neg, Char.ofNat_toNat]
          · simpa using hc
          · simp only [Bool.and_eq_true, decide_eq_true_eq]
            omega

/-- A written text is read back. -/
theorem textAndRest?_writeText (s : String) (rest : List Char) :
    textAndRest? (s.toList.flatMap escapedChar ++ '"' :: rest) = some (s, rest) := by
  rw [textAndRest?, unitsAndRest?_escaped, Option.map_some]
  simp only [joinUnits_map_toNat, String.ofList_toList]

/-! ## Leaves -/

theorem endsNumber_comma (rest : List Char) : EndsNumber (',' :: rest) :=
  ⟨rfl, by decide, by decide, by decide⟩

theorem endsNumber_brace (rest : List Char) : EndsNumber ('\x7d' :: rest) :=
  ⟨rfl, by decide, by decide, by decide⟩

/-- Whether a document is read back, whatever follows it that ends a number. -/
def ReadsBack (doc : Json) : Prop :=
  ∀ (fuel : Nat) (rest : List Char), EndsNumber rest →
    docAndRest? (fuel + 1) (write doc ++ rest) = some (doc, rest)

theorem docAndRest?_gap (fuel : Nat) (cs : List Char) :
    docAndRest? (fuel + 1) (' ' :: cs) = docAndRest? (fuel + 1) cs := by
  simp only [docAndRest?, skipGap, List.dropWhile_cons_of_pos (show isGap ' ' = true from rfl)]

theorem membersAndRest?_gap (fuel : Nat) (found : List (String × Json)) (cs : List Char) :
    membersAndRest? (fuel + 1) found (' ' :: cs) = membersAndRest? (fuel + 1) found cs := by
  simp only [membersAndRest?, skipGap, List.dropWhile_cons_of_pos (show isGap ' ' = true from rfl)]

theorem skipGap_cons {c : Char} (hc : isGap c = false) (cs : List Char) :
    skipGap (c :: cs) = c :: cs :=
  List.dropWhile_cons_of_neg (by simp [hc])

theorem readsBack_text (s : String) : ReadsBack (.text s) := by
  intro fuel rest _
  show docAndRest? (fuel + 1) (writeText s ++ rest) = _
  rw [writeText, List.cons_append, List.append_assoc, List.singleton_append, docAndRest?,
    skipGap_cons rfl]
  simp only [textAndRest?_writeText, Option.map_some]

/-- A document that begins like a number or a name is one. -/
theorem docAndRest?_leaf {c : Char} (hc : c.isAlphanum || c == '-') (fuel : Nat) (cs : List Char) :
    docAndRest? (fuel + 1) (c :: cs) = leafAndRest? (c :: cs) := by
  have hgap : isGap c = false := by
    by_contra h
    simp only [isGap, Bool.not_eq_false, Bool.or_eq_true, beq_iff_eq] at h
    rcases h with ((rfl | rfl) | rfl) | rfl <;> cases hc
  rw [docAndRest?, skipGap_cons hgap]
  split
  case h_1 heq => cases heq; cases hc
  case h_2 heq => cases heq; cases hc
  case h_3 heq => cases heq; cases hc
  case h_4 => rfl

theorem writeReal_cons (x : Binary64) :
    ∃ c cs, writeReal x = c :: cs ∧ (c.isAlphanum || c == '-') := by
  match x with
  | .nan => exact ⟨'N', _, rfl, rfl⟩
  | .infinite true => exact ⟨'-', _, rfl, rfl⟩
  | .infinite false => exact ⟨'I', _, rfl, rfl⟩
  | .finite true mantissa exponent =>
      refine ⟨'-', Numeral.decimalText (Decimal.shortest mantissa exponent), ?_, rfl⟩
      simp [writeReal, Numeral.realText]
  | .finite false mantissa exponent =>
      obtain ⟨c, cs, hcons, hc⟩ := decimalText_cons (Decimal.shortest mantissa exponent)
      refine ⟨c, cs, ?_, ?_⟩
      · simp [writeReal, Numeral.realText, hcons]
      · simp [Char.isAlphanum, hc]

theorem readsBack_real {x : Binary64} (hx : x.IsCanonical) : ReadsBack (.real x) := by
  intro fuel rest hrest
  obtain ⟨c, cs, hcons, hc⟩ := writeReal_cons x
  have hleaf := leafAndRest?_writeReal hx hrest
  rw [hcons, List.cons_append] at hleaf
  show docAndRest? (fuel + 1) (writeReal x ++ rest) = _
  rw [hcons, List.cons_append, docAndRest?_leaf hc, hleaf]

theorem readsBack_nat {n : Nat} (hlength : (Decimal.digitsOf n).length ≤ Digits.most) :
    ReadsBack (.int n) := by
  intro fuel rest hrest
  have htext : (Numeral.intText n).toList = Decimal.digitsOf n := by
    show (toString n).toList = _
    rw [Nat.toString_eq_ofList_toDigits, String.toList_ofList]
    rfl
  obtain ⟨c, cs, hcons⟩ := List.exists_cons_of_ne_nil (digitsOf_ne_nil n)
  have hc : c.isDigit := Decimal.isDigit_of_mem_digitsOf (hcons ▸ List.mem_cons_self)
  have hread := numberAndRest?_digitsOf hlength hrest
  show docAndRest? (fuel + 1) ((Numeral.intText n).toList ++ rest) = _
  rw [htext]
  rw [hcons, List.cons_append] at hread ⊢
  rw [docAndRest?_leaf (by simp [Char.isAlphanum, hc]), leafAndRest?_of_isDigit hc, hread]

/-! ## Objects -/

theorem setMember_of_notMem {key : String} (value : Json) {members : List (String × Json)}
    (h : key ∉ members.map Prod.fst) : setMember key value members = members ++ [(key, value)] := by
  induction members with
  | nil => rfl
  | cons member members ih =>
      obtain ⟨k, v⟩ := member
      rw [List.map_cons, List.mem_cons, not_or] at h
      rw [setMember, if_neg (by simpa using Ne.symm h.1), ih h.2, List.cons_append]

/-- A member that is not the last is read, and then the members behind the comma. -/
theorem membersAndRest?_more {fuel : Nat} {found : List (String × Json)} {key : String}
    {value : Json} (hvalue : ReadsBack value) (hkey : key ∉ found.map Prod.fst) (rest : List Char) :
    membersAndRest? (fuel + 2) found (writeText key ++ ':' :: ' ' :: (write value ++ ',' :: rest))
      = membersAndRest? (fuel + 1) (found ++ [(key, value)]) rest := by
  rw [writeText, List.cons_append, List.append_assoc, List.singleton_append, membersAndRest?,
    skipGap_cons rfl]
  simp only [textAndRest?_writeText]
  rw [skipGap_cons rfl]
  simp only
  rw [docAndRest?_gap, hvalue fuel _ (endsNumber_comma rest)]
  simp only [setMember_of_notMem value hkey, skipGap_cons (show isGap ',' = false from rfl)]

/-- The last member is read, and the object is done. -/
theorem membersAndRest?_last {fuel : Nat} {found : List (String × Json)} {key : String}
    {value : Json} (hvalue : ReadsBack value) (hkey : key ∉ found.map Prod.fst) (rest : List Char) :
    membersAndRest? (fuel + 2) found
        (writeText key ++ ':' :: ' ' :: (write value ++ '\x7d' :: rest))
      = some (.object (found ++ [(key, value)]), rest) := by
  rw [writeText, List.cons_append, List.append_assoc, List.singleton_append, membersAndRest?,
    skipGap_cons rfl]
  simp only [textAndRest?_writeText]
  rw [skipGap_cons rfl]
  simp only
  rw [docAndRest?_gap, hvalue fuel _ (endsNumber_brace rest)]
  simp only [setMember_of_notMem value hkey, skipGap_cons (show isGap '\x7d' = false from rfl)]

/-- The members of an object are read back one after the other. -/
theorem membersAndRest?_writeMembers {members : List (String × Json)} (hne : members ≠ [])
    (hvalues : ∀ member ∈ members, ReadsBack member.2) (fuel : Nat)
    (found : List (String × Json)) (hkeys : ((found ++ members).map Prod.fst).Nodup)
    (hfuel : members.length < fuel) (rest : List Char) :
    membersAndRest? fuel found (writeMembers members ++ '\x7d' :: rest)
      = some (.object (found ++ members), rest) := by
  induction members generalizing fuel found with
  | nil => exact absurd rfl hne
  | cons member members ih =>
      obtain ⟨key, value⟩ := member
      obtain ⟨fuel, rfl⟩ : ∃ n, fuel = n + 2 := ⟨fuel - 2, by simp at hfuel; omega⟩
      have hvalue : ReadsBack value := hvalues (key, value) List.mem_cons_self
      have hkey : key ∉ found.map Prod.fst := by
        rw [List.map_append, List.map_cons, List.nodup_append] at hkeys
        exact fun hmem => hkeys.2.2 key hmem key List.mem_cons_self rfl
      cases members with
      | nil =>
          rw [writeMembers, List.append_assoc, List.cons_append, List.cons_append,
            membersAndRest?_last hvalue hkey]
      | cons next members =>
          have hmore := ih (List.cons_ne_nil next members)
            (fun m hm => hvalues m (List.mem_cons_of_mem _ hm)) (fuel + 1)
            (found ++ [(key, value)]) (by simpa using hkeys) (by simp at hfuel ⊢; omega)
          rw [writeMembers]
          · rw [List.append_assoc, List.cons_append, List.cons_append, List.append_assoc,
              List.cons_append, membersAndRest?_more hvalue hkey, List.cons_append,
              membersAndRest?_gap, hmore, List.append_assoc, List.singleton_append]
          · exact List.cons_ne_nil next members

theorem length_le_writeMembers (members : List (String × Json)) :
    members.length ≤ (writeMembers members).length := by
  induction members with
  | nil => exact Nat.zero_le _
  | cons member members ih =>
      obtain ⟨key, value⟩ := member
      cases members with
      | nil =>
          simp only [writeMembers, List.length_append, List.length_cons, List.length_nil]
          omega
      | cons next members =>
          rw [writeMembers]
          · simp only [List.length_append, List.length_cons] at ih ⊢
            omega
          · exact List.cons_ne_nil _ _

/-- An object that does not close at once is read member after member. -/
theorem docAndRest?_members (fuel : Nat) (cs : List Char) :
    docAndRest? (fuel + 1) ('\x7b' :: '"' :: cs) = membersAndRest? fuel [] ('"' :: cs) := by
  rw [docAndRest?, skipGap_cons rfl]
  rfl

/-- An object whose members are read back, under keys of their own, is read back from its line. -/
theorem read?_line_object {members : List (String × Json)} (hne : members ≠ [])
    (hvalues : ∀ member ∈ members, ReadsBack member.2) (hkeys : (members.map Prod.fst).Nodup) :
    read? (line (.object members)).toList = some (.object members) := by
  have hstart : ∃ cs, writeMembers members ++ ['\x7d'] = '"' :: cs := by
    obtain ⟨⟨key, value⟩, more, rfl⟩ := List.exists_cons_of_ne_nil hne
    cases more <;> exact ⟨_, rfl⟩
  obtain ⟨cs, hcs⟩ := hstart
  have hmembers := membersAndRest?_writeMembers hne hvalues
    ('\x7b' :: (writeMembers members ++ ['\x7d'])).length [] (by simpa using hkeys)
    (by have := length_le_writeMembers members; simp; omega) []
  rw [read?, line, String.toList_ofList, write, hcs, docAndRest?_members]
  rw [hcs] at hmembers
  rw [hmembers]
  rfl

end Stencil.Json
