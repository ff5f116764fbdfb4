import Stencil.Proofs.Directive.Scan

/-! # Spellings — the free choices in writing a tag

    An attribute is written behind a gap of blanks, with free blanks around its
    `=` and a quote of either kind that its value does not hold; blanks are free
    at the end of a tag.  However it is spelled, an attribute is read back
    (`attributeAndRest?_write`) and its text lets the body of its tag end where it
    was written to end (`bodyAndRest?_write`). -/

namespace Stencil.Directive

open Stencil.Text

/-! ## Blanks are no part of names -/

/-- The blanks beyond the basic ones lie outside the class of word characters. -/
theorem inClass_wordBounds_blanks :
    ∀ code ∈ [0x85, 0xa0, 0x1680, 0x2000, 0x2001, 0x2002, 0x2003, 0x2004, 0x2005, 0x2006, 0x2007,
      0x2008, 0x2009, 0x200a, 0x2028, 0x2029, 0x202f, 0x205f, 0x3000],
      inClass wordBounds code = false := by
  decide +kernel

/-- A blank is no word character. -/
theorem isWord_of_isBlank {c : Char} (h : isBlank c = true) : isWord c = false := by
  have hval : c.toNat = c.val.toNat := rfl
  simp only [isBlank, Bool.or_eq_true, Bool.and_eq_true, decide_eq_true_eq, beq_iff_eq] at h
  -- the basic blanks are compared by their codes, the others looked up in the table
  by_cases hlow : c.toNat < 128
  · have hnot : c ≠ '_' := by
      rintro rfl
      have h95 : '_'.toNat = 95 := rfl
      omega
    simp only [isWord, hlow, if_true, Bool.or_eq_false_iff, beq_eq_false_iff_ne]
    refine ⟨?_, hnot⟩
    simp only [Char.isAlphanum, isAlpha_eq, Char.isDigit,
      Bool.or_eq_false_iff, Bool.and_eq_false_iff, decide_eq_false_iff_not,
      UInt32.le_iff_toNat_le, ge_iff_le]
    have hA : 'A'.val.toNat = 65 := rfl
    have hZ : 'Z'.val.toNat = 90 := rfl
    have ha : 'a'.val.toNat = 97 := rfl
    have hz : 'z'.val.toNat = 122 := rfl
    have h0 : '0'.val.toNat = 48 := rfl
    have h9 : '9'.val.toNat = 57 := rfl
    omega
  · have hmem : c.toNat ∈ [0x85, 0xa0, 0x1680, 0x2000, 0x2001, 0x2002, 0x2003, 0x2004, 0x2005,
        0x2006, 0x2007, 0x2008, 0x2009, 0x200a, 0x2028, 0x2029, 0x202f, 0x205f, 0x3000] := by
      simp only [List.mem_cons, List.not_mem_nil, or_false]
      omega
    simp only [isWord, hlow, if_false]
    exact inClass_wordBounds_blanks c.toNat hmem

/-- A character that is not blank differs from all blanks. -/
theorem ne_of_isBlank {c d : Char} (h : isBlank c = true) (hd : isBlank d = false) : c ≠ d := by
  rintro rfl
  exact absurd (h.symm.trans hd) (by decide)

/-- A blank is no character of a key. -/
theorem isKeyChar_of_isBlank {c : Char} (h : isBlank c = true) : isKeyChar c = false := by
  have hcolon : c ≠ ':' := ne_of_isBlank h (by decide)
  have hpoint : c ≠ '.' := ne_of_isBlank h (by decide)
  have hhyphen : c ≠ '-' := ne_of_isBlank h (by decide)
  simp only [isKeyChar, isWord_of_isBlank h, beq_eq_false_iff_ne.mpr hcolon,
    beq_eq_false_iff_ne.mpr hpoint, beq_eq_false_iff_ne.mpr hhyphen, Bool.or_self]

/-- A blank ends a name. -/
theorem endsName_of_isBlank {c : Char} (h : isBlank c = true) : endsName c = true := by
  simp only [endsName, h, Bool.true_or]

/-- A blank is a plain character of a body. -/
theorem isPlain_of_isBlank {c : Char} (h : isBlank c = true) : isPlain c = true := by
  have hdouble : c ≠ '"' := ne_of_isBlank h (by decide)
  have hsingle : c ≠ '\'' := ne_of_isBlank h (by decide)
  have hend : c ≠ '>' := ne_of_isBlank h (by decide)
  simp [isPlain, hdouble, hsingle, hend]

/-- A character of a key is a plain character of a body. -/
theorem isPlain_of_isKeyChar {c : Char} (h : isKeyChar c = true) : isPlain c = true := by
  have hne : ∀ d, isKeyChar d = false → c ≠ d := by
    rintro d hd rfl
    exact absurd (h.symm.trans hd) (by decide)
  have hdouble : c ≠ '"' := hne '"' (by decide)
  have hsingle : c ≠ '\'' := hne '\'' (by decide)
  have hend : c ≠ '>' := hne '>' (by decide)
  simp [isPlain, hdouble, hsingle, hend]

/-! ## Gaps -/

/-- A text of nothing but blanks. -/
abbrev Gap := { text : List Char // allBlank text = true }

/-- Every character of a gap is blank. -/
theorem Gap.isBlank (gap : Gap) : ∀ c ∈ gap.val, isBlank c = true :=
  List.all_eq_true.mp gap.property

/-- A gap in front of a text ends a name. -/
theorem endsName_gap {gap : Gap} (h : gap.val ≠ []) (text : List Char) :
    EndsName (gap.val ++ text) := by
  obtain ⟨c, cs, hgap⟩ := List.exists_cons_of_ne_nil h
  refine ⟨c, cs ++ text, by rw [hgap]; rfl, endsName_of_isBlank ?_⟩
  exact gap.isBlank c (hgap ▸ List.mem_cons_self)

/-- The blanks in front of a text are stripped. -/
theorem stripStart_gap (gap : Gap) (text : List Char) :
    stripStart (gap.val ++ text) = stripStart text :=
  List.dropWhile_append_of_pos gap.isBlank

/-- Nothing is stripped from a text that does not begin with a blank. -/
theorem stripStart_cons {c : Char} (h : isBlank c = false) (cs : List Char) :
    stripStart (c :: cs) = c :: cs := by
  simp [stripStart, h]

/-- A gap is stripped whole. -/
theorem stripStart_gap_nil (gap : Gap) : stripStart gap.val = [] := by
  have h := stripStart_gap gap []
  rwa [List.append_nil] at h

/-! ## Attributes -/

/-- The two kinds of quotes. -/
inductive Quote where
  | single
  | double
deriving DecidableEq, Repr

/-- The character of a quote. -/
def Quote.char : Quote → Char
  | .single => '\''
  | .double => '"'

/-- A key of an attribute: a letter or underscore, then characters of keys. -/
def isKey : List Char → Bool
  | [] => false
  | c :: cs => isNameStart c && cs.all isKeyChar

/-- How an attribute is written: the gaps before it and around its `=`, and its quote. -/
structure Layout where
  gap : Gap
  beforeEquals : Gap
  afterEquals : Gap
  quote : Quote
  gap_ne_nil : gap.val ≠ []

/-- An attribute in a layout. -/
def Layout.write (layout : Layout) (key value : List Char) : List Char :=
  layout.gap.val ++ (key ++ (layout.beforeEquals.val ++ '=' :: (layout.afterEquals.val
    ++ layout.quote.char :: (value ++ [layout.quote.char]))))

/-- Characters of keys before one that is none are taken, and no more. -/
theorem span_key {cs : List Char} (h : ∀ c ∈ cs, isKeyChar c = true) (gap : Gap)
    (text : List Char) :
    (cs ++ (gap.val ++ '=' :: text)).takeWhile isKeyChar = cs
      ∧ (cs ++ (gap.val ++ '=' :: text)).dropWhile isKeyChar = gap.val ++ '=' :: text := by
  have hstop : ∃ c more, gap.val ++ '=' :: text = c :: more ∧ isKeyChar c = false := by
    obtain ⟨blanks, hblanks⟩ := gap
    cases blanks with
    | nil => exact ⟨'=', text, rfl, by decide⟩
    | cons c blanks =>
        refine ⟨c, blanks ++ '=' :: text, rfl, isKeyChar_of_isBlank ?_⟩
        exact List.all_eq_true.mp hblanks c List.mem_cons_self
  obtain ⟨c, more, hmore, hc⟩ := hstop
  rw [hmore]
  constructor
  · rw [List.takeWhile_append_of_pos h]
    simp [hc]
  · rw [List.dropWhile_append_of_pos h]
    simp [hc]

/-- A value is read up to its quote. -/
theorem valueAndRest?_append {q : Char} {value : List Char} (h : q ∉ value) (rest : List Char) :
    valueAndRest? q (value ++ q :: rest) = some (value, rest) := by
  induction value with
  | nil => simp [valueAndRest?]
  | cons c value ih =>
      have hc : c ≠ q := fun heq => h (heq ▸ List.mem_cons_self)
      rw [List.cons_append]
      simp only [valueAndRest?, beq_eq_false_iff_ne.mpr hc, Bool.false_eq_true, if_false,
        ih fun hmem => h (List.mem_cons_of_mem c hmem), Option.map_some]

/-- The value behind an equals sign is read in either quote. -/
theorem assignedAndRest?_append {quote : Quote} {value : List Char} (h : quote.char ∉ value)
    (before after : Gap) (rest : List Char) :
    assignedAndRest? (before.val ++ '=' :: (after.val ++ quote.char
      :: (value ++ quote.char :: rest))) = some (value, rest) := by
  have hequals : stripStart (before.val ++ '=' :: (after.val ++ quote.char
      :: (value ++ quote.char :: rest)))
      = '=' :: (after.val ++ quote.char :: (value ++ quote.char :: rest)) := by
    rw [stripStart_gap]
    exact stripStart_cons (by decide) _
  have hquote : stripStart (after.val ++ quote.char :: (value ++ quote.char :: rest))
      = quote.char :: (value ++ quote.char :: rest) := by
    rw [stripStart_gap]
    exact stripStart_cons (by cases quote <;> decide) _
  simp only [assignedAndRest?, hequals, hquote]
  cases quote with
  | single => exact valueAndRest?_append h rest
  | double => exact valueAndRest?_append h rest

/-- A written attribute is read back, whatever follows it. -/
theorem attributeAndRest?_write {layout : Layout} {key value : List Char}
    (hkey : isKey key = true) (hvalue : layout.quote.char ∉ value) (rest : List Char) :
    attributeAndRest? (layout.write key value ++ rest) = some ((key, value), rest) := by
  obtain ⟨first, cs, rfl⟩ : ∃ first cs, key = first :: cs := by
    cases key with
    | nil => exact nomatch hkey
    | cons first cs => exact ⟨first, cs, rfl⟩
  have hkey' : isNameStart first = true ∧ ∀ c ∈ cs, isKeyChar c = true := by
    simpa [isKey] using hkey
  obtain ⟨hfirst, hcs⟩ := hkey'
  have hnotBlank : isBlank first = false := by
    cases hb : isBlank first with
    | false => rfl
    | true => exact absurd (isWord_of_isBlank hb) (by simp [isWord_of_isNameStart hfirst])
  let tail := layout.afterEquals.val ++ layout.quote.char
    :: (value ++ layout.quote.char :: rest)
  have hwrite : layout.write (first :: cs) value ++ rest
      = layout.gap.val ++ (first :: (cs ++ (layout.beforeEquals.val ++ '=' :: tail))) := by
    simp [Layout.write, tail]
  obtain ⟨blank, blanks, hgap⟩ : ∃ blank blanks, layout.gap.val = blank :: blanks :=
    List.exists_cons_of_ne_nil layout.gap_ne_nil
  have hblank : isBlank blank = true :=
    layout.gap.isBlank blank (hgap ▸ List.mem_cons_self)
  have hstrip : stripStart (layout.gap.val ++ (first :: (cs ++ (layout.beforeEquals.val
      ++ '=' :: tail)))) = first :: (cs ++ (layout.beforeEquals.val ++ '=' :: tail)) := by
    rw [stripStart_gap]
    exact stripStart_cons hnotBlank _
  obtain ⟨htake, hdrop⟩ := span_key hcs layout.beforeEquals tail
  rw [hwrite]
  rw [hgap, List.cons_append] at hstrip ⊢
  simp only [attributeAndRest?, hblank, if_true, hstrip, hfirst, htake, hdrop]
  rw [assignedAndRest?_append hvalue, Option.map_some]

/-- A written attribute goes on with the body behind it. -/
theorem bodyAndRest?_write {layout : Layout} {key value : List Char}
    (hkey : isKey key = true) (hvalue : layout.quote.char ∉ value) (text : List Char) :
    bodyAndRest? none (layout.write key value ++ text)
      = (bodyAndRest? none text).map fun (body, rest) =>
          (layout.write key value ++ body, rest) := by
  -- nothing in front of the quotation can end the tag or open another quotation
  let plain := layout.gap.val ++ (key ++ (layout.beforeEquals.val ++ '=' :: layout.afterEquals.val))
  have hplain : ∀ c ∈ plain, isPlain c = true := by
    intro c hc
    simp only [plain, List.mem_append, List.mem_cons] at hc
    rcases hc with hc | hc | hc | rfl | hc
    · exact isPlain_of_isBlank (layout.gap.isBlank c hc)
    · refine isPlain_of_isKeyChar ?_
      cases key with
      | nil => exact nomatch hc
      | cons first cs =>
          have hparts : isNameStart first = true ∧ ∀ c ∈ cs, isKeyChar c = true := by
            simpa [isKey] using hkey
          rcases List.mem_cons.mp hc with rfl | hmem
          · simp [isKeyChar, isWord_of_isNameStart hparts.1]
          · exact hparts.2 c hmem
    · exact isPlain_of_isBlank (layout.beforeEquals.isBlank c hc)
    · decide
    · exact isPlain_of_isBlank (layout.afterEquals.isBlank c hc)
  have hwrite : ∀ more, layout.write key value ++ more
      = plain ++ (layout.quote.char :: (value ++ layout.quote.char :: more)) := by
    intro more
    simp [Layout.write, plain]
  have hquote : layout.quote.char = '"' ∨ layout.quote.char = '\'' := by
    cases layout.quote with
    | single => exact Or.inr rfl
    | double => exact Or.inl rfl
  rw [hwrite, bodyAndRest?_plain hplain, bodyAndRest?_quotation hquote hvalue, Option.map_map]
  refine congrArg (fun f => Option.map f (bodyAndRest? none text)) (funext fun found => ?_)
  show (plain ++ (layout.quote.char :: (value ++ layout.quote.char :: found.1)), found.2)
    = (layout.write key value ++ found.1, found.2)
  rw [hwrite]

/-! ## Bodies of attributes -/

/-- A body that begins with a written attribute of a new key. -/
theorem readBody_write {layout : Layout} {keys : List (List Char)} {key value : List Char}
    (hkey : isKey key = true) (hvalue : layout.quote.char ∉ value) (hnew : key ∉ keys)
    (rest : List Char) :
    readBody keys (layout.write key value ++ rest)
      = (readBody (key :: keys) rest).map fun (entries, slash) =>
          ((key, value) :: entries, slash) := by
  have hread := attributeAndRest?_write hkey hvalue rest
  rw [readBody]
  split
  · next entry rest' heq =>
      rw [hread] at heq
      obtain ⟨rfl, rfl⟩ := Prod.mk.inj (Option.some.inj heq)
      simp [hnew]
  · next heq => exact absurd (hread.symm.trans heq) (by simp)

/-- A body of blanks has no attributes and no slash. -/
theorem readBody_gap (keys : List (List Char)) (gap : Gap) :
    readBody keys gap.val = .ok ([], false) := by
  have hstrip := stripStart_gap_nil gap
  have hnone : attributeAndRest? gap.val = none := by
    cases hgap : gap.val with
    | nil => rfl
    | cons c cs =>
        rw [hgap] at hstrip
        simp only [attributeAndRest?, hstrip, ite_self]
  have htail : selfClosing? gap.val = some false := by
    simp only [selfClosing?, hstrip, List.isEmpty_nil, if_true]
  rw [readBody]
  split
  · next heq => exact absurd (heq.symm.trans hnone) (by simp)
  · rw [htail]

/-- The blanks at the end of a tag belong to its body. -/
theorem bodyAndRest?_gap (gap : Gap) (rest : List Char) :
    bodyAndRest? none (gap.val ++ '>' :: rest) = some (gap.val, rest) := by
  rw [bodyAndRest?_plain fun c hc => isPlain_of_isBlank (gap.isBlank c hc), bodyAndRest?_close]
  simp

end Stencil.Directive
