import Stencil.Proofs.Directive.Document
import Stencil.Proofs.Directive.Occurrence

/-! # Idempotence — native text that is lowered again

    Replacing tags by blocks changes what stands behind the start of a tag that is
    text, and what an open quotation runs over; that no new tag comes about needs
    an argument on quotations.  Where such a start stands in the source, no body
    behind it ends, so a quotation is open wherever a tag begins.  A tag with one
    quotation in it leaves an open quotation as it is, or a body would end there,
    and its block has no quotes at all.  So a body that ends in the native text
    ends in the source as well (`Replaced.bodyEnds`), a start in the native text is
    one in the source (`Replaced.start`), and no tag stands in the native text
    (`Replaced.not_tagAt`).

    Headline: `compile_fixed`. -/

namespace Stencil.Directive

open Stencil.Text

/-! ## Texts without quotes -/

/-- Characters that open neither a quotation nor a tag. -/
def isQuiet (c : Char) : Bool :=
  c != '"' && c != '\'' && c != '<'

/-- A text without quotes. -/
def IsUnquoted (text : List Char) : Prop :=
  ∀ q, q = '"' ∨ q = '\'' → q ∉ text

/-- What stands in a tag in front of its `>`: plain text, or one quotation in plain text, without
    another quote in it. -/
inductive IsSimple : List Char → Prop where
  | plain {run : List Char} : (∀ c ∈ run, isPlain c = true) → IsSimple run
  | quotation {q : Char} {before value behind : List Char} : q = '"' ∨ q = '\'' →
      (∀ c ∈ before, isPlain c = true) → IsUnquoted value → (∀ c ∈ behind, isPlain c = true) →
      IsSimple (before ++ q :: (value ++ q :: behind))

/-- The native text of a tag: it begins with a brace, and all of it is quiet. -/
structure IsBlock (block : List Char) : Prop where
  brace : block.head? = some '\x7b'
  quiet : ∀ c ∈ block, isQuiet c = true

/-- A text of characters of a kind that quotes are not of has no quotes. -/
theorem isUnquoted_of_forall {kind : Char → Bool} (hdouble : kind '"' = false)
    (hsingle : kind '\'' = false) {text : List Char} (h : ∀ c ∈ text, kind c = true) :
    IsUnquoted text := by
  intro q hq hmem
  rcases hq with rfl | rfl
  · exact Bool.false_ne_true (hdouble.symm.trans (h _ hmem))
  · exact Bool.false_ne_true (hsingle.symm.trans (h _ hmem))

/-- Plain text in front of what is simple leaves it simple. -/
theorem IsSimple.plain_append {first run : List Char} (hfirst : ∀ c ∈ first, isPlain c = true)
    (h : IsSimple run) : IsSimple (first ++ run) := by
  have happend {more : List Char} (hmore : ∀ c ∈ more, isPlain c = true) :
      ∀ c ∈ first ++ more, isPlain c = true :=
    List.forall_mem_append.mpr ⟨hfirst, hmore⟩
  cases h with
  | plain hrun => exact .plain (happend hrun)
  | quotation hq hbefore hvalue hbehind =>
      rw [← List.append_assoc]
      exact .quotation hq (happend hbefore) hvalue hbehind

/-! ## Bodies that end -/

/-- Whether a body ends in a text; `pending` is the quote that is open at the start. -/
def BodyEnds (pending : Option Char) (text : List Char) : Prop :=
  (bodyAndRest? pending text).isSome = true

section Bodies

variable {text other run : List Char} {q : Char}

/-- A character in front leaves it to the text whether a body ends. -/
theorem BodyEnds.cons_mono {pending : Option Char} {c : Char}
    (h : ∀ pending, (∀ q ∈ pending, q = '"' ∨ q = '\'') → BodyEnds pending text →
      BodyEnds pending other)
    (hpending : ∀ q ∈ pending, q = '"' ∨ q = '\'') (hends : BodyEnds pending (c :: text)) :
    BodyEnds pending (c :: other) := by
  cases pending with
  | some q =>
      simp only [BodyEnds, bodyAndRest?, Option.isSome_map] at hends ⊢
      refine h _ (fun d hd => ?_) hends
      split at hd
      · cases hd
      · exact hpending d hd
  | none =>
      simp only [BodyEnds, bodyAndRest?] at hends ⊢
      split at hends
      · next hend => rw [if_pos hend]; rfl
      · next hend =>
          rw [if_neg hend]
          rw [Option.isSome_map] at hends ⊢
          refine h _ (fun d hd => ?_) hends
          split at hd
          · next hquote =>
              obtain rfl := Option.some.inj hd
              simpa using hquote
          · cases hd

/-- An open quotation runs over what does not hold its quote. -/
theorem bodyEnds_append_of_notMem (h : q ∉ run) :
    BodyEnds (some q) (run ++ text) ↔ BodyEnds (some q) text := by
  induction run with
  | nil => rfl
  | cons c run ih =>
      have hc : c ≠ q := fun heq => h (heq ▸ List.mem_cons_self)
      rw [← ih fun hmem => h (List.mem_cons_of_mem c hmem)]
      simp only [BodyEnds, List.cons_append, bodyAndRest?, beq_eq_false_iff_ne.mpr hc,
        Bool.false_eq_true, if_false, Option.isSome_map]

/-- A body that ends behind a text without quotes ends there, or in that text. -/
theorem BodyEnds.append (hrun : IsUnquoted run) (h : BodyEnds none text) :
    BodyEnds none (run ++ text) := by
  induction run with
  | nil => exact h
  | cons c run ih =>
      have hdouble : c ≠ '"' := fun heq => hrun '"' (.inl rfl) (heq ▸ List.mem_cons_self)
      have hsingle : c ≠ '\'' := fun heq => hrun '\'' (.inr rfl) (heq ▸ List.mem_cons_self)
      have hrest := ih fun q hq hmem => hrun q hq (List.mem_cons_of_mem c hmem)
      simp only [BodyEnds, List.cons_append, bodyAndRest?, beq_eq_false_iff_ne.mpr hdouble,
        beq_eq_false_iff_ne.mpr hsingle, Bool.or_self, Bool.false_eq_true, if_false]
      split
      · rfl
      · rw [Option.isSome_map]
        exact hrest

/-- A body ends at the end of a tag if no quotation is open in front of it. -/
theorem IsSimple.bodyEnds (h : IsSimple run) (text : List Char) :
    BodyEnds none (run ++ '>' :: text) := by
  cases h with
  | plain hrun =>
      rw [BodyEnds, bodyAndRest?_plain hrun, bodyAndRest?_close]
      rfl
  | quotation hq hbefore hvalue hbehind =>
      rw [List.append_assoc, List.cons_append, List.append_assoc, List.cons_append, BodyEnds,
        bodyAndRest?_plain hbefore, bodyAndRest?_quotation hq (hvalue _ hq),
        bodyAndRest?_plain hbehind, bodyAndRest?_close]
      rfl

/-- A quotation that is open in front of a tag is open behind it, unless a body ends before. -/
theorem IsSimple.bodyEnds_pending (h : IsSimple run) (hq : q = '"' ∨ q = '\'')
    (hends : BodyEnds (some q) text) : BodyEnds (some q) (run ++ '>' :: text) := by
  have hend : BodyEnds (some q) ('>' :: text) := by
    have hne : q ∉ ['>'] := by rcases hq with rfl | rfl <;> decide
    exact (bodyEnds_append_of_notMem hne).mpr hends
  cases h with
  | plain hrun =>
    exact (bodyEnds_append_of_notMem (isUnquoted_of_forall rfl rfl hrun q hq)).mpr hend
  | @quotation other before value behind hother hbefore hvalue hbehind =>
      have hafter : BodyEnds (some q) (behind ++ '>' :: text) :=
        (bodyEnds_append_of_notMem (isUnquoted_of_forall rfl rfl hbehind q hq)).mpr hend
      rw [List.append_assoc, List.cons_append, List.append_assoc, List.cons_append,
        bodyEnds_append_of_notMem (isUnquoted_of_forall rfl rfl hbefore q hq)]
      by_cases hsame : other = q
      · -- the quotation is closed, what was its value is read outside, and it is opened again
        subst hsame
        have hopened : BodyEnds none (other :: (behind ++ '>' :: text)) := by
          rcases hq with rfl | rfl <;>
            simpa [BodyEnds, bodyAndRest?] using hafter
        have hclosed := hopened.append hvalue
        simpa [BodyEnds, bodyAndRest?] using hclosed
      · have hnot : q ∉ other :: (value ++ [other]) := by
          simp [hvalue q hq, Ne.symm hsame]
        rw [show other :: (value ++ other :: (behind ++ '>' :: text))
          = (other :: (value ++ [other])) ++ (behind ++ '>' :: text) by simp]
        exact (bodyEnds_append_of_notMem hnot).mpr hafter

end Bodies

/-! ## Names in front of bodies that end -/

/-- Whether a name and a body behind it end in a text. -/
def NameEnds (text : List Char) : Prop :=
  (nameBodyAndRest? text).isSome = true

theorem nameEnds_cons_iff {c : Char} {text : List Char} :
    NameEnds (c :: text) ↔ BodyEnds none (c :: text) ∨ endsName c = false ∧ NameEnds text := by
  simp only [NameEnds, BodyEnds, nameBodyAndRest?]
  cases endsName c with
  | true => simp
  | false =>
      cases nameBodyAndRest? text with
      | none => simp
      | some found => simp

theorem BodyEnds.nameEnds {text : List Char} (h : BodyEnds none text) : NameEnds text := by
  cases text with
  | nil => cases h
  | cons c text => exact nameEnds_cons_iff.mpr (.inl h)

/-! ## Replacing tags by blocks -/

/-- A source in which tags were replaced by blocks, and what came of it. -/
inductive Replaced (ns : List Char) : List Char → List Char → Prop where
  | nil : Replaced ns [] []
  | char {c : Char} {source code : List Char} : tagAndRest? ns (c :: source) = none →
      Replaced ns source code → Replaced ns (c :: source) (c :: code)
  | tag {run block source code : List Char} : IsSimple run → IsBlock block →
      Replaced ns source code → Replaced ns (run ++ '>' :: source) (block ++ code)

namespace Replaced

variable {ns source code : List Char}

/-- A body that ends where tags were replaced ends in the source. -/
theorem bodyEnds (h : Replaced ns source code) {pending : Option Char}
    (hpending : ∀ q ∈ pending, q = '"' ∨ q = '\'') (hends : BodyEnds pending code) :
    BodyEnds pending source := by
  induction h generalizing pending with
  | nil => exact hends
  | char _ _ ih => exact BodyEnds.cons_mono (fun _ hquote => ih hquote) hpending hends
  | tag hrun hblock _ ih =>
      cases pending with
      | none => exact hrun.bodyEnds _
      | some q =>
          have hq := hpending q rfl
          rw [bodyEnds_append_of_notMem (isUnquoted_of_forall rfl rfl hblock.quiet q hq)] at hends
          exact hrun.bodyEnds_pending hq (ih hpending hends)

/-- A name and a body that end where tags were replaced end in the source. -/
theorem nameEnds (h : Replaced ns source code) (hends : NameEnds code) : NameEnds source := by
  induction h with
  | nil => exact hends
  | char hnone h ih =>
      rw [nameEnds_cons_iff] at hends ⊢
      exact hends.imp ((h.char hnone).bodyEnds nofun) (And.imp_right ih)
  | tag hrun _ _ _ =>
      -- whatever stands behind it, the tag's own end is the end of a body
      exact (hrun.bodyEnds _).nameEnds

/-- A start without braces in front of what came of a source is in front of the source. -/
theorem start {start more : List Char} (hstart : '\x7b' ∉ start)
    (h : Replaced ns source (start ++ more)) :
    ∃ rest, source = start ++ rest ∧ Replaced ns rest more := by
  induction start generalizing source with
  | nil => exact ⟨source, rfl, h⟩
  | cons c start ih =>
      generalize hcode : c :: start ++ more = code at h
      cases h with
      | nil => cases hcode
      | char _ h =>
          obtain ⟨rfl, rfl⟩ := List.cons.inj hcode
          obtain ⟨rest, rfl, hrest⟩ := ih (fun hmem => hstart (List.mem_cons_of_mem c hmem)) h
          exact ⟨rest, rfl, hrest⟩
      | @tag run block source code _ hblock _ =>
          obtain ⟨more', rfl⟩ := List.head?_eq_some_iff.mp hblock.brace
          obtain ⟨rfl, -⟩ := List.cons.inj hcode
          exact absurd List.mem_cons_self hstart

/-- **Where tags were replaced no tag stands.** -/
theorem not_tagAt (hns : isNamespace ns = true) (h : Replaced ns source code) (offset : Nat)
    (tag : Tag) : ¬ TagAt ns code offset tag := by
  induction h generalizing offset with
  | nil => exact fun htag => absurd htag.lt_length (Nat.not_lt_zero _)
  | @char c source code hnone h ih =>
      cases offset with
      | succ offset => exact fun htag => ih offset ((tagAt_cons_iff c).mp htag)
      | zero =>
          rintro ⟨⟨hname, hbody⟩, rest, hstands⟩
          -- the start of the tag is in front of the source, and a body ends behind it
          have hcode : tagStart ns tag.closing ++ (tag.name ++ (tag.body ++ '>' :: rest))
              = c :: code := by
            rw [← List.drop_zero (l := c :: code), ← hstands]
            simp [Tag.text]
          obtain ⟨after, hsource, hafter⟩ :=
            (hcode ▸ h.char hnone).start (brace_notMem_tagStart hns tag.closing).1
          obtain ⟨found, hfound, -⟩ := exists_nameBodyAndRest? hname hbody rest
          have hends : NameEnds after := hafter.nameEnds (by rw [NameEnds, hfound]; rfl)
          obtain ⟨read, hread⟩ := Option.isSome_iff_exists.mp hends
          rw [hsource, tagAndRest?_tagStart hns, hread] at hnone
          cases hnone
  | @tag run block source code _ hblock _ ih =>
      intro htag
      rcases Nat.lt_or_ge offset block.length with hinside | hbehind
      · have hfront : '<' ∈ block := by
          obtain ⟨rest, hrest⟩ := htag.stands
          rw [List.drop_append_of_le_length (Nat.le_of_lt hinside),
            List.drop_eq_getElem_cons hinside] at hrest
          have hhead : '<' = block[offset] := (List.cons.inj hrest).1
          exact hhead ▸ List.getElem_mem hinside
        exact absurd (hblock.quiet '<' hfront) (by decide)
      · obtain ⟨further, rfl⟩ := Nat.exists_eq_add_of_le hbehind
        exact ih further ((tagAt_append_iff block).mp htag)

end Replaced

/-! ## Tags that are lowered -/

section Attributes

variable {body rest value : List Char}

theorem eq_of_valueAndRest? {q : Char} (h : valueAndRest? q body = some (value, rest)) :
    body = value ++ q :: rest := by
  induction body generalizing value with
  | nil => cases h
  | cons c cs ih =>
      rw [valueAndRest?] at h
      split at h
      · next hc =>
          obtain ⟨rfl, rfl⟩ := Prod.mk.inj (Option.some.inj h)
          rw [beq_iff_eq.mp hc]
          rfl
      · obtain ⟨⟨more, after⟩, hmore, heq⟩ := Option.map_eq_some_iff.mp h
        obtain ⟨rfl, rfl⟩ := Prod.mk.inj heq
        rw [ih hmore]
        rfl

/-- What is dropped from the front of a text is plain if all such characters are. -/
theorem exists_dropWhile {p : Char → Bool} (hp : ∀ c, p c = true → isPlain c = true)
    (text : List Char) :
    ∃ front, text = front ++ text.dropWhile p ∧ ∀ c ∈ front, isPlain c = true :=
  ⟨text.takeWhile p, List.takeWhile_append_dropWhile.symm,
    fun c hc => hp c (List.mem_takeWhile_imp hc)⟩

theorem exists_stripStart (text : List Char) :
    ∃ blanks, text = blanks ++ stripStart text ∧ ∀ c ∈ blanks, isPlain c = true :=
  exists_dropWhile (fun _ => isPlain_of_isBlank) text

/-- A text is a quotation of a value behind plain text, and a rest behind it. -/
def IsQuoted (text value rest : List Char) : Prop :=
  ∃ q before, (q = '"' ∨ q = '\'') ∧ (∀ c ∈ before, isPlain c = true)
    ∧ text = before ++ q :: (value ++ q :: rest)

theorem IsQuoted.plain_append {first : List Char} (hfirst : ∀ c ∈ first, isPlain c = true)
    (h : IsQuoted body value rest) : IsQuoted (first ++ body) value rest := by
  obtain ⟨q, before, hq, hbefore, rfl⟩ := h
  exact ⟨q, first ++ before, hq, List.forall_mem_append.mpr ⟨hfirst, hbefore⟩,
    (List.append_assoc ..).symm⟩

/-- An assigned value is quoted. -/
theorem isQuoted_of_assignedAndRest? (h : assignedAndRest? body = some (value, rest)) :
    IsQuoted body value rest := by
  obtain ⟨blanks, hbody, hblanks⟩ := exists_stripStart body
  rw [hbody]
  refine IsQuoted.plain_append hblanks ?_
  rw [assignedAndRest?] at h
  split at h
  · next cs heq =>
      obtain ⟨more, hcs, hmore⟩ := exists_stripStart cs
      rw [heq, hcs]
      have hplain : ∀ c ∈ '=' :: more, isPlain c = true :=
        List.forall_mem_cons.mpr ⟨by decide, hmore⟩
      refine IsQuoted.plain_append hplain ?_
      split at h
      · next ds hds =>
          rw [hds, eq_of_valueAndRest? h]
          exact ⟨'"', [], .inl rfl, List.forall_mem_nil _, rfl⟩
      · next ds hds =>
          rw [hds, eq_of_valueAndRest? h]
          exact ⟨'\'', [], .inr rfl, List.forall_mem_nil _, rfl⟩
      · cases h
  · cases h

/-- An attribute is a quoted value behind its key. -/
theorem isQuoted_of_attributeAndRest? {key : List Char}
    (h : attributeAndRest? body = some ((key, value), rest)) : IsQuoted body value rest := by
  obtain ⟨blanks, hbody, hblanks⟩ := exists_stripStart body
  simp only [attributeAndRest?] at h
  split at h
  · cases h
  · split at h
    · split at h
      · cases h
      · next first cs hfirst =>
          split at h
          · next hstart =>
              simp only [Option.map_eq_some_iff, Prod.mk.injEq, Prod.exists] at h
              obtain ⟨_, _, hassigned, ⟨-, rfl⟩, rfl⟩ := h
              obtain ⟨chars, hcs, hchars⟩ := exists_dropWhile (fun _ => isPlain_of_isKeyChar) cs
              have hkey : ∀ c ∈ first :: chars, isPlain c = true :=
                List.forall_mem_cons.mpr ⟨isPlain_of_isKeyChar
                  (by rw [isKeyChar, isWord_of_isNameStart hstart]; rfl), hchars⟩
              rw [hbody, hfirst, hcs]
              exact IsQuoted.plain_append hblanks
                (IsQuoted.plain_append hkey (isQuoted_of_assignedAndRest? hassigned))
          · cases h
    · cases h

/-- What stands behind the attributes of a body without a slash is plain. -/
theorem plain_of_selfClosing? (h : selfClosing? body = some false) :
    ∀ c ∈ body, isPlain c = true := by
  obtain ⟨blanks, hbody, hblanks⟩ := exists_stripStart body
  have hnil : stripStart body = [] := by
    rw [selfClosing?] at h
    split at h
    · split at h <;> cases h
    · split at h
      · next hempty => exact List.isEmpty_iff.mp hempty
      · cases h
  rw [hbody, hnil, List.append_nil]
  exact hblanks

/-- A body of no attributes and no slash is plain. -/
theorem plain_of_readBody {keys : List (List Char)} (h : readBody keys body = .ok ([], false)) :
    ∀ c ∈ body, isPlain c = true := by
  rw [readBody] at h
  split at h
  · next entry rest _ =>
      split at h
      · cases h
      · cases hrest : readBody (entry.1 :: keys) rest <;> rw [hrest] at h <;> cases h
  · split at h
    · next hslash =>
        obtain ⟨-, rfl⟩ := Prod.mk.inj (Except.ok.inj h)
        exact plain_of_selfClosing? hslash
    · cases h

/-- A body of one attribute and no slash is simple if there are no quotes in the value. -/
theorem isSimple_of_readBody {key : List Char}
    (h : readBody [] body = .ok ([(key, value)], false)) (hvalue : IsUnquoted value) :
    IsSimple body := by
  rw [readBody] at h
  split at h
  · next entry rest hentry =>
      split at h
      · cases h
      · cases hrest : readBody [entry.1] rest with
        | error fault =>
            rw [hrest] at h
            cases h
        | ok found =>
            rw [hrest] at h
            obtain ⟨hentries, hslash⟩ := Prod.mk.inj (Except.ok.inj h)
            obtain ⟨rfl, hmore⟩ := List.cons.inj hentries
            obtain ⟨q, before, hq, hbefore, rfl⟩ := isQuoted_of_attributeAndRest? hentry
            have hbehind : readBody [key] rest = .ok ([], false) := by
              rw [hrest, ← hmore, ← hslash]
            exact .quotation hq hbefore hvalue (plain_of_readBody hbehind)
  · split at h <;> cases h

end Attributes

/-! ## Sources that are lowered -/

/-- Rule sets with plain names, and with blocks for their tags if what is put into them is quiet. -/
structure RuleSet.IsQuiet (rules : RuleSet) : Prop where
  name : ∀ entry ∈ rules, ∀ c ∈ entry.1, isPlain c = true
  opener : ∀ entry ∈ rules, ∀ expression, (∀ c ∈ expression, isQuiet c = true) →
    IsBlock (filled expression entry.2.opener)
  closer : ∀ entry ∈ rules, IsBlock entry.2.closer

/-- The expression that a token gives to the directive it opens. -/
def Token.expression? (rules : RuleSet) (token : Token) : Option (List Char) :=
  match token.kind with
  | .opening name attributes selfClosing => do
    let rule ← rules.find? name
    (expressionOf rule token attributes selfClosing).toOption
  | _ => none

/-- The expressions of a source's directives, in order. -/
def expressions (ns : List Char) (rules : RuleSet) (source : List Char) : List (List Char) :=
  match tokenize ns source with
  | .ok tokens => tokens.filterMap (Token.expression? rules)
  | .error _ => []

/-- What a piece of a source can become: a run of text itself, and a tag a block. -/
inductive Piece.Becomes (ns : List Char) : Piece → List Char → Prop where
  | text (run : List Char) : Piece.Becomes ns (.text run) run
  | tag {tag : Tag} {block : List Char} :
      IsSimple (tagStart ns tag.closing ++ (tag.name ++ tag.body)) → IsBlock block →
      Piece.Becomes ns (.tag tag) block

/-- The start of a tag is plain. -/
theorem plain_tagStart {ns : List Char} (hns : isNamespace ns = true) (closing : Bool) :
    ∀ c ∈ tagStart ns closing, isPlain c = true := by
  intro c h
  rcases isWord_or_mem_of_mem_tagStart hns h with hword | hmem
  · exact isPlain_of_isKeyChar (by rw [isKeyChar, hword]; rfl)
  · exact List.all_eq_true.mp (by decide : ['<', '/', ':', '-', '\n'].all isPlain = true) c hmem

/-- No quote is stripped from a text. -/
theorem isUnquoted_of_strip {text : List Char} (h : IsUnquoted (strip text)) : IsUnquoted text := by
  intro q hq hmem
  rcases isBlank_or_mem_strip hmem with hblank | hstrip
  · rcases hq with rfl | rfl <;> exact absurd hblank (by decide)
  · exact h q hq hstrip

/-- A token that is lowered gives what its piece can become. -/
theorem becomes_of_lowers {ns : List Char} {rules : RuleSet} (hns : isNamespace ns = true)
    (hrules : rules.IsQuiet) {piece : Piece} {token : Token} {run : List Char}
    (hgives : piece.Gives ns token) (hlowers : Lowers rules token.kind token.text run)
    (hquiet : ∀ expression ∈ token.expression? rules, ∀ c ∈ expression, isQuiet c = true) :
    piece.Becomes ns run := by
  obtain ⟨hkind, htext⟩ := hgives
  cases piece with
  | text text =>
      obtain rfl : token.text = text := htext
      have htoken : token.kind = .text := (Except.ok.inj hkind).symm
      rw [htoken] at hlowers
      cases hlowers
      exact .text _
  | tag tag =>
      have hstart := plain_tagStart hns tag.closing
      rcases Tag.kind_eq_ok_iff.mp hkind with
        ⟨-, hblank, htoken⟩ | ⟨-, attributes, selfClosing, hbody, htoken⟩
      · rw [htoken] at hlowers
        cases hlowers with
        | closing hrule =>
            have hname := hrules.name _ (mem_of_find? hrule)
            have hplain : ∀ c ∈ tag.body, isPlain c = true := fun c hc =>
              isPlain_of_isBlank (List.all_eq_true.mp hblank c hc)
            exact .tag (((IsSimple.plain hplain).plain_append hname).plain_append hstart)
              (hrules.closer _ (mem_of_find? hrule))
      · rw [Token.expression?, htoken] at hquiet
        rw [htoken] at hlowers
        cases hlowers with
        | @opening _ value _ rule hrule hvalue =>
            have hname := hrules.name _ (mem_of_find? hrule)
            have hexpression : ∀ c ∈ strip value, isQuiet c = true := by
              have hok : expressionOf rule token [(rule.key, value)] false = .ok (strip value) :=
                (expressionOf_eq_ok_iff (by simp)).mpr ⟨rfl, value, rfl, hvalue, rfl⟩
              exact hquiet (strip value) (by simp [hrule, hok, Except.toOption])
            have hsimple := isSimple_of_readBody hbody
              (isUnquoted_of_strip (isUnquoted_of_forall rfl rfl hexpression))
            exact .tag ((hsimple.plain_append hname).plain_append hstart)
              (hrules.opener _ (mem_of_find? hrule) _ hexpression)

/-- The pieces of a source become what their tokens are lowered to, and the end nothing. -/
theorem becomes_of_tokensFrom {ns : List Char} {rules : RuleSet} (hns : isNamespace ns = true)
    (hrules : rules.IsQuiet) {offset : Nat} {place : Place} {parts : List Piece}
    {tokens : List Token} {runs : List (List Char)}
    (htokens : tokensFrom ns offset place parts = .ok tokens) (hruns : LowerTo rules tokens runs)
    (hquiet : ∀ expression ∈ tokens.filterMap (Token.expression? rules),
      ∀ c ∈ expression, isQuiet c = true) :
    ∃ blocks, List.Forall₂ (Piece.Becomes ns) parts blocks ∧ runs.flatten = blocks.flatten := by
  induction parts generalizing offset place tokens runs with
  | nil =>
      obtain rfl := Except.ok.inj htokens
      obtain ⟨run, rest, hrun, hrest, rfl⟩ := List.forall₂_cons_left_iff.mp hruns
      cases hrun with
      | finish => exact ⟨[], .nil, by rw [List.forall₂_nil_left_iff.mp hrest]; rfl⟩
  | cons piece parts ih =>
      obtain ⟨token, tokens, hgives, -, -, hrest, rfl⟩ := tokensFrom_cons_iff.mp htokens
      obtain ⟨run, runs, hrun, hmore, rfl⟩ := List.forall₂_cons_left_iff.mp hruns
      simp only [List.mem_filterMap] at hquiet ih
      obtain ⟨blocks, hblocks, hflatten⟩ := ih hrest hmore fun expression ⟨other, hmem, hother⟩ =>
        hquiet expression ⟨other, List.mem_cons_of_mem _ hmem, hother⟩
      have hbecomes := becomes_of_lowers hns hrules hgives hrun fun expression hmem =>
        hquiet expression ⟨token, List.mem_cons_self, hmem⟩
      exact ⟨run :: blocks, .cons hbecomes hblocks, by
        rw [List.flatten_cons, List.flatten_cons, hflatten]⟩

/-- Where the pieces of a source become blocks, tags are replaced in it. -/
theorem replaced_of_becomes {ns source : List Char} {blocks : List (List Char)}
    (h : List.Forall₂ (Piece.Becomes ns) (pieces ns source) blocks) :
    Replaced ns source blocks.flatten := by
  fun_induction pieces ns source generalizing blocks with
  | case1 =>
      rw [List.forall₂_nil_left_iff.mp h]
      exact .nil
  | case2 c cs tag rest hfound ih =>
      obtain ⟨block, blocks, hblock, hrest, rfl⟩ := List.forall₂_cons_left_iff.mp h
      cases hblock with
      | tag hrun hblock =>
          have hsource : c :: cs
              = (tagStart ns tag.closing ++ (tag.name ++ tag.body)) ++ '>' :: rest := by
            rw [eq_of_tagAndRest? hfound]
            simp [Tag.text]
          rw [hsource, List.flatten_cons]
          exact .tag hrun hblock (ih hrest)
  | case3 c cs hnone ih =>
      -- the run in front, if it goes on behind its first character, becomes itself there as well
      obtain ⟨run, rest, hparts, hbehind⟩ := prependText_eq c (pieces ns cs)
      rw [hparts] at h
      obtain ⟨block, blocks, hrun, hrest, rfl⟩ := List.forall₂_cons_left_iff.mp h
      cases hrun
      rw [List.flatten_cons, List.cons_append]
      refine .char hnone ?_
      rcases hbehind with ⟨hcs, rfl, -⟩ | hcs
      · exact ih (hcs ▸ hrest)
      · exact ih (by rw [hcs]; exact .cons (.text run) hrest)

/-- A text in which no tag stands is lowered to itself. -/
theorem compile_of_not_tagAt {ns : List Char} {rules : RuleSet} {text : List Char}
    (h : ∀ offset tag, ¬ TagAt ns text offset tag) : compile ns rules text = .ok text :=
  compile_of_reads (pieces_of_not_tagAt h) (reads_textPieces ns rules text) .empty

/-- The directives every engine knows put blocks in the place of their tags. -/
theorem isQuiet_standardRules : standardRules.IsQuiet := by
  constructor <;> rintro entry hentry <;> obtain rfl := List.mem_singleton.mp hentry
  case name => exact List.all_eq_true.mp (by decide)
  case opener =>
    intro expression hexpression
    have hfilled : filled expression conditional.opener
        = "\x7b% if ".toList ++ (expression ++ " %\x7d".toList) := rfl
    rw [hfilled]
    refine ⟨rfl, List.forall_mem_append.mpr ⟨List.all_eq_true.mp (by decide), ?_⟩⟩
    exact List.forall_mem_append.mpr ⟨hexpression, List.all_eq_true.mp (by decide)⟩
  case closer => exact ⟨rfl, List.all_eq_true.mp (by decide)⟩

/-- **Native text is left as it is**: what a source is lowered to is lowered to itself, if nothing
    was put into it that holds a quote or the first character of a tag. -/
theorem compile_fixed {ns source code : List Char} (hns : isNamespace ns = true)
    (hquiet : ∀ expression ∈ expressions ns standardRules source,
      ∀ c ∈ expression, isQuiet c = true)
    (h : compile ns standardRules source = .ok code) :
    compile ns standardRules code = .ok code := by
  obtain ⟨tokens, runs, htokens, hruns, -, rfl⟩ := compile_eq_ok_iff.mp h
  rw [expressions, htokens] at hquiet
  obtain ⟨blocks, hblocks, hflatten⟩ :=
    becomes_of_tokensFrom hns isQuiet_standardRules htokens hruns hquiet
  rw [hflatten]
  exact compile_of_not_tagAt ((replaced_of_becomes hblocks).not_tagAt hns)

/-- A source with the start of a tag whose quotation never ends in front of a directive. -/
def ragged : String :=
  "<mky:x a='<mky:if cond=\"n > 1\">b</mky:if>"

/-- Its native text, in which the start and the quotation still stand. -/
def raggedCode : String :=
  "<mky:x a='\x7b% if n > 1 %\x7db\x7b% endif %\x7d"

/-- Behind the start the directive is replaced, and nothing in the native text is. -/
theorem compile_fixed_ragged :
    isNamespace "mky".toList = true
      ∧ (∀ expression ∈ expressions "mky".toList standardRules ragged.toList,
        ∀ c ∈ expression, isQuiet c = true)
      ∧ compile "mky".toList standardRules ragged.toList = .ok raggedCode.toList
      ∧ compile "mky".toList standardRules raggedCode.toList = .ok raggedCode.toList := by
  have hns : isNamespace "mky".toList = true := by decide
  have hexpressions : expressions "mky".toList standardRules ragged.toList = ["n > 1".toList] := by
    decide +kernel
  have hquiet : ∀ expression ∈ expressions "mky".toList standardRules ragged.toList,
      ∀ c ∈ expression, isQuiet c = true := by
    rw [hexpressions]
    exact List.forall_mem_singleton.mpr (List.all_eq_true.mp (by decide))
  have h : compile "mky".toList standardRules ragged.toList = .ok raggedCode.toList := by
    decide +kernel
  exact ⟨hns, hquiet, h, compile_fixed hns hquiet h⟩

end Stencil.Directive
