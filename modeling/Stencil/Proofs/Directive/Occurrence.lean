import Stencil.Proofs.Directive.Balance
import Stencil.Proofs.Directive.Scan
import Stencil.Proofs.Directive.Tiling

/-! # Occurrences — where a text has tags

    What a tag is can be said without a reader: the start of a tag, a name, and a
    body whose quotations are all closed and that holds no `>` outside them, in
    front of a `>`.  The reader of tags finds one exactly where such a tag stands,
    and of several the one with the longest name.  A tag that stands in a part of a
    text stands in the whole, so what was left as a run of text has no tags when it
    is read on its own.

    Headline: `tokenize_tags`. -/

namespace Stencil.Directive

open Stencil.Text

/-! ## Tags, said without a reader -/

/-- The bodies of tags: all their quotations are closed, and no `>` stands outside them. -/
inductive IsClosed : List Char → Prop where
  | nil : IsClosed []
  | plain {c : Char} {body : List Char} : isPlain c = true → IsClosed body → IsClosed (c :: body)
  | quotation {q : Char} {value body : List Char} : q = '"' ∨ q = '\'' → q ∉ value →
      IsClosed body → IsClosed (q :: (value ++ q :: body))

/-- Whether a tag is one of the dialect: its name is free of the characters that end names, and
    its body is closed. -/
structure Tag.IsWritten (tag : Tag) : Prop where
  name : ∀ c ∈ tag.name, endsName c = false
  body : IsClosed tag.body

/-- Whether a tag stands at an offset of a text. -/
structure TagAt (ns text : List Char) (offset : Nat) (tag : Tag) : Prop where
  written : tag.IsWritten
  stands : tag.text ns <+: text.drop offset

/-! ## Bodies -/

/-- A closed body is read up to the `>` behind it. -/
theorem bodyAndRest?_of_isClosed {body : List Char} (h : IsClosed body) (rest : List Char) :
    bodyAndRest? none (body ++ '>' :: rest) = some (body, rest) := by
  induction h with
  | nil => exact bodyAndRest?_close rest
  | @plain c body hc _ ih =>
      have hplain : ∀ d ∈ [c], isPlain d = true := fun d hd => List.mem_singleton.mp hd ▸ hc
      rw [List.cons_append, ← List.singleton_append, bodyAndRest?_plain hplain, ih]
      rfl
  | @quotation q value body hq hvalue _ ih =>
      rw [List.cons_append, List.append_assoc, List.cons_append, bodyAndRest?_quotation hq hvalue,
        ih]
      rfl

/-- What is read as a body is closed, or closes the quotation that is open at its start. -/
theorem isClosed_of_bodyAndRest? {pending : Option Char} {text body rest : List Char}
    (h : bodyAndRest? pending text = some (body, rest)) :
    match pending with
    | none => IsClosed body
    | some q => ∃ value tail, body = value ++ q :: tail ∧ q ∉ value ∧ IsClosed tail := by
  induction text generalizing pending body with
  | nil => cases pending <;> exact nomatch h
  | cons c cs ih =>
      cases pending with
      | some q =>
          simp only [bodyAndRest?, Option.map_eq_some_iff, Prod.mk.injEq, Prod.exists] at h
          obtain ⟨more, _, hmore, rfl, rfl⟩ := h
          by_cases hc : c = q
          · subst hc
            rw [beq_self_eq_true, if_pos rfl] at hmore
            exact ⟨[], more, rfl, List.not_mem_nil, ih hmore⟩
          · rw [beq_eq_false_iff_ne.mpr hc, if_neg Bool.false_ne_true] at hmore
            obtain ⟨value, tail, rfl, hvalue, htail⟩ := ih hmore
            refine ⟨c :: value, tail, rfl, ?_, htail⟩
            exact fun hmem => (List.mem_cons.mp hmem).elim (fun heq => hc heq.symm) hvalue
      | none =>
          simp only [bodyAndRest?] at h
          split at h
          · obtain ⟨rfl, -⟩ := Prod.mk.inj (Option.some.inj h)
            exact .nil
          · next hend =>
              simp only [Option.map_eq_some_iff, Prod.mk.injEq, Prod.exists] at h
              obtain ⟨more, _, hmore, rfl, rfl⟩ := h
              split at hmore
              · next hquote =>
                  -- a quote opens a quotation, which the rest of the body closes
                  obtain ⟨value, tail, rfl, hvalue, htail⟩ := ih hmore
                  exact .quotation (by simpa using hquote) hvalue htail
              · next hquote =>
                  refine .plain ?_ (ih hmore)
                  simp only [Bool.or_eq_true, beq_iff_eq, not_or] at hend hquote
                  simp [isPlain, hend, hquote]

/-! ## Names -/

/-- What is read as a name and a body is one. -/
theorem isWritten_of_nameBodyAndRest? {text name body rest : List Char}
    (h : nameBodyAndRest? text = some (name, body, rest)) :
    (∀ c ∈ name, endsName c = false) ∧ IsClosed body := by
  have here {text name body rest : List Char}
      (h : (bodyAndRest? none text).map (fun found => (([] : List Char), found.1, found.2))
        = some (name, body, rest)) : (∀ c ∈ name, endsName c = false) ∧ IsClosed body := by
    simp only [Option.map_eq_some_iff, Prod.mk.injEq, Prod.exists] at h
    obtain ⟨_, _, hbody, rfl, rfl, rfl⟩ := h
    exact ⟨fun c hc => absurd hc List.not_mem_nil, isClosed_of_bodyAndRest? hbody⟩
  induction text generalizing name with
  | nil => cases h
  | cons c cs ih =>
      simp only [nameBodyAndRest?] at h
      split at h
      · exact here h
      · next hc =>
          split at h
          · next hmore =>
              simp only [Option.some.injEq, Prod.mk.injEq] at h
              obtain ⟨rfl, rfl, rfl⟩ := h
              obtain ⟨hname, hbody⟩ := ih hmore
              refine ⟨fun d hd => ?_, hbody⟩
              rcases List.mem_cons.mp hd with rfl | hmem
              · exact Bool.eq_false_iff.mpr hc
              · exact hname d hmem
          · exact here h

/-- Where a name and a closed body stand, a name that is no shorter is read. -/
theorem exists_nameBodyAndRest? {name body : List Char} (hname : ∀ c ∈ name, endsName c = false)
    (hbody : IsClosed body) (rest : List Char) :
    ∃ found, nameBodyAndRest? (name ++ (body ++ '>' :: rest)) = some found
      ∧ name.length ≤ found.1.length := by
  induction name with
  | nil =>
      have hread := bodyAndRest?_of_isClosed hbody rest
      rw [List.nil_append]
      generalize body ++ '>' :: rest = text at hread
      cases text with
      | nil => exact nomatch hread
      | cons c cs =>
          simp only [nameBodyAndRest?, hread, Option.map_some]
          split
          · exact ⟨_, rfl, Nat.zero_le _⟩
          · split <;> exact ⟨_, rfl, Nat.zero_le _⟩
  | cons c name ih =>
      obtain ⟨⟨longest, found⟩, hread, hlength⟩ :=
        ih fun d hd => hname d (List.mem_cons_of_mem c hd)
      have hc : endsName c = false := hname c List.mem_cons_self
      rw [List.cons_append]
      simp only [nameBodyAndRest?, hc, Bool.false_eq_true, if_false, hread]
      exact ⟨_, rfl, Nat.succ_le_succ hlength⟩

/-! ## Tags at the front of a text -/

section Front

variable {ns text rest : List Char} {tag : Tag}

/-- What is read as a tag is one. -/
theorem isWritten_of_tagAndRest? (h : tagAndRest? ns text = some (tag, rest)) :
    tag.IsWritten := by
  have named {closing : Bool} {after : List Char}
      (h : (nameBodyAndRest? after).map
        (fun found => ((⟨closing, found.1, found.2.1⟩ : Tag), found.2.2)) = some (tag, rest)) :
      tag.IsWritten := by
    obtain ⟨found, hread, heq⟩ := Option.map_eq_some_iff.mp h
    obtain ⟨rfl, rfl⟩ := Prod.mk.inj heq
    obtain ⟨hname, hbody⟩ := isWritten_of_nameBodyAndRest? hread
    exact ⟨hname, hbody⟩
  simp only [tagAndRest?] at h
  split at h
  · next hfound =>
      split at hfound
      · cases hfound
      · exact named (hfound.trans h)
  · split at h
    · cases h
    · exact named h

/-- Where a tag stands at the front of a text, one is read whose name is no shorter. -/
theorem exists_tagAndRest? (hns : isNamespace ns = true) (hwritten : tag.IsWritten)
    (hstands : tag.text ns <+: text) :
    ∃ found rest, tagAndRest? ns text = some (found, rest)
      ∧ tag.name.length ≤ found.name.length := by
  obtain ⟨rest, rfl⟩ := hstands
  have htext : tag.text ns ++ rest
      = tagStart ns tag.closing ++ (tag.name ++ (tag.body ++ '>' :: rest)) := by
    simp [Tag.text]
  obtain ⟨⟨name, body, after⟩, hread, hlength⟩ :=
    exists_nameBodyAndRest? hwritten.name hwritten.body rest
  refine ⟨⟨tag.closing, name, body⟩, after, ?_, hlength⟩
  rw [htext, tagAndRest?_tagStart hns, hread]
  rfl

end Front

/-! ## Tags in a text -/

section Text

variable {ns text : List Char} {offset : Nat} {tag : Tag}

theorem Tag.text_ne_nil (ns : List Char) (tag : Tag) : tag.text ns ≠ [] :=
  List.cons_ne_nil _ _

/-- What is read as a tag stands where it is read. -/
theorem tagAt_of_tagAndRest? {rest : List Char}
    (h : tagAndRest? ns (text.drop offset) = some (tag, rest)) : TagAt ns text offset tag :=
  ⟨isWritten_of_tagAndRest? h, rest, (eq_of_tagAndRest? h).symm⟩

/-- A tag stands before the end of the text. -/
theorem TagAt.lt_length (h : TagAt ns text offset tag) : offset < text.length := by
  by_contra hge
  have hstands := h.stands
  rw [List.drop_of_length_le (Nat.le_of_not_lt hge), List.prefix_nil] at hstands
  exact tag.text_ne_nil ns hstands

/-- A tag stands in a text where it stands behind another text. -/
theorem tagAt_append_iff (before : List Char) :
    TagAt ns (before ++ text) (before.length + offset) tag ↔ TagAt ns text offset tag := by
  have hdrop : (before ++ text).drop (before.length + offset) = text.drop offset := by
    rw [← List.drop_drop, List.drop_left]
  constructor
  · exact fun h => ⟨h.written, hdrop ▸ h.stands⟩
  · exact fun h => ⟨h.written, hdrop.symm ▸ h.stands⟩

/-- A tag stands at the front of a text where it stands right behind another text. -/
theorem tagAt_append_length_iff (before : List Char) :
    TagAt ns (before ++ text) before.length tag ↔ TagAt ns text 0 tag := by
  have h : TagAt ns (before ++ text) (before.length + 0) tag ↔ TagAt ns text 0 tag :=
    tagAt_append_iff before
  exact h

theorem tagAt_cons_iff (c : Char) :
    TagAt ns (c :: text) (offset + 1) tag ↔ TagAt ns text offset tag := by
  rw [Nat.add_comm]
  exact tagAt_append_iff [c]

/-- A tag that stands in a text stands in front of another text as well. -/
theorem TagAt.append (h : TagAt ns text offset tag) (behind : List Char) :
    TagAt ns (text ++ behind) offset tag := by
  refine ⟨h.written, h.stands.trans ?_⟩
  rw [List.drop_append_of_le_length (Nat.le_of_lt h.lt_length)]
  exact List.prefix_append _ _

/-- Where no tag is read, none stands. -/
theorem not_tagAt_of_tagAndRest? (hns : isNamespace ns = true)
    (h : tagAndRest? ns (text.drop offset) = none) : ¬ TagAt ns text offset tag := by
  intro htag
  obtain ⟨found, rest, hfound, -⟩ := exists_tagAndRest? hns htag.written htag.stands
  exact nomatch h.symm.trans hfound

/-- No tag stands in a run of a source, taken on its own. -/
theorem not_tagAt_of_mem_pieces (hns : isNamespace ns = true) {run : List Char}
    (h : .text run ∈ pieces ns text) : ¬ TagAt ns run offset tag := by
  fun_induction pieces ns text generalizing run offset with
  | case1 => cases h
  | case2 c cs found rest _ ih =>
      rcases List.mem_cons.mp h with heq | hmem
      · cases heq
      · exact ih hmem
  | case3 c cs hnone ih =>
      obtain ⟨first, rest, heq, hparts⟩ := prependText_eq c (pieces ns cs)
      have hsource := flatten_prependText ns c (pieces ns cs)
      rw [heq, flatten_pieces, List.flatMap_cons] at hsource
      rw [heq] at h
      rcases List.mem_cons.mp h with hrun | hmem
      · obtain rfl := Piece.text.inj hrun
        cases offset with
        | zero =>
            -- a tag at the front of the run would stand at the front of the source
            intro htag
            have hfront := htag.append (rest.flatMap (Piece.source ns))
            rw [show c :: first ++ rest.flatMap (Piece.source ns) = c :: cs from hsource] at hfront
            exact absurd hfront (not_tagAt_of_tagAndRest? hns hnone)
        | succ offset =>
            rw [tagAt_cons_iff]
            rcases hparts with ⟨-, rfl, -⟩ | hparts
            · exact fun htag => absurd htag.lt_length (Nat.not_lt_zero _)
            · exact ih (hparts ▸ List.mem_cons_self)
      · rcases hparts with ⟨hparts, -⟩ | hparts
        · exact ih (hparts ▸ hmem)
        · exact ih (hparts ▸ List.mem_cons_of_mem _ hmem)

/-- A text in which no tag stands is one run. -/
theorem pieces_of_not_tagAt (h : ∀ offset tag, ¬ TagAt ns text offset tag) :
    pieces ns text = textPieces text := by
  induction text with
  | nil => rw [pieces]; rfl
  | cons c cs ih =>
      have hrest : pieces ns cs = textPieces cs :=
        ih fun offset tag htag => h (offset + 1) tag ((tagAt_cons_iff c).mpr htag)
      rw [pieces]
      split
      · next tag rest hfound =>
          exact absurd (tagAt_of_tagAndRest? hfound) (h 0 tag)
      · rw [hrest]
        cases cs <;> rfl

end Text

/-! ## Scanning from left to right -/

/-- What a tag does to nesting. -/
def Tag.bracket (tag : Tag) : Bracket :=
  if tag.closing then .closing tag.name else .opening tag.name

/-- Whether a token stands for a tag. -/
def Token.isTag (token : Token) : Bool :=
  token.bracket?.isSome

/-- Whether a token holds the character at an offset. -/
def Token.Covers (token : Token) (offset : Nat) : Prop :=
  token.offset ≤ offset ∧ offset < token.offset + token.text.length

/-- The tags of a text from an offset on, as tokens: the next one is the first that stands there,
    with the longest name of those that do, and the search goes on behind its `>`. -/
inductive TagsFrom (ns text : List Char) : Nat → List Token → Prop where
  | done {start : Nat} (hnone : ∀ offset, start ≤ offset → ∀ tag, ¬ TagAt ns text offset tag) :
      TagsFrom ns text start []
  | next {start : Nat} {tag : Tag} {token : Token} {tokens : List Token}
      (hstart : start ≤ token.offset)
      (hfirst : ∀ offset, start ≤ offset → offset < token.offset →
        ∀ other, ¬ TagAt ns text offset other)
      (htag : TagAt ns text token.offset tag)
      (hlongest : ∀ other, TagAt ns text token.offset other →
        other.name.length ≤ tag.name.length)
      (htext : token.text = tag.text ns) (hbracket : token.bracket? = some tag.bracket)
      (hrest : TagsFrom ns text (token.offset + token.text.length) tokens) :
      TagsFrom ns text start (token :: tokens)

/-- The search may begin one character earlier if no tag stands there. -/
theorem TagsFrom.earlier {ns text : List Char} {start : Nat} {tokens : List Token}
    (h : TagsFrom ns text (start + 1) tokens) (hnone : ∀ tag, ¬ TagAt ns text start tag) :
    TagsFrom ns text start tokens := by
  have hat : ∀ offset, start ≤ offset → offset = start ∨ start + 1 ≤ offset := by
    intro offset hstart
    omega
  cases h with
  | done hlater =>
      refine .done fun offset hstart tag => ?_
      rcases hat offset hstart with rfl | hnext
      · exact hnone tag
      · exact hlater offset hnext tag
  | next hstart hfirst htag hlongest htext hbracket hrest =>
      refine .next (Nat.le_of_succ_le hstart) ?_ htag hlongest htext hbracket hrest
      intro offset hoffset hbefore tag
      rcases hat offset hoffset with rfl | hnext
      · exact hnone tag
      · exact hfirst offset hnext hbefore tag

section Scanning

variable {ns text : List Char} {tokens : List Token}

/-- Text tokens stand for no tags. -/
theorem Token.isTag_of_text {token : Token} (h : token.kind = .text) : token.isTag = false := by
  rw [Token.isTag, Token.bracket?, h]
  rfl

/-- The token of a tag has the tag's name, and closes or opens as the tag does. -/
theorem Piece.Gives.bracket? {tag : Tag} {token : Token} (h : (Piece.tag tag).Gives ns token) :
    token.bracket? = some tag.bracket := by
  rw [Token.bracket?, Tag.bracket]
  rcases Tag.kind_cases h.kind with ⟨hclosing, hkind⟩ | ⟨hclosing, _, _, hkind⟩
  · rw [hkind, hclosing]; rfl
  · rw [hkind, hclosing]; rfl

/-- A character put in front of pieces changes the tokens of tags in no way. -/
theorem filter_tokensFrom_prependText {offset : Nat} {place : Place} {c : Char}
    {parts : List Piece} (h : tokensFrom ns offset place (prependText c parts) = .ok tokens) :
    ∃ rest, tokensFrom ns (offset + 1) (place.step c) parts = .ok rest
      ∧ rest.filter Token.isTag = tokens.filter Token.isTag := by
  obtain ⟨run, more, heq, hparts⟩ := prependText_eq c parts
  rw [heq] at h
  obtain ⟨token, rest, hgives, -, -, hrest, rfl⟩ := tokensFrom_cons_iff.mp h
  have hkind : token.kind = .text := hgives.isText_iff.mp rfl
  rw [hgives.text] at hrest
  have hfilter : (token :: rest).filter Token.isTag = rest.filter Token.isTag :=
    List.filter_cons_of_neg (by rw [Token.isTag_of_text hkind]; exact Bool.false_ne_true)
  rw [hfilter]
  rcases hparts with ⟨rfl, rfl, -⟩ | rfl
  · exact ⟨rest, hrest, rfl⟩
  · -- the run goes on behind the character, and gives a text token again
    refine ⟨⟨.text, run, offset + 1, place.step c⟩ :: rest,
      tokensFrom_cons_iff.mpr ⟨_, rest, ⟨rfl, rfl⟩, rfl, rfl, ?_, rfl⟩, ?_⟩
    · rw [show offset + 1 + run.length = offset + (c :: run).length from by
        rw [List.length_cons]; omega]
      exact hrest
    · exact List.filter_cons_of_neg (by rw [Token.isTag_of_text rfl]; exact Bool.false_ne_true)

/-- The tokens of a text's pieces have its tags, from left to right. -/
theorem tagsFrom_of_tokensFrom (hns : isNamespace ns = true) {before : List Char} {place : Place}
    (h : tokensFrom ns before.length place (pieces ns text) = .ok tokens) :
    TagsFrom ns (before ++ text) before.length (tokens.filter Token.isTag) := by
  fun_induction pieces ns text generalizing before place tokens with
  | case1 =>
      obtain rfl := Except.ok.inj h
      refine .done fun offset hstart tag htag => ?_
      have hlt := htag.lt_length
      rw [List.append_nil] at hlt
      exact absurd hlt (Nat.not_lt.mpr hstart)
  | case2 c cs tag rest hfound ih =>
      obtain ⟨token, more, hgives, hoffset, -, hmore, rfl⟩ := tokensFrom_cons_iff.mp h
      have htext : token.text = tag.text ns := hgives.text
      have hbracket := hgives.bracket?
      have hsource : c :: cs = tag.text ns ++ rest := eq_of_tagAndRest? hfound
      have hat (other : Tag) : TagAt ns (before ++ c :: cs) token.offset other
          ↔ TagAt ns (c :: cs) 0 other := by
        rw [hoffset]
        exact tagAt_append_length_iff before
      have htag : token.isTag = true := by rw [Token.isTag, hbracket]; rfl
      rw [List.filter_cons_of_pos htag]
      have hfront : TagAt ns (c :: cs) 0 tag := tagAt_of_tagAndRest? hfound
      -- the reader takes the longest name, so no tag that stands there has a longer one
      refine .next (Nat.le_of_eq hoffset.symm) ?_ ((hat tag).mpr hfront) ?_ htext hbracket ?_
      · intro offset hstart hbefore
        exact absurd hbefore (Nat.not_lt.mpr (hoffset ▸ hstart))
      · intro other hother
        obtain ⟨longest, _, hread, hlength⟩ :=
          exists_tagAndRest? hns ((hat other).mp hother).written ((hat other).mp hother).stands
        obtain ⟨rfl, -⟩ := Prod.mk.inj (Option.some.inj (hfound.symm.trans hread))
        exact hlength
      · rw [htext, ← List.length_append] at hmore
        have hrest := ih hmore
        rw [hoffset, htext, ← List.length_append, hsource, ← List.append_assoc]
        exact hrest
  | case3 c cs hnone ih =>
      obtain ⟨rest, hrest, hfilter⟩ := filter_tokensFrom_prependText h
      rw [← hfilter]
      have hlater : TagsFrom ns (before ++ c :: cs) (before.length + 1)
          (rest.filter Token.isTag) := by
        have hbehind := @ih rest (before ++ [c]) (place.step c)
          (by rw [List.length_append]; exact hrest)
        rwa [List.append_assoc, List.length_append] at hbehind
      refine hlater.earlier fun tag htag => ?_
      have hfront : TagAt ns (c :: cs) 0 tag := (tagAt_append_length_iff before).mp htag
      exact absurd hfront (not_tagAt_of_tagAndRest? hns hnone)

end Scanning

/-! ## Tokens of a source -/

/-- How the tokens of a source have its tags. -/
structure Finds (ns source : List Char) (tokens : List Token) : Prop where
  /-- The tokens of tags are the tags of the source, from left to right. -/
  tags : TagsFrom ns source 0 (tokens.filter Token.isTag)
  /-- What no tag holds is in text tokens. -/
  others : ∀ offset < source.length,
    (∀ token ∈ tokens, token.isTag = true → ¬ token.Covers offset) →
      ∃ token ∈ tokens, token.kind = .text ∧ token.Covers offset
  /-- A text token taken on its own is text. -/
  alone : ∀ token ∈ tokens, token.kind = .text →
    tokenize ns token.text = .ok [⟨.text, token.text, 0, .first⟩,
      ⟨.finish, [], token.text.length, Place.first.after token.text⟩]

section Source

variable {ns source : List Char} {tokens : List Token}

/-- Every character of a source is held by a token. -/
theorem exists_covers (h : tokenize ns source = .ok tokens) {offset : Nat}
    (hlt : offset < source.length) : ∃ token ∈ tokens, token.Covers offset := by
  obtain ⟨body, place, -, hsource, htokens⟩ := exists_body_of_tokenize h
  rw [← hsource] at hlt
  obtain ⟨before, token, behind, hsplit, hle, hlt⟩ := exists_split_flatMap Token.text body hlt
  have hall : tokens = before ++ token :: (behind ++ [⟨.finish, [], source.length, place⟩]) := by
    rw [htokens, hsplit, List.append_assoc, List.cons_append]
  have hoffset : token.offset = (before.flatMap Token.text).length := by
    rw [(stands_of_tokensFrom h hall).1, Nat.zero_add]
  refine ⟨token, ?_, ?_, ?_⟩
  · rw [hall]
    exact List.mem_append_right _ List.mem_cons_self
  · rwa [hoffset]
  · rwa [hoffset]

/-- A text token holds a run of the source. -/
theorem mem_pieces_of_text (h : tokenize ns source = .ok tokens) {token : Token}
    (htoken : token ∈ tokens) (hkind : token.kind = .text) :
    .text token.text ∈ pieces ns source := by
  obtain ⟨piece, hpiece, hstands⟩ :=
    exists_piece_of_tokenize h htoken (by rw [hkind]; exact nofun)
  exact hstands.text_iff.mp hkind ▸ hpiece

/-- What no token of a tag holds is held by text tokens. -/
theorem text_of_covers (h : tokenize ns source = .ok tokens) {token : Token}
    (htoken : token ∈ tokens) {offset : Nat} (hcovers : token.Covers offset)
    (hnot : token.isTag = false) : token.kind = .text := by
  obtain ⟨body, place, hgives, -, rfl⟩ := exists_body_of_tokenize h
  rcases List.mem_append.mp htoken with hmem | hlast
  · obtain ⟨piece, -, hstands⟩ := exists_piece_of_mem hgives hmem
    by_contra hkind
    obtain ⟨tag, rfl, -⟩ := hstands.exists_tag hkind
    rw [Token.isTag, hstands.bracket?] at hnot
    exact nomatch hnot
  · -- the end holds nothing
    obtain rfl := List.mem_singleton.mp hlast
    exact absurd hcovers.2 (Nat.not_lt.mpr hcovers.1)

/-- The tokens of a run without tags are the run and the end. -/
theorem tokenize_of_not_tagAt {run : List Char} (hrun : run ≠ [])
    (h : ∀ offset tag, ¬ TagAt ns run offset tag) :
    tokenize ns run = .ok [⟨.text, run, 0, .first⟩,
      ⟨.finish, [], run.length, Place.first.after run⟩] := by
  have hpieces : pieces ns run = [.text run] := by
    rw [pieces_of_not_tagAt h, textPieces, if_neg (by simpa using hrun)]
  rw [tokenize, hpieces]
  simp [tokensFrom, Piece.kind, Piece.source, Except.map]

/-- **Tags are found where they stand**: the tokens of a source have its tags, and no others. -/
theorem tokenize_tags (hns : isNamespace ns = true) (h : tokenize ns source = .ok tokens) :
    Finds ns source tokens := by
  constructor
  case tags => exact @tagsFrom_of_tokensFrom ns source tokens hns [] .first h
  case others =>
    intro offset hlt hno
    obtain ⟨token, hmem, hcovers⟩ := exists_covers h hlt
    refine ⟨token, hmem, text_of_covers h hmem hcovers ?_, hcovers⟩
    exact Bool.eq_false_iff.mpr fun htag => hno token hmem htag hcovers
  case alone =>
    intro token hmem hkind
    have hpiece := mem_pieces_of_text h hmem hkind
    exact tokenize_of_not_tagAt (ne_nil_of_mem_pieces hpiece)
      fun offset tag => not_tagAt_of_mem_pieces hns hpiece

end Source

/-- A source with the start of a tag whose quotation never ends in front of a tag. -/
def stray : String :=
  "<my:if x='<my:o\"f/>b"

/-- The tokens of the stray start. -/
def strayTokens : List Token :=
  [⟨.text, "<my:if x='".toList, 0, ⟨1, 1⟩⟩,
    ⟨.opening "o\"f".toList [] true, "<my:o\"f/>".toList, 10, ⟨1, 11⟩⟩,
    ⟨.text, "b".toList, 19, ⟨1, 20⟩⟩, ⟨.finish, [], 20, ⟨1, 21⟩⟩]

/-- Behind the stray start the tag is found. -/
theorem tokenize_tags_stray :
    isNamespace "my".toList = true ∧ tokenize "my".toList stray.toList = .ok strayTokens
      ∧ Finds "my".toList stray.toList strayTokens := by
  have hns : isNamespace "my".toList = true := by decide
  have h : tokenize "my".toList stray.toList = .ok strayTokens := by decide +kernel
  exact ⟨hns, h, tokenize_tags hns h⟩

end Stencil.Directive
