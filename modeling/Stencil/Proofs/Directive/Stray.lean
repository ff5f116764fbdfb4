import Mathlib.Data.List.Pairwise
import Stencil.Proofs.Directive.Occurrence

/-! # Strays — starts of tags that belong to no tag

    A source that is lowered may hold the start of a tag where no tag stands,
    because a quotation of it is not closed or its `>` is missing.  Unless a tag
    holds it in its name or its body, such a start is in a run of text, and comes
    out of the lowering as it was written.  Every start that a run of text holds is
    of this sort: a tag that stands in the source is a token or inside one, and no
    start reaches from a run of text into the tag behind it.

    Headline: `compile_strays`. -/

namespace Stencil.Directive

open Stencil.Text

/-! ## Tokens and offsets -/

/-- Where a tag stands, a tag of the search holds its front. -/
theorem TagsFrom.exists_covers {ns text : List Char} {start offset : Nat} {tokens : List Token}
    {tag : Tag} (h : TagsFrom ns text start tokens) (hstart : start ≤ offset)
    (htag : TagAt ns text offset tag) : ∃ token ∈ tokens, token.Covers offset := by
  induction h with
  | done hnone => exact absurd htag (hnone offset hstart tag)
  | @next start other token tokens _ hfirst _ _ _ _ _ ih =>
      rcases Nat.lt_or_ge offset token.offset with hbefore | hfront
      · exact absurd htag (hfirst offset hstart hbefore tag)
      · rcases Nat.lt_or_ge offset (token.offset + token.text.length) with hinside | hbehind
        · exact ⟨token, List.mem_cons_self, hfront, hinside⟩
        · obtain ⟨later, hlater, hcovers⟩ := ih hbehind
          exact ⟨later, List.mem_cons_of_mem _ hlater, hcovers⟩

/-- Two tokens that hold no character in common. -/
def Token.Apart (token other : Token) : Prop :=
  ∀ offset, token.Covers offset → ¬ other.Covers offset

instance : Std.Symm Token.Apart :=
  ⟨fun _ _ h offset hother htoken => h offset htoken hother⟩

section Tokens

variable {ns source : List Char} {tokens : List Token}

/-- The tokens of pieces hold no character in common. -/
theorem pairwise_apart {offset : Nat} {place : Place} {parts : List Piece}
    (h : tokensFrom ns offset place parts = .ok tokens) : tokens.Pairwise Token.Apart := by
  induction parts generalizing offset place tokens with
  | nil =>
      obtain rfl := Except.ok.inj h
      exact List.pairwise_singleton _ _
  | cons piece parts ih =>
      obtain ⟨token, rest, -, hoffset, -, hrest, rfl⟩ := tokensFrom_cons_iff.mp h
      refine List.pairwise_cons.mpr ⟨?_, ih hrest⟩
      intro other hother index hcovers hothers
      obtain ⟨before, behind, hsplit⟩ := List.append_of_mem hother
      have hstands := (stands_of_tokensFrom hrest hsplit).1
      have hend : index < token.offset + token.text.length := hcovers.2
      have hbegin : other.offset ≤ index := hothers.1
      omega

/-- Behind an offset that a text token holds stand the rest of its run and what begins with
    `<`. -/
theorem exists_behind_of_text (h : tokenize ns source = .ok tokens) {token : Token}
    (htoken : token ∈ tokens) (hkind : token.kind = .text) {offset : Nat}
    (hcovers : token.Covers offset) :
    ∃ behind, source.drop offset = token.text.drop (offset - token.offset) ++ behind
      ∧ ∀ c ∈ behind.head?, c = '<' := by
  obtain ⟨body, place, hgives, hsource, htokens⟩ := exists_body_of_tokenize h
  have hbody : token ∈ body := by
    rw [htokens, List.mem_append, List.mem_singleton] at htoken
    rcases htoken with hmem | rfl
    · exact hmem
    · exact nomatch hkind
  obtain ⟨before, behind, rfl⟩ := List.append_of_mem hbody
  rw [List.append_assoc, List.cons_append] at htokens
  have hoffset : token.offset = (before.flatMap Token.text).length := by
    rw [(stands_of_tokensFrom h htokens).1, Nat.zero_add]
  refine ⟨behind.flatMap Token.text, ?_, ?_⟩
  · obtain ⟨hle, hlt⟩ := hcovers
    have hdrop : source.drop token.offset = token.text ++ behind.flatMap Token.text := by
      rw [hoffset, ← hsource, List.flatMap_append, List.flatMap_cons, List.drop_left]
    have hinside : offset - token.offset ≤ token.text.length := by omega
    rw [← List.drop_append_of_le_length hinside, ← hdrop, List.drop_drop, Nat.add_sub_cancel' hle]
  · -- the next token is no text token, and so it stands for a tag
    have hapart := isChain_of_gives hgives (isChain_pieces ns source)
    have hnext := (List.isChain_cons.mp (List.isChain_append.mp hapart).2.1).1
    cases behind with
    | nil => exact fun c hc => nomatch hc
    | cons next behind =>
        obtain ⟨piece, -, hstands⟩ := exists_piece_of_mem hgives
          (List.mem_append_right before (List.mem_cons_of_mem token List.mem_cons_self))
        obtain ⟨tag, -, htext, -⟩ := hstands.exists_tag (hnext next rfl hkind)
        rw [List.flatMap_cons, htext]
        rintro c ⟨⟩
        rfl

/-! ## Strays -/

/-- Whether a text token holds the whole start of a tag that stands at an offset of the source. -/
def StrayAt (ns : List Char) (tokens : List Token) (offset : Nat) (closing : Bool) : Prop :=
  ∃ token ∈ tokens, token.kind = .text ∧ token.offset ≤ offset
    ∧ tagStart ns closing <+: token.text.drop (offset - token.offset)

/-- No start of a tag reaches from one text into another that begins with `<`. -/
theorem tagStart_prefix_of_append (hns : isNamespace ns = true) {closing : Bool}
    {text behind : List Char} (hne : text ≠ []) (hbehind : ∀ c ∈ behind.head?, c = '<')
    (h : tagStart ns closing <+: text ++ behind) : tagStart ns closing <+: text := by
  obtain ⟨more, hmore⟩ := h
  rcases List.append_eq_append_iff.mp hmore with ⟨rest, htext, -⟩ | ⟨rest, hstart, hrest⟩
  · exact ⟨rest, htext.symm⟩
  · cases rest with
    | nil => exact ⟨[], by rw [hstart, List.append_nil, List.append_nil]⟩
    | cons c rest =>
        -- the start would have a `<` behind its front
        obtain rfl : c = '<' := hbehind c (by rw [hrest]; rfl)
        obtain ⟨first, text, rfl⟩ := List.exists_cons_of_ne_nil hne
        refine absurd ?_ (lt_notMem_tail_tagStart hns closing)
        rw [hstart]
        exact List.mem_append_right text List.mem_cons_self

theorem tagStart_ne_nil (ns : List Char) (closing : Bool) : tagStart ns closing ≠ [] :=
  List.cons_ne_nil _ _

/-- The strays of a source are the starts in it at which no tag stands and that no tag holds. -/
theorem strayAt_iff (hns : isNamespace ns = true) (h : tokenize ns source = .ok tokens)
    {offset : Nat} {closing : Bool} :
    StrayAt ns tokens offset closing
      ↔ tagStart ns closing <+: source.drop offset ∧ (∀ tag, ¬ TagAt ns source offset tag)
        ∧ ∀ token ∈ tokens, token.isTag = true → ¬ token.Covers offset := by
  constructor
  · rintro ⟨token, htoken, hkind, hle, hstart⟩
    have hcovers : token.Covers offset := by
      refine ⟨hle, ?_⟩
      by_contra hge
      rw [List.drop_of_length_le (by omega), List.prefix_nil] at hstart
      exact tagStart_ne_nil ns closing hstart
    have hothers : ∀ other ∈ tokens, other.isTag = true → ¬ other.Covers offset := by
      intro other hother htag
      have hne : token ≠ other := by
        rintro rfl
        exact Bool.false_ne_true ((Token.isTag_of_text hkind).symm.trans htag)
      exact (pairwise_apart h).forall htoken hother hne offset hcovers
    refine ⟨?_, ?_, hothers⟩
    · obtain ⟨behind, hdrop, -⟩ := exists_behind_of_text h htoken hkind hcovers
      rw [hdrop]
      exact hstart.trans (List.prefix_append _ _)
    · intro tag htag
      obtain ⟨other, hother, hholds⟩ :=
        (@tagsFrom_of_tokensFrom ns source tokens hns [] .first h).exists_covers
          (Nat.zero_le offset) htag
      obtain ⟨hmem, hisTag⟩ := List.mem_filter.mp hother
      exact hothers other hmem hisTag hholds
  · -- that no tag stands there follows: the front of one would be held by a tag
    rintro ⟨hstart, -, hothers⟩
    have hlt : offset < source.length := by
      by_contra hge
      rw [List.drop_of_length_le (Nat.le_of_not_lt hge), List.prefix_nil] at hstart
      exact tagStart_ne_nil ns closing hstart
    obtain ⟨token, htoken, hcovers⟩ := exists_covers h hlt
    have hkind : token.kind = .text :=
      text_of_covers h htoken hcovers
        (Bool.eq_false_iff.mpr fun htag => hothers token htoken htag hcovers)
    obtain ⟨behind, hdrop, hbehind⟩ := exists_behind_of_text h htoken hkind hcovers
    obtain ⟨hle, hend⟩ := hcovers
    refine ⟨token, htoken, hkind, hle, ?_⟩
    rw [hdrop] at hstart
    refine tagStart_prefix_of_append hns ?_ hbehind hstart
    rw [ne_eq, List.drop_eq_nil_iff]
    omega

end Tokens

/-- **Strays pass**: a source that is lowered has tokens that lower one by one, runs of text to
    themselves, and what these runs hold of starts of tags are the starts at which no tag stands
    and that no tag holds. -/
theorem compile_strays {ns : List Char} {rules : RuleSet} {source code : List Char}
    (hns : isNamespace ns = true) (h : compile ns rules source = .ok code) :
    ∃ tokens runs, tokenize ns source = .ok tokens
      ∧ List.Forall₂ (fun token run => Lowers rules token.kind token.text run) tokens runs
      ∧ code = runs.flatten
      ∧ ∀ offset closing, StrayAt ns tokens offset closing
        ↔ tagStart ns closing <+: source.drop offset ∧ (∀ tag, ¬ TagAt ns source offset tag)
          ∧ ∀ token ∈ tokens, token.isTag = true → ¬ token.Covers offset := by
  rw [compile, bind_eq_ok_iff] at h
  obtain ⟨tokens, htokens, hlower⟩ := h
  obtain ⟨runs, hruns, -, hcode⟩ := (lowerFrom_eq_ok_iff (ended_of_tokensFrom htokens)).mp hlower
  exact ⟨tokens, runs, htokens, hruns, hcode, fun _ _ => strayAt_iff hns htokens⟩

/-- A source that is the start of a tag whose quotation never ends. -/
def unclosed : String :=
  "<mky:if cond='a>b"

/-- The unclosed tag passes. -/
theorem compile_strays_unclosed :
    isNamespace "mky".toList = true
      ∧ compile "mky".toList standardRules unclosed.toList = .ok unclosed.toList
      ∧ ∃ tokens runs, tokenize "mky".toList unclosed.toList = .ok tokens
        ∧ List.Forall₂ (fun token run => Lowers standardRules token.kind token.text run)
          tokens runs
        ∧ unclosed.toList = runs.flatten
        ∧ ∀ offset closing, StrayAt "mky".toList tokens offset closing
          ↔ tagStart "mky".toList closing <+: unclosed.toList.drop offset
            ∧ (∀ tag, ¬ TagAt "mky".toList unclosed.toList offset tag)
            ∧ ∀ token ∈ tokens, token.isTag = true → ¬ token.Covers offset := by
  have hns : isNamespace "mky".toList = true := by decide
  have h : compile "mky".toList standardRules unclosed.toList = .ok unclosed.toList := by
    decide +kernel
  exact ⟨hns, h, compile_strays hns h⟩

end Stencil.Directive
