import Mathlib.Data.List.Chain
import Mathlib.Data.List.DropRight
import Mathlib.Data.List.Forall2
import Stencil.Directive.Token

/-! # Tilings — the tokens of a source lie side by side

    Every token but the last is one piece of the source, and begins where the
    token before it ends.  So the texts of the tokens are the source, cut up: none
    of it is lost, said twice or moved, and the offset and the place of a token
    count what stands before it.  Runs of text are never empty and never
    neighbours, since a character is put in front of the run that follows it.

    Headline: `tokenize_tiles`. -/

namespace Stencil.Text

/-! ## Places -/

/-- What a text holds behind its last line feed. -/
def lastLine (text : List Char) : List Char :=
  text.rtakeWhile (· != '\n')

/-- The place behind a text counts its line feeds and the characters of its last line. -/
theorem Place.first_after (text : List Char) :
    Place.first.after text = ⟨text.count '\n' + 1, (lastLine text).length + 1⟩ := by
  induction text using List.reverseRecOn with
  | nil => rfl
  | append_singleton text c ih =>
      rw [Place.after_append, ih]
      show Place.step ⟨_, _⟩ c = _
      rw [lastLine, lastLine, List.rtakeWhile_concat, List.count_append]
      by_cases hc : c = '\n'
      · subst hc
        simp [Place.step]
      · simp [Place.step, hc]

end Stencil.Text

namespace Stencil.Directive

open Stencil.Text

/-! ## Pieces of a source -/

/-- Whether a piece is a run of text. -/
def Piece.isText : Piece → Bool
  | .text _ => true
  | .tag _ => false

/-- A character put in front of pieces begins a run. -/
theorem prependText_eq (c : Char) (parts : List Piece) :
    ∃ run rest, prependText c parts = .text (c :: run) :: rest
      ∧ (parts = rest ∧ run = [] ∧ (∀ part ∈ rest.head?, part.isText = false)
        ∨ parts = .text run :: rest) := by
  rcases parts with _ | ⟨⟨run⟩ | ⟨tag⟩, parts⟩
  · exact ⟨[], [], rfl, .inl ⟨rfl, rfl, fun part hpart => nomatch hpart⟩⟩
  · exact ⟨run, parts, rfl, .inr rfl⟩
  · refine ⟨[], .tag tag :: parts, rfl, .inl ⟨rfl, rfl, ?_⟩⟩
    rintro part ⟨⟩
    rfl

/-- No run of a source is empty. -/
theorem ne_nil_of_mem_pieces {ns text run : List Char} (h : .text run ∈ pieces ns text) :
    run ≠ [] := by
  fun_induction pieces ns text with
  | case1 => cases h
  | case2 c cs tag rest _ ih =>
      rcases List.mem_cons.mp h with heq | hmem
      · cases heq
      · exact ih hmem
  | case3 c cs _ ih =>
      obtain ⟨first, rest, heq, hparts⟩ := prependText_eq c (pieces ns cs)
      rw [heq] at h
      rcases List.mem_cons.mp h with hfirst | hmem
      · obtain rfl := Piece.text.inj hfirst
        exact List.cons_ne_nil c first
      · rcases hparts with ⟨hparts, -⟩ | hparts
        · exact ih (hparts ▸ hmem)
        · exact ih (hparts ▸ List.mem_cons_of_mem _ hmem)

/-- No two runs of a source are neighbours. -/
theorem isChain_pieces (ns text : List Char) :
    (pieces ns text).IsChain fun part next => part.isText = true → next.isText = false := by
  fun_induction pieces ns text with
  | case1 => exact .nil
  | case2 c cs tag rest _ ih =>
      exact List.isChain_cons.mpr ⟨fun _ _ htext => absurd htext Bool.false_ne_true, ih⟩
  | case3 c cs _ ih =>
      obtain ⟨run, rest, heq, ⟨hparts, -, hnext⟩ | hparts⟩ := prependText_eq c (pieces ns cs)
      · rw [heq]
        exact List.isChain_cons.mpr ⟨fun next hmem _ => hnext next hmem, hparts ▸ ih⟩
      · -- the run only grows at its front, so what follows it is the same
        rw [hparts] at ih
        obtain ⟨hnext, hrest⟩ := List.isChain_cons.mp ih
        rw [heq]
        exact List.isChain_cons.mpr ⟨fun next hmem _ => hnext next hmem rfl, hrest⟩

/-! ## Kinds of pieces -/

/-- A tag is well written if it closes and has nothing behind its name, or opens and has a body of
    attributes. -/
theorem Tag.kind_eq_ok_iff {tag : Tag} {kind : TokenKind} :
    tag.kind = .ok kind
      ↔ (tag.closing = true ∧ allBlank tag.body = true ∧ kind = .closing tag.name)
        ∨ (tag.closing = false ∧ ∃ attributes selfClosing,
          readBody [] tag.body = .ok (attributes, selfClosing)
            ∧ kind = .opening tag.name attributes selfClosing) := by
  constructor
  · intro h
    rw [Tag.kind] at h
    cases hclosing : tag.closing with
    | true =>
        rw [hclosing, if_pos rfl] at h
        split at h
        · next hblank => exact .inl ⟨rfl, hblank, (Except.ok.inj h).symm⟩
        · cases h
    | false =>
        rw [hclosing, if_neg Bool.false_ne_true] at h
        split at h
        · next hbody => exact .inr ⟨rfl, _, _, hbody, (Except.ok.inj h).symm⟩
        · cases h
        · cases h
  · rintro (⟨hclosing, hblank, rfl⟩ | ⟨hclosing, attributes, selfClosing, hbody, rfl⟩)
    · rw [Tag.kind, if_pos hclosing, if_pos hblank]
    · simp only [Tag.kind, hclosing, hbody, Bool.false_eq_true, if_false]

/-- A tag that is well written closes or opens, with the name it has. -/
theorem Tag.kind_cases {tag : Tag} {kind : TokenKind} (h : tag.kind = .ok kind) :
    (tag.closing = true ∧ kind = .closing tag.name)
      ∨ (tag.closing = false
        ∧ ∃ attributes selfClosing, kind = .opening tag.name attributes selfClosing) := by
  rcases Tag.kind_eq_ok_iff.mp h with ⟨hclosing, -, hkind⟩ | ⟨hclosing, _, _, -, hkind⟩
  · exact .inl ⟨hclosing, hkind⟩
  · exact .inr ⟨hclosing, _, _, hkind⟩

/-- A tag's text has its start in front and `>` at its end. -/
theorem Tag.text_bounds (ns : List Char) (tag : Tag) :
    tagStart ns tag.closing <+: tag.text ns ∧ ['>'] <:+ tag.text ns := by
  constructor
  · rw [Tag.text, List.append_assoc, List.append_assoc]
    exact List.prefix_append _ _
  · exact List.suffix_append _ _

/-- A token stands for a piece: it has the piece's kind and source text. -/
structure Piece.Gives (ns : List Char) (piece : Piece) (token : Token) : Prop where
  kind : piece.kind = .ok token.kind
  text : token.text = piece.source ns

section Gives

variable {ns : List Char} {piece : Piece} {token : Token}

/-- Text tokens stand for runs. -/
theorem Piece.Gives.text_iff (h : piece.Gives ns token) :
    token.kind = .text ↔ piece = .text token.text := by
  obtain ⟨hkind, htext⟩ := h
  cases piece with
  | text run =>
      rw [htext]
      exact ⟨fun _ => rfl, fun _ => (Except.ok.inj hkind).symm⟩
  | tag tag =>
      refine ⟨fun hk => ?_, fun heq => nomatch heq⟩
      rcases Tag.kind_cases hkind with ⟨-, hclosing⟩ | ⟨-, _, _, hopening⟩
      · exact nomatch hk.symm.trans hclosing
      · exact nomatch hk.symm.trans hopening

theorem Piece.Gives.isText_iff (h : piece.Gives ns token) :
    piece.isText = true ↔ token.kind = .text := by
  rw [h.text_iff]
  cases piece with
  | text run => rw [h.text]; exact ⟨fun _ => rfl, fun _ => rfl⟩
  | tag tag => exact ⟨fun htext => absurd htext Bool.false_ne_true, fun heq => nomatch heq⟩

/-- The other tokens stand for tags, which close or open as the tokens do. -/
theorem Piece.Gives.exists_tag (h : piece.Gives ns token) (hkind : token.kind ≠ .text) :
    ∃ tag, piece = .tag tag ∧ token.text = tag.text ns
      ∧ ((tag.closing = true ∧ token.kind = .closing tag.name)
        ∨ (tag.closing = false
          ∧ ∃ attributes selfClosing, token.kind = .opening tag.name attributes selfClosing)) := by
  cases piece with
  | text run => exact absurd (Except.ok.inj h.kind).symm hkind
  | tag tag => exact ⟨tag, rfl, h.text, Tag.kind_cases h.kind⟩

/-- No piece stands for the end. -/
theorem Piece.Gives.ne_finish (h : piece.Gives ns token) : token.kind ≠ .finish := by
  intro hfinish
  obtain ⟨tag, -, -, ⟨-, hkind⟩ | ⟨-, _, _, hkind⟩⟩ := h.exists_tag (by rw [hfinish]; exact nofun)
  · exact nomatch hfinish.symm.trans hkind
  · exact nomatch hfinish.symm.trans hkind

end Gives

/-! ## Tokens of pieces -/

section Tokens

variable {ns : List Char} {offset : Nat} {place : Place} {parts : List Piece} {tokens : List Token}

/-- The tokens of a piece and of those behind it. -/
theorem tokensFrom_cons_iff {piece : Piece} :
    tokensFrom ns offset place (piece :: parts) = .ok tokens
      ↔ ∃ token rest, piece.Gives ns token ∧ token.offset = offset ∧ token.place = place
        ∧ tokensFrom ns (offset + token.text.length) (place.after token.text) parts = .ok rest
        ∧ tokens = token :: rest := by
  rw [tokensFrom]
  constructor
  · intro h
    cases hkind : piece.kind with
    | error cause => rw [hkind] at h; exact nomatch h
    | ok kind =>
        rw [hkind] at h
        cases hrest : tokensFrom ns (offset + (piece.source ns).length)
            (place.after (piece.source ns)) parts with
        | error e => simp only [hrest] at h; exact nomatch h
        | ok rest =>
            simp only [hrest] at h
            exact ⟨⟨kind, piece.source ns, offset, place⟩, rest, ⟨hkind, rfl⟩, rfl, rfl, hrest,
              (Except.ok.inj h).symm⟩
  · rintro ⟨⟨kind, source, _, _⟩, rest, ⟨hkind, htext⟩, rfl, rfl, hrest, rfl⟩
    dsimp only at hkind htext hrest
    subst htext
    simp only [hkind, hrest]
    rfl

/-- The tokens of pieces stand for them one by one, and the end stands behind them. -/
theorem exists_body_of_tokensFrom (h : tokensFrom ns offset place parts = .ok tokens) :
    ∃ body, List.Forall₂ (Piece.Gives ns) parts body
      ∧ tokens = body ++ [⟨.finish, [], offset + (body.flatMap Token.text).length,
        place.after (body.flatMap Token.text)⟩] := by
  induction parts generalizing offset place tokens with
  | nil => exact ⟨[], .nil, (Except.ok.inj h).symm⟩
  | cons piece parts ih =>
      obtain ⟨token, rest, hgives, -, -, hrest, rfl⟩ := tokensFrom_cons_iff.mp h
      obtain ⟨body, hbody, rfl⟩ := ih hrest
      refine ⟨token :: body, .cons hgives hbody, ?_⟩
      rw [List.flatMap_cons, List.length_append, Place.after_append, Nat.add_assoc,
        List.cons_append]

/-- A token stands behind all that the tokens before it hold. -/
theorem stands_of_tokensFrom (h : tokensFrom ns offset place parts = .ok tokens)
    {before behind : List Token} {token : Token} (heq : tokens = before ++ token :: behind) :
    token.offset = offset + (before.flatMap Token.text).length
      ∧ token.place = place.after (before.flatMap Token.text) := by
  induction parts generalizing offset place tokens before with
  | nil =>
      obtain rfl := Except.ok.inj h
      cases before with
      | nil =>
          obtain ⟨rfl, -⟩ := List.cons.inj heq
          exact ⟨rfl, rfl⟩
      | cons first before => exact absurd (List.cons.inj heq).2 (by simp)
  | cons piece parts ih =>
      obtain ⟨first, rest, -, hoffset, hplace, hrest, rfl⟩ := tokensFrom_cons_iff.mp h
      cases before with
      | nil =>
          obtain ⟨rfl, -⟩ := List.cons.inj heq
          exact ⟨hoffset, hplace⟩
      | cons other before =>
          obtain ⟨rfl, hrests⟩ := List.cons.inj heq
          rw [List.flatMap_cons, List.length_append, Place.after_append, ← Nat.add_assoc]
          exact ih hrest hrests

/-- The texts of the tokens of pieces are the source of the pieces. -/
theorem flatMap_text_of_gives {body : List Token}
    (h : List.Forall₂ (Piece.Gives ns) parts body) :
    body.flatMap Token.text = parts.flatMap (Piece.source ns) := by
  induction h with
  | nil => rfl
  | cons hgives _ ih => rw [List.flatMap_cons, List.flatMap_cons, ih, hgives.text]

/-- Every token but the end stands for a piece. -/
theorem exists_piece_of_mem {body : List Token} (h : List.Forall₂ (Piece.Gives ns) parts body)
    {token : Token} (htoken : token ∈ body) : ∃ piece ∈ parts, piece.Gives ns token := by
  induction h with
  | nil => exact nomatch htoken
  | @cons piece first parts body hgives _ ih =>
      rcases List.mem_cons.mp htoken with rfl | hmem
      · exact ⟨piece, List.mem_cons_self, hgives⟩
      · obtain ⟨other, hother, hstands⟩ := ih hmem
        exact ⟨other, List.mem_cons_of_mem _ hother, hstands⟩

/-- Where no two runs are neighbours, no two text tokens are. -/
theorem isChain_of_gives {body : List Token} (h : List.Forall₂ (Piece.Gives ns) parts body)
    (hapart : parts.IsChain fun part next => part.isText = true → next.isText = false) :
    body.IsChain fun token next => token.kind = .text → next.kind ≠ .text := by
  induction h with
  | nil => exact .nil
  | @cons piece token parts body hgives hrest ih =>
      obtain ⟨hnext, hparts⟩ := List.isChain_cons.mp hapart
      refine List.isChain_cons.mpr ⟨?_, ih hparts⟩
      intro next hmem htext hnextText
      cases hrest with
      | nil => exact nomatch hmem
      | @cons other first parts body hother =>
          obtain rfl := Option.some.inj hmem
          have hno : other.isText = false := hnext other rfl (hgives.isText_iff.mpr htext)
          exact Bool.false_ne_true (hno.symm.trans (hother.isText_iff.mpr hnextText))

end Tokens

/-- What stands at an index of the texts of several things stands in one of them. -/
theorem exists_split_flatMap {α : Type} (text : α → List Char) (parts : List α) {index : Nat}
    (h : index < (parts.flatMap text).length) :
    ∃ before part behind, parts = before ++ part :: behind
      ∧ (before.flatMap text).length ≤ index
      ∧ index < (before.flatMap text).length + (text part).length := by
  induction parts generalizing index with
  | nil => exact absurd h (Nat.not_lt_zero _)
  | cons part parts ih =>
      rw [List.flatMap_cons, List.length_append] at h
      by_cases hfirst : index < (text part).length
      · exact ⟨[], part, parts, rfl, Nat.zero_le _, by simpa using hfirst⟩
      · obtain ⟨before, other, behind, rfl, hle, hlt⟩ :=
          @ih (index - (text part).length) (by omega)
        refine ⟨part :: before, other, behind, rfl, ?_, ?_⟩
        · rw [List.flatMap_cons, List.length_append]
          omega
        · rw [List.flatMap_cons, List.length_append]
          omega

/-! ## Tokens of a source -/

/-- How the tokens of a source lie in it. -/
structure Tiles (ns source : List Char) (tokens : List Token) : Prop where
  /-- The texts of the tokens, one after another, are the source. -/
  flatten : tokens.flatMap Token.text = source
  /-- The offset of a token is the length of what stands before it. -/
  offset : ∀ before token behind, tokens = before ++ token :: behind →
    token.offset = (before.flatMap Token.text).length
  line : ∀ token ∈ tokens, token.place.line = (source.take token.offset).count '\n' + 1
  column : ∀ token ∈ tokens, token.place.column = (lastLine (source.take token.offset)).length + 1
  text_ne_nil : ∀ token ∈ tokens, token.kind = .text → token.text ≠ []
  apart : tokens.IsChain fun token next => token.kind = .text → next.kind ≠ .text
  opening : ∀ token ∈ tokens, ∀ name attributes selfClosing,
    token.kind = .opening name attributes selfClosing →
    '<' :: (ns ++ [':']) <+: token.text ∧ ['>'] <:+ token.text
  closing : ∀ token ∈ tokens, ∀ name, token.kind = .closing name →
    '<' :: '/' :: (ns ++ [':']) <+: token.text ∧ ['>'] <:+ token.text
  /-- The end stands last, and once. -/
  finish : ∃ before place, tokens = before ++ [⟨.finish, [], source.length, place⟩]
    ∧ ∀ token ∈ before, token.kind ≠ .finish

section Tilings

variable {ns source : List Char} {tokens : List Token}

/-- The tokens of a source are tokens of its pieces and the end. -/
theorem exists_body_of_tokenize (h : tokenize ns source = .ok tokens) :
    ∃ body place, List.Forall₂ (Piece.Gives ns) (pieces ns source) body
      ∧ body.flatMap Token.text = source
      ∧ tokens = body ++ [⟨.finish, [], source.length, place⟩] := by
  obtain ⟨body, hgives, htokens⟩ := exists_body_of_tokensFrom h
  have hbody := (flatMap_text_of_gives hgives).trans (flatten_pieces ns source)
  rw [hbody, Nat.zero_add] at htokens
  exact ⟨body, _, hgives, hbody, htokens⟩

/-- What is said of a token other than the end is said of the piece it stands for. -/
theorem exists_piece_of_tokenize (h : tokenize ns source = .ok tokens) {token : Token}
    (htoken : token ∈ tokens) (hkind : token.kind ≠ .finish) :
    ∃ piece ∈ pieces ns source, piece.Gives ns token := by
  obtain ⟨body, place, hgives, -, htokens⟩ := exists_body_of_tokenize h
  rw [htokens, List.mem_append, List.mem_singleton] at htoken
  rcases htoken with hmem | rfl
  · exact exists_piece_of_mem hgives hmem
  · exact absurd rfl hkind

/-- The place of a token is the place behind the source before it. -/
theorem place_of_tokenize (h : tokenize ns source = .ok tokens) {token : Token}
    (htoken : token ∈ tokens) : token.place = Place.first.after (source.take token.offset) := by
  obtain ⟨body, place, -, hbody, htokens⟩ := exists_body_of_tokenize h
  have hsource : tokens.flatMap Token.text = source := by
    rw [htokens, List.flatMap_append, hbody]
    exact List.append_nil source
  obtain ⟨before, behind, hsplit⟩ := List.append_of_mem htoken
  obtain ⟨hoffset, hplace⟩ := stands_of_tokensFrom h hsplit
  rw [hplace, hoffset, Nat.zero_add, ← hsource, hsplit, List.flatMap_append, List.take_left]

/-- **Tokens tile the source**: of every source that has tokens they are a tiling. -/
theorem tokenize_tiles (h : tokenize ns source = .ok tokens) : Tiles ns source tokens := by
  obtain ⟨body, place, hgives, hbody, htokens⟩ := exists_body_of_tokenize h
  constructor
  case flatten =>
    rw [htokens, List.flatMap_append, hbody]
    exact List.append_nil source
  case offset =>
    intro before token behind hsplit
    rw [(stands_of_tokensFrom h hsplit).1, Nat.zero_add]
  case line =>
    intro token htoken
    rw [place_of_tokenize h htoken, Place.first_after]
  case column =>
    intro token htoken
    rw [place_of_tokenize h htoken, Place.first_after]
  case text_ne_nil =>
    intro token htoken hkind
    obtain ⟨piece, hmem, hstands⟩ := exists_piece_of_tokenize h htoken (by rw [hkind]; exact nofun)
    rw [hstands.text_iff.mp hkind] at hmem
    exact ne_nil_of_mem_pieces hmem
  case apart =>
    rw [htokens, List.isChain_append]
    refine ⟨isChain_of_gives hgives (isChain_pieces ns source), .singleton _, ?_⟩
    rintro token - last ⟨⟩ -
    exact nofun
  case opening =>
    intro token htoken name attributes selfClosing hkind
    obtain ⟨piece, -, hstands⟩ := exists_piece_of_tokenize h htoken (by rw [hkind]; exact nofun)
    obtain ⟨tag, -, htext, ⟨-, hother⟩ | ⟨hclosing, -⟩⟩ :=
      hstands.exists_tag (by rw [hkind]; exact nofun)
    · exact nomatch hkind.symm.trans hother
    · have hbounds := Tag.text_bounds ns tag
      rw [hclosing] at hbounds
      rwa [htext]
  case closing =>
    intro token htoken name hkind
    obtain ⟨piece, -, hstands⟩ := exists_piece_of_tokenize h htoken (by rw [hkind]; exact nofun)
    obtain ⟨tag, -, htext, ⟨hclosing, -⟩ | ⟨-, _, _, hother⟩⟩ :=
      hstands.exists_tag (by rw [hkind]; exact nofun)
    · have hbounds := Tag.text_bounds ns tag
      rw [hclosing] at hbounds
      rwa [htext]
    · exact nomatch hkind.symm.trans hother
  case finish =>
    refine ⟨body, place, htokens, ?_⟩
    intro token hmem
    obtain ⟨piece, -, hstands⟩ := exists_piece_of_mem hgives hmem
    exact hstands.ne_finish

end Tilings

/-- A source with tags at the start and in the middle of a line. -/
def rows : String :=
  "a\n<my:if x='>'/>\nb</my:o\"f >"

/-- The tokens of the rows. -/
def rowTokens : List Token :=
  [⟨.text, "a\n".toList, 0, ⟨1, 1⟩⟩,
    ⟨.opening "if".toList [("x".toList, ">".toList)] true, "<my:if x='>'/>".toList, 2, ⟨2, 1⟩⟩,
    ⟨.text, "\nb".toList, 16, ⟨2, 15⟩⟩,
    ⟨.closing "o\"f".toList, "</my:o\"f >".toList, 18, ⟨3, 2⟩⟩, ⟨.finish, [], 28, ⟨3, 12⟩⟩]

/-- The tokens of the rows are a tiling. -/
theorem tokenize_tiles_rows :
    tokenize "my".toList rows.toList = .ok rowTokens ∧ Tiles "my".toList rows.toList rowTokens := by
  have h : tokenize "my".toList rows.toList = .ok rowTokens := by decide +kernel
  exact ⟨h, tokenize_tiles h⟩

end Stencil.Directive
