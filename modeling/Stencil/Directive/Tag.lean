import Stencil.Text.Blank
import Stencil.Text.Pieces

/-! # Tags — where a source text holds directive tags

    A tag is `<ns:name body>` or `</ns:name body>`: the name is free of blanks,
    slashes and `>`, and the body ends at the first `>` outside quotes, all of
    whose quotes are closed.  Of several names the longest that leaves such a
    body is taken.  `pieces` splits a source into tags and the maximal runs of
    text between them; the pieces written one after the other are the source
    (`flatten_pieces`). -/

namespace Stencil.Directive

open Stencil.Text

/-- Characters at which a directive's name ends. -/
def endsName (c : Char) : Bool :=
  isBlank c || c == '/' || c == '>'

/-- A directive tag as it stands in the source. -/
structure Tag where
  closing : Bool
  name : List Char
  body : List Char
deriving DecidableEq, Repr

/-- The beginning of a tag, up to its name. -/
def tagStart (ns : List Char) (closing : Bool) : List Char :=
  '<' :: ((if closing then ['/'] else []) ++ ns ++ [':'])

/-- The source text of a tag. -/
def Tag.text (ns : List Char) (tag : Tag) : List Char :=
  tagStart ns tag.closing ++ tag.name ++ tag.body ++ ['>']

/-- The body up to the first `>` outside quotes and what follows that `>`; `pending` is the quote
    that is open at the start. -/
def bodyAndRest? : Option Char → List Char → Option (List Char × List Char)
  | _, [] => none
  | some q, c :: cs =>
    (bodyAndRest? (if c == q then none else some q) cs).map fun (body, rest) => (c :: body, rest)
  | none, c :: cs =>
    if c == '>' then some ([], cs)
    else
      (bodyAndRest? (if c == '"' || c == '\'' then some c else none) cs).map
        fun (body, rest) => (c :: body, rest)

/-- The longest name behind which a body is closed, that body, and what follows the tag. -/
def nameBodyAndRest? : List Char → Option (List Char × List Char × List Char)
  | [] => none
  | c :: cs =>
    let here := (bodyAndRest? none (c :: cs)).map fun (body, rest) => ([], body, rest)
    if endsName c then here
    else
      match nameBodyAndRest? cs with
      | some (name, body, rest) => some (c :: name, body, rest)
      | none => here

/-- The tag with which a text begins, and what follows it. -/
def tagAndRest? (ns : List Char) (text : List Char) : Option (Tag × List Char) :=
  let named (closing : Bool) : Option (Tag × List Char) :=
    match rest? (tagStart ns closing) text with
    | none => none
    | some named =>
      (nameBodyAndRest? named).map fun (name, body, rest) => (⟨closing, name, body⟩, rest)
  match named true with
  | some found => some found
  | none => named false

/-! ## What a tag takes from the source -/

/-- A closed body is the text before a `>`. -/
theorem eq_of_bodyAndRest? {pending : Option Char} {text body rest : List Char}
    (h : bodyAndRest? pending text = some (body, rest)) : text = body ++ '>' :: rest := by
  induction text generalizing pending body with
  | nil => cases pending <;> simp [bodyAndRest?] at h
  | cons c cs ih =>
    cases pending with
    | some q =>
      simp only [bodyAndRest?, Option.map_eq_some_iff, Prod.mk.injEq, Prod.exists] at h
      obtain ⟨tail, _, htail, rfl, rfl⟩ := h
      simp [ih htail]
    | none =>
      simp only [bodyAndRest?] at h
      split at h
      · next hc =>
        simp only [Option.some.injEq, Prod.mk.injEq] at h
        obtain ⟨rfl, rfl⟩ := h
        simp [beq_iff_eq.mp hc]
      · simp only [Option.map_eq_some_iff, Prod.mk.injEq, Prod.exists] at h
        obtain ⟨tail, _, htail, rfl, rfl⟩ := h
        simp [ih htail]

/-- A name and a closed body are the text before a `>`. -/
theorem eq_of_nameBodyAndRest? {text name body rest : List Char}
    (h : nameBodyAndRest? text = some (name, body, rest)) :
    text = name ++ body ++ '>' :: rest := by
  have here {text : List Char}
      (h : (bodyAndRest? none text).map (fun (body, rest) => (([] : List Char), body, rest))
        = some (name, body, rest)) : text = name ++ body ++ '>' :: rest := by
    simp only [Option.map_eq_some_iff, Prod.mk.injEq, Prod.exists] at h
    obtain ⟨_, _, hbody, rfl, rfl, rfl⟩ := h
    simpa using eq_of_bodyAndRest? hbody
  induction text generalizing name with
  | nil => simp [nameBodyAndRest?] at h
  | cons c cs ih =>
    simp only [nameBodyAndRest?] at h
    split at h
    · exact here h
    · split at h
      · next heq =>
        simp only [Option.some.injEq, Prod.mk.injEq] at h
        obtain ⟨rfl, rfl, rfl⟩ := h
        simp [ih heq (fun h => by
          simp only [Option.map_eq_some_iff, Prod.mk.injEq, Prod.exists] at h
          obtain ⟨_, _, hbody, rfl, rfl, rfl⟩ := h
          simpa using eq_of_bodyAndRest? hbody)]
      · exact here h

/-- A tag found at the start of a text, written again, is what it took. -/
theorem eq_of_tagAndRest? {ns text rest : List Char} {tag : Tag}
    (h : tagAndRest? ns text = some (tag, rest)) : text = tag.text ns ++ rest := by
  have named {closing : Bool}
      (h : (match rest? (tagStart ns closing) text with
        | none => none
        | some named =>
          (nameBodyAndRest? named).map fun (name, body, rest) =>
            ((⟨closing, name, body⟩ : Tag), rest)) = some (tag, rest)) :
      text = tag.text ns ++ rest := by
    split at h
    · exact absurd h (by simp)
    · next after hafter =>
      simp only [Option.map_eq_some_iff, Prod.mk.injEq, Prod.exists] at h
      obtain ⟨_, _, _, hname, rfl, rfl⟩ := h
      rw [eq_append_of_rest? hafter, eq_of_nameBodyAndRest? hname]
      simp [Tag.text]
  simp only [tagAndRest?] at h
  split at h
  · next found hfound =>
    rw [Option.some.injEq] at h
    subst h
    exact named hfound
  · exact named h

/-- What follows a tag is shorter than the text it begins. -/
theorem length_lt_of_tagAndRest? {ns text rest : List Char} {tag : Tag}
    (h : tagAndRest? ns text = some (tag, rest)) : rest.length < text.length := by
  rw [eq_of_tagAndRest? h]
  simp [Tag.text]
  omega

/-! ## Splitting a source -/

/-- A piece of a source: a run of text or a tag. -/
inductive Piece where
  | text (run : List Char)
  | tag (tag : Tag)
deriving DecidableEq, Repr

/-- The source text of a piece. -/
def Piece.source (ns : List Char) : Piece → List Char
  | .text run => run
  | .tag found => found.text ns

/-- Puts a character in front of the pieces that follow it. -/
def prependText (c : Char) : List Piece → List Piece
  | .text run :: pieces => .text (c :: run) :: pieces
  | pieces => .text [c] :: pieces

/-- The tags of a source and the runs of text between them. -/
def pieces (ns : List Char) : List Char → List Piece
  | [] => []
  | c :: cs =>
    match _h : tagAndRest? ns (c :: cs) with
    | some (tag, rest) => .tag tag :: pieces ns rest
    | none => prependText c (pieces ns cs)
termination_by text => text.length
decreasing_by
  · exact length_lt_of_tagAndRest? (by assumption)
  · simp

/-- A character put in front of pieces stands in front of their source. -/
theorem flatten_prependText (ns : List Char) (c : Char) (parts : List Piece) :
    (prependText c parts).flatMap (Piece.source ns) = c :: parts.flatMap (Piece.source ns) := by
  cases parts with
  | nil => simp [prependText, Piece.source]
  | cons part parts => cases part <;> simp [prependText, Piece.source]

/-- The pieces of a source written one after the other are the source. -/
theorem flatten_pieces (ns text : List Char) :
    (pieces ns text).flatMap (Piece.source ns) = text := by
  fun_induction pieces ns text with
  | case1 => rfl
  | case2 c cs tag rest h ih => simp [Piece.source, ih, eq_of_tagAndRest? h]
  | case3 c cs h ih => rw [flatten_prependText, ih]

end Stencil.Directive
