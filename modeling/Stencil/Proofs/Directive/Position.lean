import Stencil.Proofs.Directive.Viability

/-! # Positions — an error stands where its tag does

    A later offset of a text has a later place, for every character that is passed
    moves the place on.  So a place belongs to one offset only, and that one is
    found again by passing the lines above the place and the columns left of it.
    An error of reading or lowering names a tag together with the place behind all
    that stands before it, and a tag keeps its place when it waits to be closed.

    Headlines: `Text.before_placeAt` and `pointsIn_of_compile`. -/

namespace Stencil.Text

/-- A place comes before another: it is on an earlier line, or further left on the same one. -/
def Place.Before (place other : Place) : Prop :=
  place.line < other.line ∨ place.line = other.line ∧ place.column < other.column

/-- The place of an offset of a text. -/
def placeAt (text : List Char) (offset : Nat) : Place :=
  Place.first.after (text.take offset)

/-- The number of characters up to a number of line feeds, these included. -/
def passLines : Nat → List Char → Nat
  | 0, _ => 0
  | _ + 1, [] => 0
  | lines + 1, c :: cs => (if c = '\n' then passLines lines cs else passLines (lines + 1) cs) + 1

/-- The offset of a place of a text: behind the lines above it and the columns left of it. -/
def Place.offsetIn (place : Place) (text : List Char) : Nat :=
  passLines (place.line - 1) text + (place.column - 1)

/-! ## Later offsets have later places -/

namespace Place.Before

variable {place middle other : Place}

theorem trans (h : place.Before middle) (h' : middle.Before other) : place.Before other := by
  rcases h with hline | ⟨hline, hcolumn⟩
  · rcases h' with hnext | ⟨hnext, -⟩
    · exact .inl (Nat.lt_trans hline hnext)
    · exact .inl (hnext ▸ hline)
  · rcases h' with hnext | ⟨hnext, hfurther⟩
    · exact .inl (hline ▸ hnext)
    · exact .inr ⟨hline.trans hnext, Nat.lt_trans hcolumn hfurther⟩

theorem ne (h : place.Before other) : place ≠ other := by
  intro heq
  subst heq
  rcases h with hline | ⟨-, hcolumn⟩
  · exact Nat.lt_irrefl _ hline
  · exact Nat.lt_irrefl _ hcolumn

/-- A character moves the place on. -/
theorem step (place : Place) (c : Char) : place.Before (place.step c) := by
  rw [Place.step]
  split
  · exact .inl (Nat.lt_succ_self _)
  · exact .inr ⟨rfl, Nat.lt_succ_self _⟩

/-- So does every text but the empty one. -/
theorem after (place : Place) {text : List Char} (h : text ≠ []) :
    place.Before (place.after text) := by
  induction text generalizing place with
  | nil => exact absurd rfl h
  | cons c cs ih =>
      show place.Before ((place.step c).after cs)
      by_cases hcs : cs = []
      · rw [hcs]
        exact step place c
      · exact (step place c).trans (ih (place.step c) hcs)

end Place.Before

section Offsets

variable {text : List Char} {offset later : Nat}

/-- **Order**: of two offsets of a text the later one has the later place. -/
theorem before_placeAt (h : offset < later) (hlater : later ≤ text.length) :
    (placeAt text offset).Before (placeAt text later) := by
  have hsplit : text.take later = text.take offset ++ (text.take later).drop offset := by
    have htake : (text.take later).take offset = text.take offset := by
      rw [List.take_take, Nat.min_eq_left (Nat.le_of_lt h)]
    rw [← htake, List.take_append_drop]
  have hne : (text.take later).drop offset ≠ [] := by
    intro hnil
    have hlength := congrArg List.length hnil
    rw [List.length_drop, List.length_take, Nat.min_eq_left hlater, List.length_nil] at hlength
    omega
  rw [placeAt, placeAt, hsplit, Place.after_append]
  exact .after _ hne

/-- Offsets of a text that have the same place are the same. -/
theorem placeAt_injective (hoffset : offset ≤ text.length) (hlater : later ≤ text.length)
    (h : placeAt text offset = placeAt text later) : offset = later := by
  rcases Nat.lt_trichotomy offset later with hlt | heq | hgt
  · exact absurd h (before_placeAt hlt hlater).ne
  · exact heq
  · exact absurd h.symm (before_placeAt hgt hoffset).ne

/-! ## From a place back to its offset -/

/-- Behind the line feeds of a text and one more, all of them are passed. -/
theorem passLines_lineFeed (before behind : List Char) :
    passLines (before.count '\n' + 1) (before ++ '\n' :: behind) = before.length + 1 := by
  induction before with
  | nil => cases behind <;> rfl
  | cons c before ih =>
      rw [List.cons_append, List.length_cons, List.count_cons]
      by_cases hc : c = '\n'
      · subst hc
        show (if '\n' = '\n' then passLines (before.count '\n' + 1) (before ++ '\n' :: behind)
          else _) + 1 = _
        rw [if_pos rfl, ih]
      · rw [beq_eq_false_iff_ne.mpr hc, if_neg Bool.false_ne_true, Nat.add_zero, passLines,
          if_neg hc, ih]

/-- The lines of a text and the characters of its last one are the text. -/
theorem passLines_append (before behind : List Char) :
    passLines (before.count '\n') (before ++ behind) + (lastLine before).length
      = before.length := by
  induction before using List.reverseRecOn generalizing behind with
  | nil => cases behind <;> rfl
  | append_singleton before c ih =>
      rw [List.append_assoc, List.singleton_append, List.count_append, lastLine,
        List.rtakeWhile_concat, List.length_append]
      by_cases hc : c = '\n'
      · subst hc
        show passLines (before.count '\n' + 1) _ + 0 = before.length + 1
        rw [passLines_lineFeed, Nat.add_zero]
      · have hcount : [c].count '\n' = 0 := List.count_eq_zero.mpr (by simpa using Ne.symm hc)
        rw [hcount, if_pos (bne_iff_ne.mpr hc), List.length_append]
        have hline := ih (c :: behind)
        rw [lastLine] at hline
        show passLines (before.count '\n') _ + (_ + 1) = before.length + 1
        omega

/-- Passing the lines above the place of an offset and the columns left of it leads back to it. -/
theorem offsetIn_placeAt (h : offset ≤ text.length) :
    (placeAt text offset).offsetIn text = offset := by
  rw [placeAt, Place.first_after, Place.offsetIn, Nat.add_sub_cancel, Nat.add_sub_cancel]
  have hlines := passLines_append (text.take offset) (text.drop offset)
  rw [List.take_append_drop, List.length_take, Nat.min_eq_left h] at hlines
  exact hlines

end Offsets

end Stencil.Text

namespace Stencil.Directive

open Stencil.Text

/-! ## Errors and their tags -/

/-- An error points at its tag in a source: its place is that of one offset only, which is where its
    line and its column lead, and there the source has a tag of the namespace. -/
structure Error.PointsIn (ns source : List Char) (error : Error) : Prop where
  inside : error.place.offsetIn source < source.length
  place : placeAt source (error.place.offsetIn source) = error.place
  unique : ∀ offset ≤ source.length, placeAt source offset = error.place →
    offset = error.place.offsetIn source
  tag : error.tag <+: source.drop (error.place.offsetIn source)
  start : '<' :: (ns ++ [':']) <+: error.tag ∨ '<' :: '/' :: (ns ++ [':']) <+: error.tag
  finish : ['>'] <:+ error.tag

section Errors

variable {ns source : List Char} {error : Error}

/-- An error points at a tag that it names together with the place behind what stands before it. -/
theorem Error.PointsIn.of_split {before behind : List Char} {tag : Tag}
    (hsource : source = before ++ tag.text ns ++ behind) (htag : error.tag = tag.text ns)
    (hplace : error.place = Place.first.after before) : error.PointsIn ns source := by
  have hlength : before.length < source.length := by
    have hne : 0 < (tag.text ns).length := by
      rw [Tag.text, List.length_append]
      exact Nat.succ_pos _
    rw [hsource, List.length_append, List.length_append]
    omega
  have hat : placeAt source before.length = error.place := by
    rw [placeAt, hsource, List.append_assoc, List.take_left, hplace]
  have hoffset : error.place.offsetIn source = before.length := by
    rw [← hat]
    exact offsetIn_placeAt (Nat.le_of_lt hlength)
  obtain ⟨hstart, hfinish⟩ := Tag.text_bounds ns tag
  constructor
  case inside => rwa [hoffset]
  case place => rwa [hoffset]
  case unique =>
    intro offset hle hsame
    rw [hoffset]
    exact placeAt_injective hle (Nat.le_of_lt hlength) (hsame.trans hat.symm)
  case tag =>
    rw [hoffset, htag, hsource, List.append_assoc, List.drop_left]
    exact List.prefix_append _ _
  case start =>
    rw [htag]
    cases hclosing : tag.closing with
    | false =>
        rw [hclosing] at hstart
        exact .inl hstart
    | true =>
        rw [hclosing] at hstart
        exact .inr hstart
  case finish => rwa [htag]

/-- Reading tokens fails at a tag, with the place behind the pieces before it. -/
theorem exists_tag_of_tokensFrom {offset : Nat} {place : Place} {parts : List Piece}
    (h : tokensFrom ns offset place parts = .error error) :
    ∃ before tag behind, parts = before ++ .tag tag :: behind ∧ error.tag = tag.text ns
      ∧ error.place = place.after (before.flatMap (Piece.source ns)) := by
  induction parts generalizing offset place with
  | nil => cases h
  | cons piece parts ih =>
      rw [tokensFrom] at h
      cases hkind : piece.kind with
      | error cause =>
          rw [hkind] at h
          cases h
          cases piece with
          | text run => cases hkind
          | tag tag => exact ⟨[], tag, parts, rfl, rfl, rfl⟩
      | ok kind =>
          rw [hkind] at h
          cases hrest : tokensFrom ns (offset + (piece.source ns).length)
              (place.after (piece.source ns)) parts with
          | ok tokens =>
              simp only [hrest] at h
              cases h
          | error other =>
              simp only [hrest] at h
              cases h
              obtain ⟨before, tag, behind, rfl, htag, hplace⟩ := ih hrest
              refine ⟨piece :: before, tag, behind, rfl, htag, ?_⟩
              rw [List.flatMap_cons, Place.after_append]
              exact hplace

/-- An error of reading a source points at its tag. -/
theorem pointsIn_of_tokenize (h : tokenize ns source = .error error) :
    error.PointsIn ns source := by
  obtain ⟨before, tag, behind, hparts, htag, hplace⟩ := exists_tag_of_tokensFrom h
  have hsource := flatten_pieces ns source
  rw [hparts, List.flatMap_append, List.flatMap_cons, ← List.append_assoc] at hsource
  exact .of_split hsource.symm htag hplace

/-- Closing an opener leaves openers that were there. -/
theorem mem_of_closeLast {stack openers : List Opener} {token : Token} {name : List Char}
    (h : closeLast stack token name = .ok openers) {opener : Opener} (hopener : opener ∈ openers) :
    opener ∈ stack := by
  cases stack with
  | nil => cases h
  | cons last outer =>
      rw [closeLast] at h
      split at h
      · cases h
        exact List.mem_cons_of_mem _ hopener
      · cases h

/-- Where lowering fails, it is at a tag that it comes to or at one that waits to be closed. -/
theorem isAt_of_lowerFrom {rules : RuleSet} {stack : List Opener} {tokens : List Token}
    (h : lowerFrom ns rules stack tokens = .error error) :
    (∃ token ∈ tokens, token.bracket? ≠ none ∧ error.IsAt token)
      ∨ ∃ opener ∈ stack, error.IsAt opener.token := by
  induction tokens generalizing stack with
  | nil => cases h
  | cons token tokens ih =>
      -- what is said of the tokens behind the first is said of all of them
      have hbehind {next : List Opener} (h : lowerFrom ns rules next tokens = .error error)
          (hnext : ∀ opener ∈ next, opener ∈ stack
            ∨ opener.token = token ∧ token.bracket? ≠ none) :
          (∃ other ∈ token :: tokens, other.bracket? ≠ none ∧ error.IsAt other)
            ∨ ∃ opener ∈ stack, error.IsAt opener.token := by
        rcases ih h with ⟨other, hother, htag, hat⟩ | ⟨opener, hopener, hat⟩
        · exact .inl ⟨other, List.mem_cons_of_mem _ hother, htag, hat⟩
        · rcases hnext opener hopener with hold | ⟨htoken, htag⟩
          · exact .inr ⟨opener, hold, hat⟩
          · exact .inl ⟨token, List.mem_cons_self, htag, htoken ▸ hat⟩
      have hhere (htag : token.bracket? ≠ none) (hat : error.IsAt token) :
          (∃ other ∈ token :: tokens, other.bracket? ≠ none ∧ error.IsAt other)
            ∨ ∃ opener ∈ stack, error.IsAt opener.token :=
        .inl ⟨token, List.mem_cons_self, htag, hat⟩
      cases hkind : token.kind with
      | text =>
          simp only [lowerFrom, hkind, bind_eq_error_iff] at h
          rcases h with hrest | ⟨_, _, h⟩
          · exact hbehind hrest fun opener hopener => .inl hopener
          · cases h
      | opening name attributes selfClosing =>
          have htag : token.bracket? ≠ none := by
            rw [Token.bracket?, hkind]
            intro hnone
            cases hnone
          simp only [lowerFrom, hkind, bind_eq_error_iff] at h
          rcases h with
            hrule | ⟨rule, hrule, hexpression | ⟨expression, hexpression, hrest | ⟨_, _, h⟩⟩⟩
          · exact hhere htag (isAt_of_ruleFor hrule).1
          · exact hhere htag (isAt_of_expressionOf hexpression)
          · refine hbehind hrest fun opener hopener => ?_
            rcases List.mem_cons.mp hopener with rfl | hold
            · exact .inr ⟨rfl, htag⟩
            · exact .inl hold
          · cases h
      | closing name =>
          have htag : token.bracket? ≠ none := by
            rw [Token.bracket?, hkind]
            intro hnone
            cases hnone
          simp only [lowerFrom, hkind, bind_eq_error_iff] at h
          rcases h with hrule | ⟨rule, hrule, hclose | ⟨openers, hclose, hrest | ⟨_, _, h⟩⟩⟩
          · exact hhere htag (isAt_of_ruleFor hrule).1
          · exact hhere htag (isAt_of_closeLast hclose).1
          · refine hbehind hrest fun opener hopener => .inl ?_
            exact mem_of_closeLast hclose hopener
          · cases h
      | finish =>
          simp only [lowerFrom, hkind] at h
          cases stack with
          | nil => exact hbehind h fun opener hopener => .inl hopener
          | cons opener openers =>
              cases h
              exact .inr ⟨opener, List.mem_cons_self, isAt_fault _ _⟩

/-- **Positions**: an error of compiling a source points at its tag. -/
theorem pointsIn_of_compile {rules : RuleSet} (h : compile ns rules source = .error error) :
    error.PointsIn ns source := by
  rw [compile, bind_eq_error_iff] at h
  rcases h with hfailed | ⟨tokens, htokens, hlower⟩
  · exact pointsIn_of_tokenize hfailed
  · rcases isAt_of_lowerFrom hlower with ⟨token, htoken, htag, hat⟩ | ⟨opener, hopener, -⟩
    · obtain ⟨body, place, hgives, hbody, hall⟩ := exists_body_of_tokenize htokens
      have hkinds : token.kind ≠ .text ∧ token.kind ≠ .finish := by
        constructor
        · intro hkind
          exact htag (by rw [Token.bracket?, hkind]; rfl)
        · intro hkind
          exact htag (by rw [Token.bracket?, hkind]; rfl)
      obtain ⟨piece, -, hstands⟩ := exists_piece_of_tokenize htokens htoken hkinds.2
      obtain ⟨tag, -, htext, -⟩ := hstands.exists_tag hkinds.1
      obtain ⟨before, behind, hsplit⟩ := List.append_of_mem htoken
      have hplace := (stands_of_tokensFrom htokens hsplit).2
      have hsource : source = tokens.flatMap Token.text := by
        rw [hall, List.flatMap_append, hbody]
        exact (List.append_nil source).symm
      rw [hsplit, List.flatMap_append, List.flatMap_cons, ← List.append_assoc, htext] at hsource
      exact .of_split hsource (hat.tag.trans htext) (hat.place.trans hplace)
    · cases hopener

end Errors

end Stencil.Directive
