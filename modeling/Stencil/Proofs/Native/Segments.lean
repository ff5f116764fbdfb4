import Mathlib.Data.List.Basic
import Stencil.Native.Segment
import Stencil.Proofs.Directive.Spelling
import Stencil.Proofs.Native.Language

/-! # Segments — where the tags of a template are found

    Text that holds no start of a tag is passed character by character, and a
    statement or an expression of plain names is taken at its first end.  A brace in front of a
    statement makes an expression of it, the first word of which is a per cent
    sign.

    Headline: `segmentsFrom?_run`, `segmentsFrom?_tag`, `segmentsFrom?_fused`. -/

namespace Stencil.Native

open Stencil.Text

/-! ## Words of statements -/

/-- Whether a text is a name under which a template can see a variable. -/
def IsName (name : List Char) : Prop :=
  name.all isWord = true ∧ isVariableName name = true

instance (name : List Char) : Decidable (IsName name) :=
  inferInstanceAs (Decidable (name.all isWord = true ∧ isVariableName name = true))

/-- No variable name starts with a digit. -/
theorem isDigit_of_isVariableName {c : Char} {cs : List Char}
    (h : isVariableName (c :: cs) = true) : c.isDigit = false := by
  by_contra hdigit
  rw [Bool.not_eq_false] at hdigit
  have hbounds : 48 ≤ c.toNat ∧ c.toNat < 58 := by
    have hval : c.toNat = c.val.toNat := rfl
    simp only [Char.isDigit, Bool.and_eq_true, decide_eq_true_eq, UInt32.le_iff_toNat_le,
      ge_iff_le] at hdigit
    have h0 : '0'.val.toNat = 48 := rfl
    have h9 : '9'.val.toNat = 57 := rfl
    omega
  have hclass : inClass nonNameStartBounds c.toNat = true :=
    inClass_of_between _ hbounds.1 hbounds.2
  simp [isVariableName, hclass] at h

/-- Whether a text does not begin with a word character. -/
def EndsWord (text : List Char) : Prop :=
  ∀ c ∈ text.head?, isWord c = false

theorem endsWord_blank (text : List Char) : EndsWord (' ' :: text) := by
  rintro c ⟨⟩
  decide

/-- A name is read as one word up to where it ends. -/
theorem wordAndRest?_name {name text : List Char} (hname : IsName name) (hend : EndsWord text)
    (afterPoint : Bool) :
    wordAndRest? afterPoint (name ++ text) = some (.name (String.ofList name), text) := by
  obtain ⟨hall, hvariable⟩ := hname
  have hword := List.all_eq_true.mp hall
  cases name with
  | nil => cases hvariable
  | cons c cs =>
      have hc : isWord c = true := hword c List.mem_cons_self
      have hquote : (c == '"' || c == '\'') = false := by
        rw [Bool.or_eq_false_iff, beq_eq_false_iff_ne, beq_eq_false_iff_ne]
        constructor <;> rintro rfl <;> revert hc <;> decide
      have hstop : text.takeWhile isWord = [] ∧ text.dropWhile isWord = text := by
        cases text with
        | nil => exact ⟨rfl, rfl⟩
        | cons d ds =>
            have hd : isWord d = false := hend d rfl
            constructor
            · rw [List.takeWhile_cons, hd]
              rfl
            · rw [List.dropWhile_cons, hd]
              rfl
      have htake : (c :: cs ++ text).takeWhile isWord = c :: cs := by
        rw [List.takeWhile_append_of_pos hword, hstop.1, List.append_nil]
      have hdrop : (c :: cs ++ text).dropWhile isWord = text := by
        rw [List.dropWhile_append_of_pos hword, hstop.2]
      rw [List.cons_append]
      show (if (c == '"' || c == '\'') = true then _ else if c.isDigit = true then _ else
        if isWord c = true then nameAndRest? (c :: cs ++ text) else _) = _
      rw [hquote, isDigit_of_isVariableName hvariable, hc]
      show nameAndRest? (c :: cs ++ text) = _
      rw [nameAndRest?, htake, hdrop]
      exact if_pos hvariable

/-- The kinds of tags that hold words. -/
inductive TagKind where
  | expression
  | statement

namespace TagKind

/-- The character behind the brace that opens a tag. -/
def mark : TagKind → Char
  | .expression => '\x7b'
  | .statement => '%'

/-- The ends of a tag. -/
def ends : TagKind → Ends
  | .expression => expressionEnds
  | .statement => statementEnds

/-- The character in front of the brace that closes a tag. -/
def closing : TagKind → Char
  | .expression => '\x7d'
  | .statement => '%'

/-- The segment of a tag with its words. -/
def segment : TagKind → List Word → Nat → Segment
  | .expression => .expression
  | .statement => .statement

/-- No end of a tag begins with a blank or with a word character. -/
theorem restAfterEnd?_ends (tag : TagKind) {c : Char} (hc : isBlank c = true ∨ isWord c = true)
    (cs : List Char) : restAfterEnd? tag.ends (c :: cs) = none := by
  have hmarks : tag.ends.all (fun entry =>
      entry.1.head?.any fun d => !isBlank d && !isWord d) = true := by
    cases tag <;> decide
  rw [restAfterEnd?, List.findSome?_eq_none_iff]
  rintro ⟨mark, takes⟩ hmem
  have hmark := List.all_eq_true.mp hmarks _ hmem
  cases mark with
  | nil => cases hmark
  | cons d ds =>
      simp only [List.head?_cons, Option.any_some, Bool.and_eq_true, Bool.not_eq_true'] at hmark
      have hne : d ≠ c := by
        rintro rfl
        rcases hc with hblank | hword
        · exact Bool.false_ne_true (hmark.1.symm.trans hblank)
        · exact Bool.false_ne_true (hmark.2.symm.trans hword)
      simp only [rest?, beq_eq_false_iff_ne.mpr hne]
      rfl

end TagKind

/-- Whether a text holds some words up to an end, and what follows it. -/
def HasWords (ends : Ends) (text : List Char) (words : List Word) (rest : List Char) : Prop :=
  ∀ fuel, text.length < fuel → ∀ afterPoint,
    wordsAndRest? ends fuel [] afterPoint text = some (words, rest)

theorem hasWords_end (tag : TagKind) (rest : List Char) :
    HasWords tag.ends (tag.closing :: '\x7d' :: rest) [] rest := by
  intro fuel hfuel afterPoint
  cases fuel with
  | zero => cases hfuel
  | succ fuel => cases tag <;> rfl

section Words

variable {tag : TagKind} {text rest : List Char} {words : List Word}

theorem hasWords_blank (h : HasWords tag.ends text words rest) :
    HasWords tag.ends (' ' :: text) words rest := by
  intro fuel hfuel afterPoint
  cases fuel with
  | zero => cases hfuel
  | succ fuel =>
      have hblank : isBlank ' ' = true := by decide
      rw [wordsAndRest?]
      simp only [List.isEmpty_nil, if_true, tag.restAfterEnd?_ends (.inl hblank), hblank]
      exact h fuel (Nat.lt_of_succ_lt_succ hfuel) false

theorem hasWords_name {name : List Char} (hname : IsName name) (hend : EndsWord text)
    (h : HasWords tag.ends text words rest) :
    HasWords tag.ends (name ++ text) (.name (String.ofList name) :: words) rest := by
  intro fuel hfuel afterPoint
  cases fuel with
  | zero => cases hfuel
  | succ fuel =>
      have hword := wordAndRest?_name hname hend afterPoint
      have hlength : text.length < fuel := by
        cases name with
        | nil => cases hname.2
        | cons c cs =>
            rw [List.cons_append, List.length_cons, List.length_append] at hfuel
            omega
      have hrest := h fuel hlength false
      cases name with
      | nil => cases hname.2
      | cons c cs =>
          have hc : isWord c = true := List.all_eq_true.mp hname.1 c List.mem_cons_self
          have hblank : isBlank c = false := by
            by_contra hblank
            rw [Bool.not_eq_false] at hblank
            rw [Directive.isWord_of_isBlank hblank] at hc
            cases hc
          rw [List.cons_append] at hword ⊢
          rw [wordsAndRest?]
          simp only [List.isEmpty_nil, if_true, tag.restAfterEnd?_ends (.inr hc), hblank]
          rw [hword, if_neg Bool.false_ne_true]
          show (wordsAndRest? tag.ends fuel [] false text).bind _ = _
          rw [hrest]
          rfl

end Words

/-! ## Steps of the split -/

theorem loneStatement?_of_beginsTag {word : String} {ends : Ends} {text : List Char}
    (h : beginsTag text = false) : loneStatement? word ends text = none := by
  cases hrest : rest? ['\x7b', '%'] text with
  | none =>
      rw [loneStatement?, hrest]
      rfl
  | some inside =>
      rw [eq_append_of_rest? hrest] at h
      cases h

/-- Where no tag begins, a character goes to the text before the next tag. -/
theorem segmentsFrom?_char {fuel line : Nat} {pending cs : List Char} {c : Char}
    (h : beginsTag (c :: cs) = false) : segmentsFrom? (fuel + 1) line pending (c :: cs)
      = segmentsFrom? fuel (if c == '\n' then line + 1 else line) (c :: pending) cs := by
  rw [segmentsFrom?]
  simp only [loneStatement?_of_beginsTag h]
  split
  case h_1 heq =>
    rw [heq] at h
    cases h
  case h_2 heq =>
    rw [heq] at h
    cases h
  case h_3 heq =>
    rw [heq] at h
    cases h
  case h_4 => rfl

theorem segmentsFrom?_tag {kind : TagKind} {fuel line : Nat} {pending inside rest : List Char}
    {words : List Word}
    (hraw : loneStatement? "raw" rawEnds ('\x7b' :: kind.mark :: inside) = none)
    (hedge : edgeAndRest inside = (none, inside)) (hwords : HasWords kind.ends inside words rest) :
    ∃ next start, segmentsFrom? (fuel + 1) line pending ('\x7b' :: kind.mark :: inside)
      = (segmentsFrom? fuel next [] rest).map fun segments =>
          textBefore none pending ++ kind.segment words start :: segments := by
  have h := hwords (inside.length + 1) (Nat.lt_succ_self _) false
  refine ⟨line + (('\x7b' :: kind.mark :: inside).take
    (('\x7b' :: kind.mark :: inside).length - rest.length)).count '\n',
    line + (inside.takeWhile isBlank).count '\n', ?_⟩
  cases kind with
  | expression =>
      rw [segmentsFrom?]
      simp only [TagKind.ends] at h
      simp only [TagKind.mark] at hraw ⊢
      simp only [hraw, hedge, h]
      show (segmentsFrom? fuel _ [] rest).bind _ = _
      cases segmentsFrom? fuel _ [] rest <;> rfl
  | statement =>
      rw [segmentsFrom?]
      simp only [TagKind.ends] at h
      simp only [TagKind.mark] at hraw ⊢
      simp only [hraw, hedge, h]
      show (segmentsFrom? fuel _ [] rest).bind _ = _
      cases segmentsFrom? fuel _ [] rest <;> rfl

/-! ## Runs of text -/

/-- Whether no tag begins in a run of text that stands in front of another text. -/
def IsPassed (run text : List Char) : Prop :=
  ∀ c rest, c :: rest <:+ run → beginsTag (c :: rest ++ text) = false

/-- A run that is free of tags is passed, if no brace at its end is put in front of a tag. -/
theorem isPassed_of_isTagFree {run text : List Char} (hrun : IsTagFree run)
    (htext : StartsTag text) (hlast : run.getLast? ≠ some '\x7b' ∨ text = []) :
    IsPassed run text := by
  rintro c rest ⟨before, heq⟩
  by_contra htag
  rw [Bool.not_eq_false] at htag
  have hfree : IsTagFree (c :: rest) := fun mark hmark hin =>
    hrun mark hmark (heq ▸ hin.trans (List.suffix_append before _).isInfix)
  obtain ⟨rfl, rfl, hnil⟩ := beginsTag_run hfree htext htag
  rcases hlast with hlast | hempty
  · exact hlast (by rw [← heq, List.getLast?_concat])
  · exact hnil hempty

/-- A run without braces is passed, whatever stands behind it. -/
theorem isPassed_of_notMem {run : List Char} (h : '\x7b' ∉ run) (text : List Char) :
    IsPassed run text := by
  intro c rest hsuffix
  have hc : c ≠ '\x7b' := fun heq => h (heq ▸ hsuffix.subset List.mem_cons_self)
  rw [List.cons_append]
  unfold beginsTag
  split
  · next heq => exact absurd (List.cons.inj heq).1 hc
  · rfl

/-- A run is passed up to the text behind it. -/
theorem segmentsFrom?_run {run text : List Char} (h : IsPassed run text) (fuel line : Nat)
    (pending : List Char) : ∃ next,
      segmentsFrom? (fuel + run.length) line pending (run ++ text)
        = segmentsFrom? fuel next (run.reverse ++ pending) text := by
  induction run generalizing line pending with
  | nil => exact ⟨line, rfl⟩
  | cons c run ih =>
      have hbegin := h c run (List.suffix_refl _)
      have hrest : IsPassed run text := fun d rest hsuffix =>
        h d rest (hsuffix.trans (List.suffix_cons c run))
      obtain ⟨next, hnext⟩ := ih hrest _ (c :: pending)
      refine ⟨next, ?_⟩
      rw [List.cons_append] at hbegin ⊢
      rw [List.length_cons, ← Nat.add_assoc, segmentsFrom?_char hbegin, hnext, List.reverse_cons,
        List.append_assoc]
      rfl

/-! ## Texts that split -/

/-- Whether a text splits into segments of a kind. -/
def Splits (text : List Char) (kind : List Segment → Prop) : Prop :=
  ∀ fuel line, text.length < fuel →
    ∃ segments, segmentsFrom? fuel line [] text = some segments ∧ kind segments

/-- Whether a text, whatever text stands before it, ends that text and splits into segments of a
    kind. -/
def Follows (text : List Char) (kind : List Segment → Prop) : Prop :=
  ∀ fuel line pending, text.length < fuel →
    ∃ segments, segmentsFrom? fuel line pending text = some (textBefore none pending ++ segments)
      ∧ kind segments

theorem follows_nil : Follows [] (· = []) := by
  intro fuel line pending hfuel
  cases fuel with
  | zero => cases hfuel
  | succ fuel => exact ⟨[], (List.append_nil _).symm ▸ rfl, rfl⟩

/-- A tag ends the text before it. -/
theorem Splits.tag (tag : TagKind) {inside rest : List Char} {words : List Word}
    {kind : List Segment → Prop}
    (hraw : loneStatement? "raw" rawEnds ('\x7b' :: tag.mark :: inside) = none)
    (hedge : edgeAndRest inside = (none, inside))
    (hwords : HasWords tag.ends inside words rest) (hlength : rest.length < inside.length)
    (h : Splits rest kind) : Follows ('\x7b' :: tag.mark :: inside) fun segments =>
      ∃ line behind, segments = tag.segment words line :: behind ∧ kind behind := by
  intro fuel line pending hfuel
  cases fuel with
  | zero => cases hfuel
  | succ fuel =>
      obtain ⟨next, start, hstep⟩ :=
        @segmentsFrom?_tag tag fuel line pending _ _ _ hraw hedge hwords
      obtain ⟨segments, hrest, hkind⟩ := h fuel next (by
        simp only [List.length_cons] at hfuel
        omega)
      refine ⟨tag.segment words start :: segments, ?_, start, segments, rfl, hkind⟩
      rw [hstep, hrest]
      rfl

/-- A run of text becomes the segment before the tag behind it. -/
theorem Follows.run {run text : List Char} {kind : List Segment → Prop}
    (hrun : IsPassed run text) (h : Follows text kind) : Splits (run ++ text) fun segments =>
      ∃ behind, segments = textBefore none run.reverse ++ behind ∧ kind behind := by
  intro fuel line hfuel
  rw [List.length_append] at hfuel
  obtain ⟨next, hnext⟩ := segmentsFrom?_run hrun (fuel - run.length) line []
  obtain ⟨behind, hbehind, hkind⟩ := h (fuel - run.length) next run.reverse (by omega)
  refine ⟨_, ?_, behind, rfl, hkind⟩
  rw [List.append_nil, Nat.sub_add_cancel (by omega)] at hnext
  rw [hnext, hbehind]

/-! ## Texts that are spoiled -/

/-- Whether an expression begins with a per cent sign. -/
def Segment.IsSpoiled : Segment → Prop
  | .expression (.mark "%" :: _) _ => True
  | _ => False

/-- Whether the segments of a text, if it splits at all, have a spoiled one. -/
def Spoiled (text : List Char) : Prop :=
  ∀ fuel line pending segments, segmentsFrom? fuel line pending text = some segments →
    ∃ segment ∈ segments, segment.IsSpoiled

theorem wordAndRest?_percent (text : List Char) :
    wordAndRest? false ('%' :: text) = some (.mark "%", text) := by
  cases text with
  | nil => rfl
  | cons c cs =>
      have hdouble : doubleMarks.contains (String.ofList ['%', c]) = false := by
        simp [doubleMarks, ← String.toList_inj]
      show (if doubleMarks.contains (String.ofList ['%', c]) = true then _ else _) = _
      rw [hdouble]
      rfl

/-- The first word behind a per cent sign is the sign. -/
theorem wordsAndRest?_percent {fuel : Nat} {inside rest : List Char} {words : List Word}
    (h : wordsAndRest? expressionEnds fuel [] false ('%' :: inside) = some (words, rest)) :
    ∃ more, words = .mark "%" :: more := by
  cases fuel with
  | zero => cases h
  | succ fuel =>
      rw [wordsAndRest?, wordAndRest?_percent] at h
      change (wordsAndRest? expressionEnds fuel [] false inside).bind _ = _ at h
      obtain ⟨⟨more, behind⟩, _, hwords⟩ := Option.bind_eq_some_iff.mp h
      cases hwords
      exact ⟨more, rfl⟩

/-- A brace in front of a statement spoils it. -/
theorem segmentsFrom?_fused (inside : List Char) :
    Spoiled ('\x7b' :: '\x7b' :: '%' :: inside) := by
  intro fuel line pending segments h
  cases fuel with
  | zero => cases h
  | succ fuel =>
      -- the two braces open an expression, whatever stands behind them
      rw [segmentsFrom?] at h
      change (wordsAndRest? expressionEnds _ [] false ('%' :: inside)).bind _ = _ at h
      obtain ⟨⟨words, rest⟩, hwords, h⟩ := Option.bind_eq_some_iff.mp h
      obtain ⟨behind, _, hsegments⟩ := Option.bind_eq_some_iff.mp h
      cases hsegments
      obtain ⟨more, rfl⟩ := wordsAndRest?_percent hwords
      exact ⟨_, List.mem_append_right _ List.mem_cons_self, trivial⟩

/-- What is spoiled behind a statement is spoiled. -/
theorem Spoiled.statement {inside rest : List Char} {words : List Word}
    (hraw : loneStatement? "raw" rawEnds ('\x7b' :: '%' :: inside) = none)
    (hedge : edgeAndRest inside = (none, inside))
    (hwords : HasWords TagKind.statement.ends inside words rest) (h : Spoiled rest) :
    Spoiled ('\x7b' :: '%' :: inside) := by
  intro fuel line pending segments hsegments
  cases fuel with
  | zero => cases hsegments
  | succ fuel =>
      obtain ⟨next, start, hstep⟩ :=
        @segmentsFrom?_tag .statement fuel line pending _ _ _ hraw hedge hwords
      change segmentsFrom? (fuel + 1) line pending ('\x7b' :: '%' :: inside) = _ at hstep
      rw [hstep] at hsegments
      obtain ⟨behind, hbehind, rfl⟩ := Option.map_eq_some_iff.mp hsegments
      obtain ⟨segment, hmem, hspoiled⟩ := h fuel next [] behind hbehind
      exact ⟨segment, List.mem_append_right _ (List.mem_cons_of_mem _ hmem), hspoiled⟩

/-- What is spoiled behind a character where no tag begins is spoiled. -/
theorem Spoiled.char {c : Char} {text : List Char} (hc : beginsTag (c :: text) = false)
    (h : Spoiled text) : Spoiled (c :: text) := by
  intro fuel line pending segments hsegments
  cases fuel with
  | zero => cases hsegments
  | succ fuel =>
      rw [segmentsFrom?_char hc] at hsegments
      exact h fuel _ _ segments hsegments

end Stencil.Native
