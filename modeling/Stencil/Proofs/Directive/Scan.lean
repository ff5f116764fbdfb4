import Mathlib.Data.List.Basic
import Stencil.Directive.Token

/-! # Scanning — tags and runs of text found where they were written

    A tag that was written out is found again by the reader of tags: its name
    up to the character that ends it, its body up to the first `>` outside
    quotations.  A run of text in which no tag starts stays whole, also in front
    of a tag: the start of a tag holds `<` at its front only, so none can begin in
    the run and end in the tag.  The headline is `pieces_append`: the pieces of a
    free run and of what follows it. -/

namespace Stencil.Directive

open Stencil.Text

/-! ## Bodies -/

/-- Characters that neither open a quotation nor end a tag. -/
def isPlain (c : Char) : Bool :=
  c != '"' && c != '\'' && c != '>'

/-- Plain characters in front of a text stand in front of its body. -/
theorem bodyAndRest?_plain {plain : List Char} (h : ∀ c ∈ plain, isPlain c = true)
    (text : List Char) :
    bodyAndRest? none (plain ++ text)
      = (bodyAndRest? none text).map fun (body, rest) => (plain ++ body, rest) := by
  induction plain with
  | nil => simp
  | cons c plain ih =>
      have hc : (c ≠ '"' ∧ c ≠ '\'') ∧ c ≠ '>' := by
        simpa [isPlain] using h c List.mem_cons_self
      obtain ⟨⟨hdouble, hsingle⟩, hend⟩ := hc
      rw [List.cons_append]
      simp only [bodyAndRest?, beq_iff_eq, hend, if_false, Bool.or_self, Bool.false_eq_true,
        beq_eq_false_iff_ne.mpr hdouble, beq_eq_false_iff_ne.mpr hsingle]
      rw [ih fun d hd => h d (List.mem_cons_of_mem c hd), Option.map_map]
      rfl

/-- An open quotation runs up to its quote. -/
theorem bodyAndRest?_pending {q : Char} {value : List Char} (h : q ∉ value) (text : List Char) :
    bodyAndRest? (some q) (value ++ q :: text)
      = (bodyAndRest? none text).map fun (body, rest) => (value ++ q :: body, rest) := by
  induction value with
  | nil => simp [bodyAndRest?]
  | cons c value ih =>
      have hc : c ≠ q := fun heq => h (heq ▸ List.mem_cons_self)
      rw [List.cons_append]
      simp only [bodyAndRest?, beq_eq_false_iff_ne.mpr hc, Bool.false_eq_true, if_false]
      rw [ih fun hmem => h (List.mem_cons_of_mem c hmem), Option.map_map]
      rfl

/-- A quotation in front of a text stands in front of its body. -/
theorem bodyAndRest?_quotation {q : Char} (hq : q = '"' ∨ q = '\'') {value : List Char}
    (h : q ∉ value) (text : List Char) :
    bodyAndRest? none (q :: (value ++ q :: text))
      = (bodyAndRest? none text).map fun (body, rest) => (q :: (value ++ q :: body), rest) := by
  have hopen : bodyAndRest? none (q :: (value ++ q :: text))
      = (bodyAndRest? (some q) (value ++ q :: text)).map fun (body, rest) => (q :: body, rest) := by
    rcases hq with rfl | rfl <;> rfl
  rw [hopen, bodyAndRest?_pending h, Option.map_map]
  rfl

/-- The first `>` outside quotations ends a body. -/
theorem bodyAndRest?_close (rest : List Char) :
    bodyAndRest? none ('>' :: rest) = some ([], rest) := rfl

/-! ## Names -/

/-- A text at whose start no name can go on. -/
def EndsName (text : List Char) : Prop :=
  ∃ c cs, text = c :: cs ∧ endsName c = true

/-- A name is read up to the character that ends it, if the body behind it is closed. -/
theorem nameBodyAndRest?_append {name text body rest : List Char}
    (hname : ∀ c ∈ name, endsName c = false) (hend : EndsName text)
    (hbody : bodyAndRest? none text = some (body, rest)) :
    nameBodyAndRest? (name ++ text) = some (name, body, rest) := by
  induction name with
  | nil =>
      obtain ⟨c, cs, rfl, hc⟩ := hend
      rw [List.nil_append]
      simp only [nameBodyAndRest?, hc, if_true, hbody, Option.map_some]
  | cons c name ih =>
      have hc : endsName c = false := hname c List.mem_cons_self
      rw [List.cons_append]
      simp only [nameBodyAndRest?, hc, Bool.false_eq_true, if_false,
        ih fun d hd => hname d (List.mem_cons_of_mem c hd)]

/-! ## Starts of tags -/

/-- What follows a beginning that was put in front of a text. -/
theorem rest?_append (start text : List Char) : rest? start (start ++ text) = some text := by
  induction start with
  | nil => rfl
  | cons c start ih =>
      rw [List.cons_append]
      simp only [rest?, beq_self_eq_true, if_true]
      exact ih

/-! ## Namespaces -/

theorem isAlpha_eq (c : Char) :
    c.isAlpha = (decide (c.val ≥ 'A'.val ∧ c.val ≤ 'Z'.val)
      || (decide (c.val ≥ 'a'.val) && decide (c.val ≤ 'z'.val))) := rfl

/-- What can start a name is a word character. -/
theorem isWord_of_isNameStart {c : Char} (h : isNameStart c = true) : isWord c = true := by
  simp only [isNameStart, Bool.or_eq_true, beq_iff_eq] at h
  rcases h with halpha | rfl
  · have hlt : c.toNat < 128 := by
      simp only [isAlpha_eq, Bool.or_eq_true, Bool.and_eq_true,
        decide_eq_true_eq, UInt32.le_iff_toNat_le] at halpha
      have hval : c.toNat = c.val.toNat := rfl
      have hZ : 'Z'.val.toNat = 90 := rfl
      have hz : 'z'.val.toNat = 122 := rfl
      omega
    simp only [isWord, hlt, if_true, Char.isAlphanum, halpha, Bool.true_or]
  · decide

/-- Every character of a namespace is a word character, a hyphen or a line feed. -/
theorem isWord_of_mem_namespace {ns : List Char} (h : isNamespace ns = true) :
    ∀ c ∈ ns, isWord c = true ∨ c = '-' ∨ c = '\n' := by
  cases ns with
  | nil => exact fun c hc => nomatch hc
  | cons first cs =>
      simp only [isNamespace, Bool.and_eq_true, List.all_eq_true, Bool.or_eq_true,
        beq_iff_eq] at h
      obtain ⟨hfirst, hbody⟩ := h
      have hword : ∀ c ∈ cs, (isWord c = true ∨ c = '-') ∨ c = '\n' := by
        intro c hc
        -- a pattern's `$` also matches before a line feed at the end
        by_cases hlast : cs.getLast? = some '\n'
        · rw [if_pos hlast] at hbody
          rw [← List.dropLast_append_getLast? '\n' hlast, List.mem_append,
            List.mem_singleton] at hc
          exact hc.imp (hbody c) id
        · rw [if_neg hlast] at hbody
          exact Or.inl (hbody c hc)
      intro c hc
      rcases List.mem_cons.mp hc with rfl | hmem
      · exact Or.inl (isWord_of_isNameStart hfirst)
      · exact or_assoc.mp (hword c hmem)

/-- No other character is one of a namespace. -/
theorem notMem_namespace {ns : List Char} (h : isNamespace ns = true) {c : Char}
    (hword : isWord c = false) (hother : c ≠ '-' ∧ c ≠ '\n') : c ∉ ns := by
  intro hmem
  rcases isWord_of_mem_namespace h c hmem with hw | hc | hc
  · exact Bool.false_ne_true (hword.symm.trans hw)
  · exact hother.1 hc
  · exact hother.2 hc

/-- No tag starts inside a namespace. -/
theorem lt_notMem_namespace {ns : List Char} (h : isNamespace ns = true) : '<' ∉ ns :=
  notMem_namespace h (by decide) (by decide)

/-- No namespace holds a slash. -/
theorem slash_notMem_namespace {ns : List Char} (h : isNamespace ns = true) : '/' ∉ ns :=
  notMem_namespace h (by decide) (by decide)

/-! ## Tags -/

/-- The start of a tag holds `<` at its front and nowhere else. -/
theorem lt_notMem_tail_tagStart {ns : List Char} (h : isNamespace ns = true) (closing : Bool) :
    '<' ∉ (tagStart ns closing).tail := by
  have hns := lt_notMem_namespace h
  cases closing <;> simp [tagStart, hns]

/-- The start of a tag holds word characters and five others. -/
theorem isWord_or_mem_of_mem_tagStart {ns : List Char} (hns : isNamespace ns = true)
    {closing : Bool} {c : Char} (h : c ∈ tagStart ns closing) :
    isWord c = true ∨ c ∈ ['<', '/', ':', '-', '\n'] := by
  have hmem : c ∈ ns ∨ c ∈ ['<', '/', ':'] := by
    cases closing <;> grind [tagStart]
  rcases hmem with hmem | hmem
  · rcases isWord_of_mem_namespace hns c hmem with hword | rfl | rfl
    · exact .inl hword
    · exact .inr (by decide)
    · exact .inr (by decide)
  · exact .inr (List.mem_append_left ['-', '\n'] hmem)

/-- The start of a tag holds no brace. -/
theorem brace_notMem_tagStart {ns : List Char} (hns : isNamespace ns = true) (closing : Bool) :
    '\x7b' ∉ tagStart ns closing ∧ '\x7d' ∉ tagStart ns closing := by
  have hnone {c : Char} (hword : isWord c = false) (hmem : c ∉ ['<', '/', ':', '-', '\n']) :
      c ∉ tagStart ns closing := by
    intro h
    rcases isWord_or_mem_of_mem_tagStart hns h with htrue | h
    · exact Bool.false_ne_true (hword.symm.trans htrue)
    · exact hmem h
  exact ⟨hnone (by decide) (by decide), hnone (by decide) (by decide)⟩

/-- The start of a tag of one sort is no start of one of the other: no namespace begins with a
    slash. -/
theorem rest?_tagStart_of_ne {ns : List Char} (hns : isNamespace ns = true) {closing other : Bool}
    (h : closing ≠ other) (text : List Char) :
    rest? (tagStart ns closing) (tagStart ns other ++ text) = none := by
  cases ns with
  | nil => cases hns
  | cons c cs =>
      have hc : '/' ≠ c := fun heq => slash_notMem_namespace hns (heq ▸ List.mem_cons_self)
      cases closing <;> cases other
      case false.false => exact absurd rfl h
      case true.true => exact absurd rfl h
      case false.true =>
        simp only [tagStart, if_true, Bool.false_eq_true, if_false, List.cons_append,
          List.nil_append, rest?, beq_self_eq_true, beq_eq_false_iff_ne.mpr hc.symm]
      case true.false =>
        simp only [tagStart, if_true, Bool.false_eq_true, if_false, List.cons_append,
          List.nil_append, rest?, beq_self_eq_true, beq_eq_false_iff_ne.mpr hc]

/-- Behind the start of a tag the tag is what the name and the body say. -/
theorem tagAndRest?_tagStart {ns : List Char} (hns : isNamespace ns = true) (closing : Bool)
    (text : List Char) :
    tagAndRest? ns (tagStart ns closing ++ text)
      = (nameBodyAndRest? text).map fun (name, body, rest) => (⟨closing, name, body⟩, rest) := by
  cases closing with
  | true =>
      rw [tagAndRest?]
      simp only [rest?_append, rest?_tagStart_of_ne hns Bool.false_ne_true]
      cases nameBodyAndRest? text <;> rfl
  | false =>
      rw [tagAndRest?]
      simp only [rest?_append, rest?_tagStart_of_ne hns Bool.false_ne_true.symm]

/-- A tag that was written out is read back, together with what follows it. -/
theorem tagAndRest?_append {ns : List Char} (hns : isNamespace ns = true) {tag : Tag}
    {rest : List Char}
    (hname : nameBodyAndRest? (tag.name ++ (tag.body ++ '>' :: rest))
      = some (tag.name, tag.body, rest)) :
    tagAndRest? ns (tag.text ns ++ rest) = some (tag, rest) := by
  have htext : tag.text ns ++ rest
      = tagStart ns tag.closing ++ (tag.name ++ (tag.body ++ '>' :: rest)) := by
    simp [Tag.text]
  rw [htext, tagAndRest?_tagStart hns, hname]
  rfl

/-- A tag begins with the start of a tag. -/
theorem tagStart_prefix_of_tagAndRest? {ns text rest : List Char} {tag : Tag}
    (h : tagAndRest? ns text = some (tag, rest)) : tagStart ns tag.closing <+: text := by
  refine ⟨tag.name ++ (tag.body ++ '>' :: rest), ?_⟩
  rw [eq_of_tagAndRest? h]
  simp [Tag.text]

/-! ## Runs of text -/

/-- A run of text in which no tag starts. -/
def IsFree (ns run : List Char) : Prop :=
  ∀ closing, ¬ tagStart ns closing <:+: run

/-- What is left of a free run is free. -/
theorem IsFree.of_cons {ns run : List Char} {c : Char} (h : IsFree ns (c :: run)) :
    IsFree ns run :=
  fun closing hin => h closing (hin.trans (List.suffix_cons c run).isInfix)

/-- A text that begins with a tag, or nothing. -/
def BeginsTag (ns text : List Char) : Prop :=
  text = [] ∨ ∃ tag rest, tagAndRest? ns text = some (tag, rest)

/-- No tag begins in a free run, also in front of a tag. -/
theorem tagAndRest?_eq_none {ns : List Char} (hns : isNamespace ns = true) {c : Char}
    {run next : List Char} (hrun : IsFree ns (c :: run)) (hnext : BeginsTag ns next) :
    tagAndRest? ns (c :: run ++ next) = none := by
  cases hfound : tagAndRest? ns (c :: run ++ next) with
  | none => rfl
  | some found =>
      exfalso
      obtain ⟨tag, rest⟩ := found
      obtain ⟨more, hmore⟩ := tagStart_prefix_of_tagAndRest? hfound
      rcases List.append_eq_append_iff.mp hmore with ⟨as, hrunEq, -⟩ | ⟨bs, hstart, hnextEq⟩
      · exact hrun tag.closing ⟨[], as, hrunEq.symm⟩
      · -- the start of the tag would reach into what follows, which begins with `<`
        cases bs with
        | nil => exact hrun tag.closing ⟨[], [], by rw [hstart]; simp⟩
        | cons d bs =>
            rcases hnext with rfl | ⟨tag', rest', hnext⟩
            · exact nomatch hnextEq
            · obtain ⟨more', hmore'⟩ := tagStart_prefix_of_tagAndRest? hnext
              have hd : d = '<' := by
                rw [← hmore'] at hnextEq
                exact (List.cons.inj hnextEq).1.symm
              refine lt_notMem_tail_tagStart hns tag.closing ?_
              rw [hstart, hd]
              simp

/-- The pieces of a run of text: itself, unless it is empty. -/
def textPieces (run : List Char) : List Piece :=
  if run.isEmpty then [] else [.text run]

/-- The pieces of a text that begins with a tag. -/
theorem pieces_of_tagAndRest? {ns text rest : List Char} {tag : Tag}
    (h : tagAndRest? ns text = some (tag, rest)) : pieces ns text = .tag tag :: pieces ns rest := by
  cases text with
  | nil =>
      have := length_lt_of_tagAndRest? h
      exact absurd this (Nat.not_lt_zero _)
  | cons c cs =>
      rw [pieces]
      split
      · next found hfound =>
          rw [h] at hfound
          obtain ⟨rfl, rfl⟩ := Prod.mk.inj (Option.some.inj hfound)
          rfl
      · next hnone => exact absurd (h.symm.trans hnone) (by simp)

/-- The pieces of a free run, and of what follows it. -/
theorem pieces_append {ns : List Char} (hns : isNamespace ns = true) {run next : List Char}
    (hrun : IsFree ns run) (hnext : BeginsTag ns next) :
    pieces ns (run ++ next) = textPieces run ++ pieces ns next := by
  induction run with
  | nil => rfl
  | cons c run ih =>
      have hhead : pieces ns (c :: run ++ next) = prependText c (pieces ns (run ++ next)) := by
        have hnone := tagAndRest?_eq_none hns hrun hnext
        rw [List.cons_append] at hnone ⊢
        rw [pieces]
        split
        · next heq => exact absurd (heq.symm.trans hnone) (by simp)
        · rfl
      rw [hhead, ih hrun.of_cons]
      cases run with
      | cons d run => rfl
      | nil =>
          rcases hnext with rfl | ⟨tag, rest, htag⟩
          · rw [pieces]; rfl
          · rw [pieces_of_tagAndRest? htag]; rfl

end Stencil.Directive
