import Mathlib.Data.List.TakeWhile
import Stencil.Proofs.Directive.Balance
import Stencil.Proofs.Directive.Spelling

/-! # Documents — sources that are written, not found

    A document is a tree: runs of text and directives with bodies.  It is written
    out with free choices of blanks and quotes (`Document.source`), and it has a
    native form that no lexer is needed for (`Document.lowered`).  The headline is
    `compile_source`: what is written out is lowered to the native form, for every
    rule set whose names and keys can be written. -/

namespace Stencil.Directive

open Stencil.Text

/-- The free choices in writing a directive: the layout of its attribute, the gap before the end
    of its opening tag and the one in its closing tag. -/
structure Spelling where
  layout : Layout
  beforeEnd : Gap
  closing : Gap

/-- A document: a run of text, alone or in front of a directive, its body and the document behind
    it.  Runs may be empty, and no two of them are neighbours. -/
inductive Document where
  | text (run : List Char)
  | directive (run name : List Char) (rule : Rule) (expression : List Char) (spelling : Spelling)
      (body rest : Document)

/-- The opening tag of a directive. -/
def openingTag (name : List Char) (rule : Rule) (expression : List Char) (spelling : Spelling) :
    Tag where
  closing := false
  name := name
  body := spelling.layout.write rule.key expression ++ spelling.beforeEnd.val

/-- The closing tag of a directive. -/
def closingTag (name : List Char) (spelling : Spelling) : Tag where
  closing := true
  name := name
  body := spelling.closing.val

/-- Rule sets whose names and keys can be written in tags. -/
def RuleSet.IsWritable (rules : RuleSet) : Prop :=
  ∀ entry ∈ rules, (∀ c ∈ entry.1, endsName c = false) ∧ isKey entry.2.key = true

instance (rules : RuleSet) : Decidable rules.IsWritable :=
  have (entry : List Char × Rule) : Decidable (∀ c ∈ entry.1, endsName c = false) :=
    List.decidableBAll _ _
  inferInstanceAs (Decidable (∀ entry ∈ rules, _))

namespace Document

/-- The source text of a document. -/
def source (ns : List Char) : Document → List Char
  | .text run => run
  | .directive run name rule expression spelling body rest =>
      run ++ ((openingTag name rule expression spelling).text ns ++ (body.source ns
        ++ ((closingTag name spelling).text ns ++ rest.source ns)))

/-- The native text of a document. -/
def lowered : Document → List Char
  | .text run => run
  | .directive run _ rule expression _ body rest =>
      run ++ (filled (strip expression) rule.opener ++ (body.lowered
        ++ (rule.closer ++ rest.lowered)))

/-- Documents that say what they mean to: no run holds the start of a tag, every directive has a
    rule of the set, and its expression is not blank and does not hold its quote. -/
def Fits (ns : List Char) (rules : RuleSet) : Document → Prop
  | .text run => IsFree ns run
  | .directive run name rule expression spelling body rest =>
      IsFree ns run ∧ rules.find? name = some rule ∧ allBlank expression = false
        ∧ spelling.layout.quote.char ∉ expression ∧ body.Fits ns rules ∧ rest.Fits ns rules

/-- Whether a document fits is decided by evaluation. -/
def decideFits (ns : List Char) (rules : RuleSet) : (doc : Document) → Decidable (doc.Fits ns rules)
  | .text run => inferInstanceAs (Decidable (∀ closing, ¬ tagStart ns closing <:+: run))
  | .directive run name rule expression spelling body rest =>
      have := body.decideFits ns rules
      have := rest.decideFits ns rules
      inferInstanceAs (Decidable ((∀ closing, ¬ tagStart ns closing <:+: run)
        ∧ rules.find? name = some rule ∧ allBlank expression = false
        ∧ spelling.layout.quote.char ∉ expression ∧ body.Fits ns rules ∧ rest.Fits ns rules))

instance (ns : List Char) (rules : RuleSet) (doc : Document) : Decidable (doc.Fits ns rules) :=
  doc.decideFits ns rules

end Document

/-! ## Tags of documents -/

/-- A rule that is found stands in the set under its name. -/
theorem mem_of_find? {rules : RuleSet} {name : List Char} {rule : Rule}
    (h : rules.find? name = some rule) : (name, rule) ∈ rules := by
  obtain ⟨before, behind, heq, -⟩ := List.lookup_eq_some_iff.mp h
  rw [← List.mem_reverse, heq]
  exact List.mem_append.mpr (Or.inr List.mem_cons_self)

/-- What is stripped from a text is blank. -/
theorem isBlank_or_mem_strip {text : List Char} {c : Char} (h : c ∈ text) :
    isBlank c = true ∨ c ∈ strip text := by
  have hdrop {text : List Char} (h : c ∈ text) : isBlank c = true ∨ c ∈ text.dropWhile isBlank := by
    rw [← List.takeWhile_append_dropWhile (p := isBlank) (l := text)] at h
    exact (List.mem_append.mp h).imp List.mem_takeWhile_imp id
  rcases hdrop h with hblank | hstart
  · exact .inl hblank
  · exact (hdrop (List.mem_reverse.mpr hstart)).imp id List.mem_reverse.mpr

/-- A text that is not blank leaves something when it is stripped. -/
theorem strip_ne_nil {text : List Char} (h : allBlank text = false) : strip text ≠ [] := by
  intro hnil
  have hall : allBlank text = true := by
    refine List.all_eq_true.mpr fun c hc => ?_
    rcases isBlank_or_mem_strip hc with hblank | hstrip
    · exact hblank
    · exact absurd (hnil ▸ hstrip) List.not_mem_nil
  exact Bool.false_ne_true (h.symm.trans hall)

section Tags

variable {ns : List Char} {rules : RuleSet} {name expression : List Char} {rule : Rule}
  {spelling : Spelling}

/-- An opening tag is found where it was written. -/
theorem tagAndRest?_openingTag (hns : isNamespace ns = true) (hrules : rules.IsWritable)
    (hrule : rules.find? name = some rule) (hquote : spelling.layout.quote.char ∉ expression)
    (rest : List Char) :
    tagAndRest? ns ((openingTag name rule expression spelling).text ns ++ rest)
      = some (openingTag name rule expression spelling, rest) := by
  obtain ⟨hname, hkey⟩ := hrules _ (mem_of_find? hrule)
  refine tagAndRest?_append hns (nameBodyAndRest?_append hname ?_ ?_)
  · simp only [openingTag, Layout.write, List.append_assoc]
    exact endsName_gap spelling.layout.gap_ne_nil _
  · rw [openingTag, List.append_assoc, bodyAndRest?_write hkey hquote, bodyAndRest?_gap]
    rfl

/-- A closing tag is found where it was written. -/
theorem tagAndRest?_closingTag (hns : isNamespace ns = true) (hrules : rules.IsWritable)
    (hrule : rules.find? name = some rule) (rest : List Char) :
    tagAndRest? ns ((closingTag name spelling).text ns ++ rest)
      = some (closingTag name spelling, rest) := by
  obtain ⟨hname, -⟩ := hrules _ (mem_of_find? hrule)
  refine tagAndRest?_append hns (nameBodyAndRest?_append hname ?_
    (bodyAndRest?_gap spelling.closing rest))
  show EndsName (spelling.closing.val ++ '>' :: rest)
  by_cases hgap : spelling.closing.val = []
  · exact ⟨'>', rest, by rw [hgap]; rfl, by decide⟩
  · exact endsName_gap hgap _

/-- An opening tag carries the one attribute of its directive. -/
theorem kind_openingTag (hrules : rules.IsWritable) (hrule : rules.find? name = some rule)
    (hquote : spelling.layout.quote.char ∉ expression) :
    (openingTag name rule expression spelling).kind
      = .ok (.opening name [(rule.key, expression)] false) := by
  obtain ⟨-, hkey⟩ := hrules _ (mem_of_find? hrule)
  have hbody : readBody [] (openingTag name rule expression spelling).body
      = .ok ([(rule.key, expression)], false) := by
    rw [openingTag, readBody_write hkey hquote List.not_mem_nil, readBody_gap]
    rfl
  simp only [Tag.kind, hbody]
  rfl

/-- A closing tag carries nothing behind its name. -/
theorem kind_closingTag : (closingTag name spelling).kind = .ok (.closing name) := by
  have hblank : allBlank (closingTag name spelling).body = true := spelling.closing.property
  simp only [Tag.kind, hblank]
  rfl

end Tags

/-! ## Pieces of documents -/

/-- The pieces of a document, in order. -/
def Document.parts : Document → List Piece
  | .text run => textPieces run
  | .directive run name rule expression spelling body rest =>
      textPieces run ++ .tag (openingTag name rule expression spelling)
        :: (body.parts ++ .tag (closingTag name spelling) :: rest.parts)

/-- The brackets of a document, in order. -/
def Document.brackets : Document → List Bracket
  | .text _ => []
  | .directive _ name _ _ _ body rest =>
      .opening name :: (body.brackets ++ .closing name :: rest.brackets)

/-- The brackets of a document are balanced. -/
theorem balanced_brackets (doc : Document) : Balanced doc.brackets := by
  induction doc with
  | text run => exact .empty
  | directive run name rule expression spelling body rest ihbody ihrest =>
      exact .pair ihbody ihrest

/-- The pieces of a document's source are its parts, also in front of a tag. -/
theorem pieces_source_append {ns : List Char} {rules : RuleSet} (hns : isNamespace ns = true)
    (hrules : rules.IsWritable) {doc : Document} (hdoc : doc.Fits ns rules) {next : List Char}
    (hnext : BeginsTag ns next) :
    pieces ns (doc.source ns ++ next) = doc.parts ++ pieces ns next := by
  induction doc generalizing next with
  | text run => exact pieces_append hns hdoc hnext
  | directive run name rule expression spelling body rest ihbody ihrest =>
      obtain ⟨hrun, hrule, -, hquote, hbody, hrest⟩ := hdoc
      have hopen := tagAndRest?_openingTag hns hrules hrule hquote
        (body.source ns ++ ((closingTag name spelling).text ns ++ (rest.source ns ++ next)))
      have hclose : tagAndRest? ns ((closingTag name spelling).text ns ++ (rest.source ns ++ next))
          = some (closingTag name spelling, rest.source ns ++ next) :=
        tagAndRest?_closingTag hns hrules hrule _
      -- a tag stands behind every part, so no run grows into what follows it
      simp only [Document.source, Document.parts, List.append_assoc, List.cons_append]
      rw [pieces_append hns hrun (Or.inr ⟨_, _, hopen⟩), pieces_of_tagAndRest? hopen,
        ihbody hbody (Or.inr ⟨_, _, hclose⟩), pieces_of_tagAndRest? hclose, ihrest hrest hnext]

/-! ## Tokens of pieces -/

/-- Pieces that are well written and lower one by one: their brackets, and what they lower to. -/
inductive Reads (ns : List Char) (rules : RuleSet) :
    List Piece → List Bracket → List Char → Prop where
  | nil : Reads ns rules [] [] []
  | text {run : List Char} {parts : List Piece} {word : List Bracket} {code : List Char} :
      Reads ns rules parts word code → Reads ns rules (.text run :: parts) word (run ++ code)
  | tag {tag : Tag} {kind : TokenKind} {parts : List Piece} {bracket : Bracket}
      {word : List Bracket} {run code : List Char} :
      tag.kind = .ok kind → kind.bracket? = some bracket → Lowers rules kind (tag.text ns) run →
      Reads ns rules parts word code →
      Reads ns rules (.tag tag :: parts) (bracket :: word) (run ++ code)

/-- Pieces behind pieces read as the one and then the other. -/
theorem Reads.append {ns : List Char} {rules : RuleSet} {parts parts' : List Piece}
    {word word' : List Bracket} {code code' : List Char} (h : Reads ns rules parts word code)
    (h' : Reads ns rules parts' word' code') :
    Reads ns rules (parts ++ parts') (word ++ word') (code ++ code') := by
  induction h with
  | nil => exact h'
  | text _ ih =>
      rw [List.append_assoc]
      exact .text ih
  | tag hkind hbracket hlowers _ ih =>
      rw [List.append_assoc]
      exact .tag hkind hbracket hlowers ih

/-- A run of text reads as itself. -/
theorem reads_textPieces (ns : List Char) (rules : RuleSet) (run : List Char) :
    Reads ns rules (textPieces run) [] run := by
  cases run with
  | nil => exact .nil
  | cons c run =>
      have h : Reads ns rules [.text (c :: run)] [] (c :: run ++ []) := .text .nil
      rwa [List.append_nil] at h

/-- Pieces that read have tokens with their brackets, which lower to what the pieces do. -/
theorem tokens_of_reads {ns : List Char} {rules : RuleSet} {parts : List Piece}
    {word : List Bracket} {code : List Char} (h : Reads ns rules parts word code)
    (offset : Nat) (place : Place) :
    ∃ tokens runs, tokensFrom ns offset place parts = .ok tokens ∧ LowerTo rules tokens runs
      ∧ tokens.filterMap Token.bracket? = word ∧ code = runs.flatten := by
  induction h generalizing offset place with
  | nil => exact ⟨_, [[]], rfl, .cons (.finish _) .nil, rfl, rfl⟩
  | @text run parts word code _ ih =>
      obtain ⟨tokens, runs, htokens, hruns, hword, rfl⟩ :=
        ih (offset + run.length) (place.after run)
      refine ⟨⟨.text, run, offset, place⟩ :: tokens, run :: runs, ?_, .cons (.text run) hruns,
        hword, rfl⟩
      simp only [tokensFrom, Piece.kind, Piece.source, htokens]
      rfl
  | @tag tag kind parts bracket word run code hkind hbracket hlowers _ ih =>
      obtain ⟨tokens, runs, htokens, hruns, hword, rfl⟩ :=
        ih (offset + (tag.text ns).length) (place.after (tag.text ns))
      refine ⟨⟨kind, tag.text ns, offset, place⟩ :: tokens, run :: runs, ?_,
        .cons hlowers hruns, ?_, rfl⟩
      · simp only [tokensFrom, Piece.kind, Piece.source, hkind, htokens]
        rfl
      · rw [List.filterMap_cons_some (by exact hbracket), hword]

/-- The pieces of a document read as its brackets and its native text. -/
theorem reads_parts {ns : List Char} {rules : RuleSet} (hrules : rules.IsWritable)
    {doc : Document} (hdoc : doc.Fits ns rules) :
    Reads ns rules doc.parts doc.brackets doc.lowered := by
  induction doc with
  | text run => exact reads_textPieces ns rules run
  | directive run name rule expression spelling body rest ihbody ihrest =>
      obtain ⟨-, hrule, hexpression, hquote, hbody, hrest⟩ := hdoc
      have hclose : Reads ns rules (.tag (closingTag name spelling) :: rest.parts)
          (.closing name :: rest.brackets) (rule.closer ++ rest.lowered) :=
        .tag kind_closingTag rfl (.closing hrule) (ihrest hrest)
      have hopen : Reads ns rules
          (.tag (openingTag name rule expression spelling)
            :: (body.parts ++ .tag (closingTag name spelling) :: rest.parts))
          (.opening name :: (body.brackets ++ .closing name :: rest.brackets))
          (filled (strip expression) rule.opener
            ++ (body.lowered ++ (rule.closer ++ rest.lowered))) :=
        .tag (kind_openingTag hrules hrule hquote) rfl (.opening hrule (strip_ne_nil hexpression))
          ((ihbody hbody).append hclose)
      exact (reads_textPieces ns rules run).append hopen

/-- The pieces of a document's source are its parts. -/
theorem pieces_source {ns : List Char} {rules : RuleSet} (hns : isNamespace ns = true)
    (hrules : rules.IsWritable) {doc : Document} (hdoc : doc.Fits ns rules) :
    pieces ns (doc.source ns) = doc.parts := by
  have hnil : pieces ns [] = [] := by rw [pieces]
  have h := pieces_source_append hns hrules hdoc (show BeginsTag ns [] from Or.inl rfl)
  rwa [List.append_nil, hnil, List.append_nil] at h

/-- A source whose pieces read as a balanced word is lowered to what they lower to. -/
theorem compile_of_reads {ns : List Char} {rules : RuleSet} {source code : List Char}
    {parts : List Piece} {word : List Bracket} (hpieces : pieces ns source = parts)
    (hreads : Reads ns rules parts word code) (hword : Balanced word) :
    compile ns rules source = .ok code := by
  obtain ⟨tokens, runs, htokens, hruns, rfl, hcode⟩ := tokens_of_reads hreads 0 .first
  rw [compile, bind_eq_ok_iff]
  refine ⟨tokens, by rw [tokenize, hpieces, htokens], ?_⟩
  exact (lowerFrom_eq_ok_iff (ended_of_tokensFrom htokens)).mpr
    ⟨runs, hruns, .done hword, hcode⟩

/-- **Compiling undoes writing**: however a document is written out, its source is lowered to its
    native text. -/
theorem compile_source {ns : List Char} {rules : RuleSet} (hns : isNamespace ns = true)
    (hrules : rules.IsWritable) {doc : Document} (hdoc : doc.Fits ns rules) :
    compile ns rules (doc.source ns) = .ok doc.lowered :=
  compile_of_reads (pieces_source hns hrules hdoc) (reads_parts hrules hdoc)
    (balanced_brackets doc)

/-- A spelling with blanks in every place that takes them. -/
def Spelling.loose : Spelling where
  layout := ⟨⟨['\n', ' '], rfl⟩, ⟨[' '], rfl⟩, ⟨['\t'], rfl⟩, .double, by decide⟩
  beforeEnd := ⟨[' '], rfl⟩
  closing := ⟨[' '], rfl⟩

/-- A spelling with the one blank that is needed. -/
def Spelling.tight : Spelling where
  layout := ⟨⟨[' '], rfl⟩, ⟨[], rfl⟩, ⟨[], rfl⟩, .single, by decide⟩
  beforeEnd := ⟨[], rfl⟩
  closing := ⟨[], rfl⟩

/-- A directive whose name holds a quote and whose opener has two marks. -/
def doubled : Rule where
  name := "of".toList
  key := "in".toList
  opener := "[\x7bexpr\x7d|\x7bexpr\x7d".toList
  closer := "]".toList

/-- A document whose expressions and runs hold quotes, ends of tags and beginnings of tags. -/
def knotted : Document :=
  .directive "<b<my".toList "if".toList conditional " a > 'b' ".toList .loose
    (.directive [] "o\"f".toList doubled "x\"/>".toList .tight (.text "</my".toList) (.text []))
    (.text "<my: ".toList)

/-- The knotted document is lowered to its native text. -/
theorem compile_source_knotted :
    isNamespace "my-ns".toList = true
      ∧ RuleSet.IsWritable (standardRules ++ [("o\"f".toList, doubled)])
      ∧ knotted.Fits "my-ns".toList (standardRules ++ [("o\"f".toList, doubled)])
      ∧ compile "my-ns".toList (standardRules ++ [("o\"f".toList, doubled)])
          ("<b<my<my-ns:if\n cond =\t\" a > 'b' \" ><my-ns:o\"f in='x\"/>'></my</my-ns:o\"f>"
            ++ "</my-ns:if ><my: ").toList
        = .ok "<b<my\x7b% if a > 'b' %\x7d[x\"/>|x\"/></my]\x7b% endif %\x7d<my: ".toList := by
  refine ⟨by decide, by decide, by decide, ?_⟩
  have h : compile "my-ns".toList (standardRules ++ [("o\"f".toList, doubled)])
      (knotted.source "my-ns".toList) = .ok knotted.lowered :=
    compile_source (by decide) (by decide) (by decide)
  have hsource : knotted.source "my-ns".toList
      = ("<b<my<my-ns:if\n cond =\t\" a > 'b' \" ><my-ns:o\"f in='x\"/>'></my</my-ns:o\"f>"
        ++ "</my-ns:if ><my: ").toList := by decide
  have hlowered : knotted.lowered
      = "<b<my\x7b% if a > 'b' %\x7d[x\"/>|x\"/></my]\x7b% endif %\x7d<my: ".toList := by decide
  rwa [hsource, hlowered] at h

end Stencil.Directive
