import Mathlib.Data.List.Basic
import Stencil.Engine.Dialogue

/-! # The native language — what is documented of it

    The native language is none of the engine's own.  What the engine is built on
    is that text without tags stands for itself, that a name in double braces is
    replaced by the text bound under it, that a conditional over a name shows its
    body if the name is bound to true, and that tags are found from the left, where
    two braces open an expression, which no per cent sign can begin.

    Which texts are names is the language's own matter, and so is the form in which
    names agree that are one variable to it: names of one form must have one value
    for any of this to hold.  All else that a template can hold is left open.

    Headline: `Blocks.spoilt`, `Substrate.Interpolates`, `Substrate.Branches`. -/

namespace Stencil.Native

/-! ## Names -/

/-- What a native language takes for the name of a variable, and the form in which the names of one
    variable agree.  Of the ASCII characters only letters, digits and underscores stand in names. -/
structure Naming where
  isName : List Char → Bool
  form : List Char → List Char
  ascii : ∀ name, isName name = true → ∀ c ∈ name, c.toNat < 128 → c.isAlphanum = true ∨ c = '_'

/-- The names that are no variables: constants, the negation, and what the language and the engine
    bind themselves. -/
def reservedNames : List (List Char) :=
  ["true".toList, "True".toList, "false".toList, "False".toList, "none".toList, "None".toList,
    "not".toList, "self".toList, "this".toList]

namespace Naming

variable {α : Type}

/-- What is no letter, no digit and no underscore of the ASCII characters stands in no name. -/
theorem notMem_of_ascii (naming : Naming) {name : List Char} (hname : naming.isName name = true)
    {c : Char} (hc : c.toNat < 128) (hother : ¬ (c.isAlphanum = true ∨ c = '_')) : c ∉ name :=
  fun hmem => hother (naming.ascii name hname c hmem hc)

/-- Whether a text is the name of a variable that is not reserved. -/
def IsVariable (naming : Naming) (name : List Char) : Prop :=
  naming.isName name = true ∧ name ∉ reservedNames

instance (naming : Naming) (name : List Char) : Decidable (naming.IsVariable name) :=
  inferInstanceAs (Decidable (naming.isName name = true ∧ name ∉ reservedNames))

/-- Whether those of some names that are one variable have one value. -/
def Agree (naming : Naming) (value : List Char → α) (names : List (List Char)) : Prop :=
  ∀ name ∈ names, ∀ other ∈ names, naming.form name = naming.form other → value name = value other

end Naming

/-! ## Text and tags -/

/-- The tag that puts in what is bound under a name. -/
def slotTag (name : List Char) : List Char :=
  '\x7b' :: '\x7b' :: ' ' :: (name ++ [' ', '\x7d', '\x7d'])

/-- The tag that opens a conditional over a name. -/
def openTag (name : List Char) : List Char :=
  '\x7b' :: '%' :: ' ' :: 'i' :: 'f' :: ' ' :: (name ++ [' ', '%', '\x7d'])

/-- The tag that closes a conditional. -/
def closeTag : List Char :=
  ['\x7b', '%', ' ', 'e', 'n', 'd', 'i', 'f', ' ', '%', '\x7d']

/-- Whether a text begins with the start of a tag of any kind. -/
def beginsTag : List Char → Bool
  | '\x7b' :: c :: _ => c == '\x7b' || c == '%' || c == '#'
  | _ => false

/-- The starts and ends of tags. -/
def delimiters : List (List Char) :=
  [['\x7b', '\x7b'], ['\x7b', '%'], ['\x7b', '#'], ['\x7d', '\x7d'], ['%', '\x7d'], ['#', '\x7d']]

/-- Whether a run of text holds no start and no end of a tag. -/
def IsTagFree (run : List Char) : Prop :=
  ∀ mark ∈ delimiters, ¬ mark <:+: run

instance (run : List Char) : Decidable (IsTagFree run) :=
  inferInstanceAs (Decidable (∀ mark ∈ delimiters, ¬ mark <:+: run))

/-- Whether a run of text holds no carriage return and no start and no end of a tag. -/
def IsTextRun (run : List Char) : Prop :=
  '\r' ∉ run ∧ IsTagFree run

instance (run : List Char) : Decidable (IsTextRun run) :=
  inferInstanceAs (Decidable ('\r' ∉ run ∧ IsTagFree run))

/-- A template that is text and names to put in: a run of text, alone or in front of a name and of
    the rest of the template. -/
inductive Interpolated where
  | text (run : List Char)
  | slot (run name : List Char) (rest : Interpolated)

namespace Interpolated

/-- The text of a template. -/
def source : Interpolated → List Char
  | .text run => run
  | .slot run name rest => run ++ (slotTag name ++ rest.source)

/-- The names that a template puts in. -/
def names : Interpolated → List (List Char)
  | .text _ => []
  | .slot _ name rest => name :: rest.names

/-- The text of a template with each name replaced by what is written for it. -/
def output (written : List Char → List Char) : Interpolated → List Char
  | .text run => run
  | .slot run name rest => run ++ (written name ++ rest.output written)

/-- Whether no run of a template holds an opening brace or a carriage return, and its names are
    variables. -/
def IsLegible (naming : Naming) : Interpolated → Prop
  | .text run => '\x7b' ∉ run ∧ '\r' ∉ run
  | .slot run name rest =>
      ('\x7b' ∉ run ∧ '\r' ∉ run) ∧ naming.IsVariable name ∧ rest.IsLegible naming

/-- Whether a template is legible is decided by evaluation. -/
def decideLegible (naming : Naming) : (template : Interpolated) →
    Decidable (template.IsLegible naming)
  | .text run => inferInstanceAs (Decidable ('\x7b' ∉ run ∧ '\r' ∉ run))
  | .slot run name rest =>
      have := rest.decideLegible naming
      inferInstanceAs (Decidable (('\x7b' ∉ run ∧ '\r' ∉ run) ∧ naming.IsVariable name
        ∧ rest.IsLegible naming))

instance (naming : Naming) (template : Interpolated) : Decidable (template.IsLegible naming) :=
  template.decideLegible naming

end Interpolated

/-- A template that is text and conditionals over names: a run of text, alone or in front of a
    conditional with its body and of the rest of the template. -/
inductive Blocks where
  | text (run : List Char)
  | block (run name : List Char) (body rest : Blocks)

namespace Blocks

/-- The text of a template. -/
def source : Blocks → List Char
  | .text run => run
  | .block run name body rest =>
      run ++ (openTag name ++ (body.source ++ (closeTag ++ rest.source)))

/-- The names that the conditionals of a template test. -/
def names : Blocks → List (List Char)
  | .text _ => []
  | .block _ name body rest => name :: (body.names ++ rest.names)

/-- The text of a template without the bodies whose condition does not hold. -/
def output (holds : List Char → Bool) : Blocks → List Char
  | .text run => run
  | .block run name body rest =>
      run ++ ((if holds name then body.output holds else []) ++ rest.output holds)

/-- Whether a template consists of runs without tags and of conditionals over variables. -/
def IsPlain (naming : Naming) : Blocks → Prop
  | .text run => IsTextRun run
  | .block run name body rest =>
      IsTextRun run ∧ naming.IsVariable name ∧ body.IsPlain naming ∧ rest.IsPlain naming

/-- Whether a run in front of a tag ends in a brace; `tagBehind` says whether a tag follows the
    template. -/
def fuses (tagBehind : Bool) : Blocks → Bool
  | .text run => tagBehind && run.getLast? == some '\x7b'
  | .block run _ body rest =>
      run.getLast? == some '\x7b' || body.fuses true || rest.fuses tagBehind

end Blocks

/-- A text that comes, read from the left behind text and conditionals, to an expression that begins
    with a per cent sign. -/
inductive Spoilt (naming : Naming) : List Char → Prop where
  | expression (rest : List Char) : Spoilt naming ('\x7b' :: '\x7b' :: '%' :: rest)
  | char {c : Char} {text : List Char} (hc : beginsTag (c :: text) = false)
      (h : Spoilt naming text) : Spoilt naming (c :: text)
  | opened {name text : List Char} (hname : naming.IsVariable name) (h : Spoilt naming text) :
      Spoilt naming (openTag name ++ text)
  | closed {text : List Char} (h : Spoilt naming text) : Spoilt naming (closeTag ++ text)

/-! ## Templates that fuse -/

theorem IsTagFree.of_cons {c : Char} {run : List Char} (h : IsTagFree (c :: run)) :
    IsTagFree run :=
  fun mark hmark hin => h mark hmark (hin.trans (List.suffix_cons c run).isInfix)

/-- Whether a text is empty or begins with the tag of a conditional. -/
def StartsTag (text : List Char) : Prop :=
  text = [] ∨ ∃ inside, text = '\x7b' :: '%' :: inside

theorem startsTag_openTag (name text : List Char) : StartsTag (openTag name ++ text) :=
  .inr ⟨_, rfl⟩

theorem startsTag_closeTag (text : List Char) : StartsTag (closeTag ++ text) :=
  .inr ⟨_, rfl⟩

/-- Behind a run that is free of tags, a tag begins too early only if a brace at the run's end is
    put in front of it. -/
theorem beginsTag_run {c : Char} {run text : List Char} (hrun : IsTagFree (c :: run))
    (htext : StartsTag text) (h : beginsTag (c :: run ++ text) = true) :
    c = '\x7b' ∧ run = [] ∧ text ≠ [] := by
  rw [List.cons_append] at h
  cases run with
  | nil =>
      rcases htext with rfl | ⟨inside, rfl⟩
      · unfold beginsTag at h
        split at h
        · next heq => cases heq
        · cases h
      · unfold beginsTag at h
        split at h
        · next heq =>
          cases heq
          exact ⟨rfl, rfl, List.cons_ne_nil _ _⟩
        · cases h
  | cons d ds =>
      unfold beginsTag at h
      split at h
      · next heq =>
        cases heq
        simp only [Bool.or_eq_true, beq_iff_eq] at h
        -- the tag would begin inside the run, which holds no start of one
        have hmark : ['\x7b', d] ∈ delimiters := by
          rcases h with (rfl | rfl) | rfl <;> decide
        exact absurd ⟨[], ds, rfl⟩ (hrun _ hmark)
      · cases h

variable {naming : Naming}

/-- A run in front of a tag is spoilt if what follows is, or if a brace at its end is put in front
    of the tag. -/
theorem Spoilt.run {run text : List Char} (hrun : IsTagFree run) (htext : StartsTag text)
    (h : (run.getLast? = some '\x7b' ∧ text ≠ []) ∨ Spoilt naming text) :
    Spoilt naming (run ++ text) := by
  induction run with
  | nil =>
      rcases h with ⟨hlast, -⟩ | h
      · cases hlast
      · exact h
  | cons c run ih =>
      by_cases htag : beginsTag (c :: run ++ text) = true
      · obtain ⟨rfl, rfl, hnil⟩ := beginsTag_run hrun htext htag
        rcases htext with rfl | ⟨inside, rfl⟩
        · exact absurd rfl hnil
        · exact .expression inside
      · -- the character is passed, and the brace, if there is one, stands further behind
        rw [Bool.not_eq_true] at htag
        refine .char htag (ih hrun.of_cons (h.imp_left fun ⟨hlast, hnil⟩ => ⟨?_, hnil⟩))
        cases run with
        | nil =>
            rcases htext with rfl | ⟨inside, rfl⟩
            · exact absurd rfl hnil
            · cases hlast
              cases htag
        | cons d run =>
            rw [List.getLast?_cons_cons] at hlast
            exact hlast

/-- **A template that fuses is spoilt**, as is one in front of a text that is. -/
theorem Blocks.spoilt {template : Blocks} (hplain : template.IsPlain naming) {text : List Char}
    (htext : StartsTag text) (h : template.fuses (!text.isEmpty) = true ∨ Spoilt naming text) :
    Spoilt naming (template.source ++ text) := by
  induction template generalizing text with
  | text run =>
      refine .run hplain.2 htext (h.imp_left ?_)
      intro hfuses
      obtain ⟨hnil, hlast⟩ := Bool.and_eq_true_iff.mp hfuses
      refine ⟨beq_iff_eq.mp hlast, ?_⟩
      intro hempty
      rw [hempty] at hnil
      cases hnil
  | block run name body rest ihbody ihrest =>
      obtain ⟨⟨-, hrun⟩, hname, hbodyPlain, hrestPlain⟩ := hplain
      simp only [source, List.append_assoc]
      -- the first run that ends in a brace is the one that spoils
      refine .run hrun (startsTag_openTag _ _) ?_
      by_cases hlast : run.getLast? = some '\x7b'
      · exact .inl ⟨hlast, List.cons_ne_nil _ _⟩
      · refine .inr (.opened hname (ihbody hbodyPlain (startsTag_closeTag _) ?_))
        by_cases hbody : body.fuses true = true
        · exact .inl hbody
        · refine .inr (.closed (ihrest hrestPlain htext (h.imp_left ?_)))
          intro hfuses
          rw [Bool.not_eq_true] at hbody
          have hrun : (run.getLast? == some '\x7b') = false := beq_eq_false_iff_ne.mpr hlast
          rw [fuses, hrun, hbody] at hfuses
          exact hfuses

/-- The source of a plain template holds no carriage return. -/
theorem Blocks.notMem_source {template : Blocks} (hplain : template.IsPlain naming) :
    '\r' ∉ template.source := by
  induction template with
  | text run => exact hplain.1
  | block run name body rest ihbody ihrest =>
      obtain ⟨⟨hrun, -⟩, ⟨hname, -⟩, hbodyPlain, hrestPlain⟩ := hplain
      have hname : '\r' ∉ name := naming.notMem_of_ascii hname (by decide) (by decide)
      simp [source, openTag, closeTag, hrun, hname, ihbody hbodyPlain, ihrest hrestPlain]

/-- The names of a plain template are variables. -/
theorem Blocks.IsPlain.isVariable {template : Blocks} (h : template.IsPlain naming) :
    ∀ name ∈ template.names, naming.IsVariable name := by
  induction template with
  | text run => exact fun name hname => absurd hname List.not_mem_nil
  | block run name body rest ihbody ihrest =>
      obtain ⟨-, hname, hbody, hrest⟩ := h
      exact List.forall_mem_cons.mpr
        ⟨hname, List.forall_mem_append.mpr ⟨ihbody hbody, ihrest hrest⟩⟩

/-- The names of a legible template are variables. -/
theorem Interpolated.IsLegible.isVariable {template : Interpolated}
    (h : template.IsLegible naming) :
    ∀ name ∈ template.names, naming.IsVariable name := by
  induction template with
  | text run => exact fun name hname => absurd hname List.not_mem_nil
  | slot run name rest ih => exact List.forall_mem_cons.mpr ⟨h.2.1, ih h.2.2⟩

/-- The source of a legible template holds no carriage return. -/
theorem Interpolated.notMem_source {template : Interpolated} (h : template.IsLegible naming) :
    '\r' ∉ template.source := by
  induction template with
  | text run => exact h.2
  | slot run name rest ih =>
      obtain ⟨⟨-, hrun⟩, ⟨hname, -⟩, hrest⟩ := h
      have hname : '\r' ∉ name := naming.notMem_of_ascii hname (by decide) (by decide)
      simp [source, slotTag, hrun, hname, ih hrest]

end Stencil.Native

/-! ## What is documented -/

namespace Stencil.Substrate

open Native

variable [Substrate]

/-- Whether code is built to a script that, for whatever variables of a kind, ends with a text and
    asks for nothing. -/
def Shows (code : List Char) (kind : Variables → Prop) (out : List Char) : Prop :=
  ∃ script, Substrate.build (String.ofList code) = .ok script
    ∧ ∀ strict vars, kind vars → script strict vars = .done (String.ofList out)

/-- Whether templates of text and names show the texts that are bound under the names. -/
def Interpolates (naming : Naming) : Prop :=
  ∀ template : Interpolated, template.IsLegible naming → ∀ written : List Char → List Char,
    naming.Agree written template.names →
    Shows template.source (fun vars => ∀ name ∈ template.names,
        vars.lookup (String.ofList name) = some (.text (String.ofList (written name))))
      (template.output written)

/-- Whether templates of text and conditionals show what the truth values leave that are bound under
    the names, and a text that is spoilt is no template. -/
structure Branches (naming : Naming) : Prop where
  shows : ∀ template : Blocks, template.IsPlain naming → template.fuses false = false →
    ∀ holds : List Char → Bool, naming.Agree holds template.names →
    Shows template.source (fun vars => ∀ name ∈ template.names,
        vars.lookup (String.ofList name) = some (.bool (holds name)))
      (template.output holds)
  refuses : ∀ text, '\r' ∉ text → Spoilt naming text →
    Substrate.build (String.ofList text) = .error .malformedTemplate

end Stencil.Substrate
