import Stencil.Proofs.Directive.Document
import Stencil.Proofs.Native.Language

/-! # Meaning — the conditionals that a document is lowered to

    A document of conditionals is lowered to native text: its runs, and the native
    tags of its directives between them.  That text is one of conditionals again,
    which shows the runs of the document all of whose enclosing conditions hold.

    Headline: `lowered_eq_source`, `shown_eq_output`. -/

namespace Stencil.Directive

open Stencil.Text Stencil.Native

namespace Document

/-- The native template of a document of conditionals. -/
def blocks : Document → Blocks
  | .text run => .text run
  | .directive run _ _ expression _ body rest =>
      .block run (strip expression) body.blocks rest.blocks

/-- The runs of a document in their order, each with the conditions around it. -/
def runs (enclosing : List (List Char)) : Document → List (List (List Char) × List Char)
  | .text run => [(enclosing, run)]
  | .directive run _ _ expression _ body rest =>
      (enclosing, run) :: (body.runs (strip expression :: enclosing) ++ rest.runs enclosing)

/-- The runs all of whose enclosing conditions are true, one after the other. -/
def shown (holds : List Char → Bool) (doc : Document) : List Char :=
  ((doc.runs []).filter fun run => run.1.all holds).flatMap Prod.snd

end Document

/-! ## Lowering -/

theorem rule_of_find? {name : List Char} {rule : Rule} (h : standardRules.find? name = some rule) :
    rule = conditional := by
  have hmem := mem_of_find? h
  exact (Prod.mk.inj (List.mem_singleton.mp hmem)).2

/-- The tags of a conditional are the native ones. -/
theorem filled_conditional (expression : List Char) :
    filled expression conditional.opener = openTag expression := rfl

theorem closer_conditional : conditional.closer = closeTag := rfl

/-- **A document of conditionals is lowered to its native template.** -/
theorem Document.lowered_eq_source {ns : List Char} {doc : Document}
    (hfits : doc.Fits ns standardRules) : doc.lowered = doc.blocks.source := by
  induction doc with
  | text run => rfl
  | directive run name rule expression spelling body rest ihbody ihrest =>
      obtain ⟨-, hrule, -, -, hbody, hrest⟩ := hfits
      cases rule_of_find? hrule
      rw [lowered, blocks, Blocks.source, ihbody hbody, ihrest hrest, filled_conditional,
        closer_conditional]

/-! ## What a document shows -/

namespace Document

theorem flatMap_runs (holds : List Char → Bool) (doc : Document) (enclosing : List (List Char)) :
    ((doc.runs enclosing).filter fun run => run.1.all holds).flatMap Prod.snd
      = if enclosing.all holds then doc.blocks.output holds else [] := by
  induction doc generalizing enclosing with
  | text run => cases henclosing : enclosing.all holds <;> simp [runs, blocks, Blocks.output,
      henclosing]
  | directive run name rule expression spelling body rest ihbody ihrest =>
      cases henclosing : enclosing.all holds
      · simp [runs, henclosing, ihbody, ihrest]
      · cases hcondition : holds (strip expression) <;>
          simp [runs, blocks, Blocks.output, henclosing, ihbody, ihrest, hcondition]

/-- **The runs all of whose enclosing conditions are true are what the native template shows.** -/
theorem shown_eq_output (holds : List Char → Bool) (doc : Document) :
    doc.shown holds = doc.blocks.output holds :=
  flatMap_runs holds doc []

end Document

end Stencil.Directive
