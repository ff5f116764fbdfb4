import Stencil.Proofs.Directive.Document
import Stencil.Proofs.Native.Language

/-! # Interpolations — templates of text and names

    A template that holds nothing but text and names to put in has no tags of the
    engine's own, so compiling leaves it as it is: no such tag begins in a run, and
    none reaches over the braces of a name.

    Headline: `compile_interpolated`. -/

namespace Stencil.Directive

open Stencil.Text Stencil.Native

/-! ## Infixes and separators -/

/-- A list that does not hold the element between two others lies in one of them. -/
theorem infix_of_append_cons {α : Type} {word before after : List α} {c : α} (hc : c ∉ word)
    (h : word <:+: before ++ c :: after) : word <:+: before ∨ word <:+: after := by
  obtain ⟨left, right, heq⟩ := h
  rcases List.append_eq_append_iff.mp heq with ⟨more, rfl, -⟩ | ⟨more, hleft, hright⟩
  · exact .inl ⟨left, more, rfl⟩
  · cases more with
    | nil =>
        rw [List.append_nil] at hleft
        exact .inl ⟨left, [], by rw [List.append_nil, hleft]⟩
    | cons d more =>
        obtain ⟨rfl, rfl⟩ := List.cons.inj hright
        -- the word ends behind the separator, so it begins behind it too
        rcases List.append_eq_append_iff.mp hleft with ⟨inside, -, rfl⟩ | ⟨gap, -, hgap⟩
        · exact absurd (List.mem_append_right _ List.mem_cons_self) hc
        · cases gap with
          | nil =>
              rw [List.nil_append] at hgap
              exact absurd (hgap ▸ List.mem_cons_self) hc
          | cons e gap =>
              obtain ⟨-, rfl⟩ := List.cons.inj hgap
              exact .inr ⟨gap, right, rfl⟩

/-! ## Templates of text and names -/

/-- Whether no tag starts in a run of a template. -/
def IsUntagged (ns : List Char) : Interpolated → Prop
  | .text run => IsFree ns run
  | .slot run _ rest => IsFree ns run ∧ IsUntagged ns rest

/-- Whether a template is untagged is decided by evaluation. -/
def decideUntagged (ns : List Char) : (template : Interpolated) →
    Decidable (IsUntagged ns template)
  | .text run => inferInstanceAs (Decidable (∀ closing, ¬ tagStart ns closing <:+: run))
  | .slot run _ rest =>
      have := decideUntagged ns rest
      inferInstanceAs (Decidable ((∀ closing, ¬ tagStart ns closing <:+: run)
        ∧ IsUntagged ns rest))

instance (ns : List Char) (template : Interpolated) : Decidable (IsUntagged ns template) :=
  decideUntagged ns template

variable {ns : List Char} {naming : Naming} {template : Interpolated}

/-- No tag starts in a template: its starts hold no braces, and a name holds none of its starts. -/
theorem isFree_source (hns : isNamespace ns = true) (hlegible : template.IsLegible naming)
    (hfree : IsUntagged ns template) : IsFree ns template.source := by
  have hnil (closing : Bool) : ¬ tagStart ns closing <:+: [] := by
    intro hin
    cases List.infix_nil.mp hin
  induction template with
  | text run => exact hfree
  | slot run name rest ih =>
      obtain ⟨-, ⟨hname, -⟩, hrest⟩ := hlegible
      obtain ⟨hrun, hrestFree⟩ := hfree
      intro closing hin
      obtain ⟨hopen, hclose⟩ := brace_notMem_tagStart hns closing
      have hin : tagStart ns closing <:+: run ++ '\x7b' :: ('\x7b' :: ' ' :: (name ++ [' '])
          ++ '\x7d' :: '\x7d' :: rest.source) := by
        simpa [Interpolated.source, slotTag] using hin
      rcases infix_of_append_cons hopen hin with hin | hin
      · exact hrun closing hin
      · rcases infix_of_append_cons hclose hin with hin | hin
        · -- the first character of the start would be one of the name
          have hmem : '<' ∈ '\x7b' :: ' ' :: (name ++ [' ']) := hin.subset List.mem_cons_self
          have hname : '<' ∉ name := naming.notMem_of_ascii hname (by decide) (by decide)
          exact absurd (by simpa using hmem) hname
        · have hin : tagStart ns closing <:+: [] ++ '\x7d' :: rest.source := hin
          rcases infix_of_append_cons hclose hin with hin | hin
          · exact hnil closing hin
          · exact ih hrest hrestFree closing hin

/-- **Compiling leaves a template of text and names as it is.** -/
theorem compile_interpolated (hns : isNamespace ns = true) (hlegible : template.IsLegible naming)
    (hfree : IsUntagged ns template) :
    compile ns standardRules template.source = .ok template.source := by
  have hfits : (Document.text template.source).Fits ns standardRules :=
    isFree_source hns hlegible hfree
  exact compile_of_reads (pieces_source hns (by decide) hfits) (reads_parts (by decide) hfits)
    (balanced_brackets (.text template.source))

end Stencil.Directive
