import Mathlib.Data.List.DropRight
import Stencil.Proofs.Cache.History
import Stencil.Proofs.Files.Names

/-! # Identity — a template is what is written for it

    The role stands before the first colon of a key and has none itself, so all
    that follows is the name, with its own colons.  Reading drops the blanks
    around a name, and finds none the second time.  A template that was read is
    read again from its key, whatever role would be understood; keys tell all
    templates apart, and so do their digests as far as digests have no collisions.

    Headline: `TemplateId.identity`. -/

namespace Stencil

open Text

/-! ## Blanks at the ends -/

/-- Dropping characters at both ends a second time drops nothing. -/
theorem dropEnds_idempotent (p : Char → Bool) (text : List Char) :
    ((((text.dropWhile p).reverse.dropWhile p).reverse.dropWhile p).reverse.dropWhile p).reverse
      = ((text.dropWhile p).reverse.dropWhile p).reverse := by
  have hfirst : ∀ c, ((text.dropWhile p).reverse.dropWhile p).reverse.head? = some c →
      p c = false := fun _ => Sources.of_head?_dropEnds p text
  cases hleft : ((text.dropWhile p).reverse.dropWhile p).reverse with
  | nil => rfl
  | cons c cs =>
      rw [hleft, List.head?_cons] at hfirst
      -- the first character stays, and what is reversed has been dropped from already
      rw [List.dropWhile_cons_of_neg (by rw [hfirst c rfl]; exact Bool.false_ne_true), ← hleft,
        List.reverse_reverse, List.dropWhile_idempotent]

theorem strip_strip (text : List Char) : strip (strip text) = strip text :=
  dropEnds_idempotent isBlank text

namespace TemplateId

variable {text : String} {role : Role} {t u : TemplateId}

/-! ## Reading -/

/-- No blanks are around a name that was read. -/
theorem strip_name_of_parse (h : parse text role = .ok t) :
    strip t.name.toList = t.name.toList := by
  rw [parse] at h
  split at h
  case h_1 before after hcut =>
    cases hrole : Role.parse (String.ofList before) with
    | error _ =>
        rw [hrole] at h
        cases h
    | ok role =>
        rw [hrole] at h
        cases h
        rw [String.toList_ofList, strip_strip]
  case h_2 hnone =>
    cases h
    rw [stripped, String.toList_ofList, strip_strip]

theorem reread_of_parse (h : parse text role = .ok t) : t.reread = t := by
  rw [reread, strip_name_of_parse h, String.ofList_toList]

/-! ## Keys and their digests -/

theorem key_inj : t.key = u.key ↔ t = u :=
  ⟨key_injective, congrArg key⟩

theorem cacheKey_inj {templates : List TemplateId}
    (h : Sha1.CollisionFree (templates.map key)) (ht : t ∈ templates) (hu : u ∈ templates) :
    t.cacheKey = u.cacheKey ↔ t = u :=
  ⟨h.eq hu ht, congrArg cacheKey⟩

/-- **Identity**: a template that some text is read as is read from its key under every role; two
    templates have one key only if they are the same, and one digest as well, if no two keys of
    some templates with both among them have one digest. -/
theorem identity :
    (∀ text role t, parse text role = .ok t → ∀ other, parse t.key other = .ok t)
      ∧ (∀ t u : TemplateId, t.key = u.key ↔ t = u)
      ∧ ∀ templates : List TemplateId, Sha1.CollisionFree (templates.map key) →
        ∀ t ∈ templates, ∀ u ∈ templates, t.cacheKey = u.cacheKey ↔ t = u := by
  refine ⟨fun text role t hread other => ?_, fun _ _ => key_inj,
    fun _ hcollision _ ht _ hu => cacheKey_inj hcollision ht hu⟩
  rw [parse_key, reread_of_parse hread]

/-- A name that begins like a key, with blanks around it, is read again without them; a template
    without a name is told from it by key and digest. -/
theorem identity_nested :
    parse " Component : view:a " .view = .ok ⟨.component, "view:a"⟩
      ∧ (∀ other, parse "component:view:a" other = .ok ⟨.component, "view:a"⟩)
      ∧ parse "component:" .view = .ok ⟨.component, ""⟩
      ∧ (∀ other, parse "component:" other = .ok ⟨.component, ""⟩)
      ∧ Sha1.CollisionFree ([⟨.component, "view:a"⟩, ⟨.component, ""⟩].map key)
      ∧ (cacheKey ⟨.component, "view:a"⟩ = cacheKey ⟨.component, ""⟩
        ↔ (⟨.component, "view:a"⟩ : TemplateId) = ⟨.component, ""⟩) := by
  obtain ⟨hread, -, hdigest⟩ := identity
  have hlong : parse " Component : view:a " .view = .ok ⟨.component, "view:a"⟩ := by
    decide +kernel
  have hempty : parse "component:" .view = .ok ⟨.component, ""⟩ := by
    decide +kernel
  have hcollision : Sha1.CollisionFree
      ([⟨.component, "view:a"⟩, ⟨.component, ""⟩].map key) := by
    unfold Sha1.CollisionFree
    decide +kernel
  exact ⟨hlong, hread _ _ _ hlong, hempty, hread _ _ _ hempty, hcollision,
    hdigest _ hcollision _ List.mem_cons_self _ (List.mem_cons_of_mem _ List.mem_cons_self)⟩

end TemplateId

end Stencil
