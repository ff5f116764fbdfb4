import Stencil.Files.Pattern

/-! # Patterns — a star and an ending

    A listing asks for names with a pattern of a star and an extension.  As long as
    the characters of the extension stand for themselves, these are the names that
    end with it.

    Headline: `holds_star_iff`. -/

namespace Stencil

namespace Pattern

/-- A text has an end of which a test holds. -/
theorem someEnd_iff {test : List Char → Bool} {text : List Char} :
    someEnd test text = true ↔ ∃ ending, ending <:+ text ∧ test ending = true := by
  induction text with
  | nil =>
      constructor
      · intro h
        exact ⟨[], List.suffix_refl [], h⟩
      · rintro ⟨ending, hending, h⟩
        rw [List.suffix_nil.mp hending] at h
        exact h
  | cons c cs ih =>
      rw [someEnd, Bool.or_eq_true, ih]
      constructor
      · rintro (h | ⟨ending, hending, h⟩)
        · exact ⟨c :: cs, List.suffix_refl _, h⟩
        · exact ⟨ending, hending.trans (List.suffix_cons c cs), h⟩
      · rintro ⟨ending, hending, h⟩
        rcases List.suffix_cons_iff.mp hending with rfl | hrest
        · exact .inl h
        · exact .inr ⟨ending, hrest, h⟩

/-- A character that stands for itself in a pattern. -/
def isLiteral (c : Char) : Bool :=
  c != '*' && c != '?' && c != '['

theorem partsOf_of_literal {fuel : Nat} {cs : List Char} (hfuel : cs.length ≤ fuel)
    (h : ∀ c ∈ cs, isLiteral c = true) : partsOf fuel cs = cs.map .char := by
  induction cs generalizing fuel with
  | nil => cases fuel <;> rfl
  | cons c cs ih =>
      cases fuel with
      | zero => cases hfuel
      | succ fuel =>
          have hc := h c List.mem_cons_self
          simp only [isLiteral, Bool.and_eq_true, bne_iff_ne] at hc
          obtain ⟨⟨hstar, hone⟩, hset⟩ := hc
          have hrest := ih (Nat.le_of_succ_le_succ hfuel)
            fun other hother => h other (List.mem_cons_of_mem _ hother)
          simp [partsOf, hstar, hone, hset, hrest]

theorem holdParts_char_iff {cs text : List Char} :
    holdParts (cs.map .char) text = true ↔ text = cs := by
  induction cs generalizing text with
  | nil => simp [holdParts]
  | cons c cs ih =>
      cases text with
      | nil => simp [holdParts]
      | cons d ds => simp [holdParts, Part.holds, ih]

/-- Behind a star literal characters stand for the end of a name. -/
theorem holds_star_iff {ending name : String} (h : ∀ c ∈ ending.toList, isLiteral c = true) :
    holds ("*" ++ ending) name = true ↔ ending.toList <:+ name.toList := by
  have hparts : partsOf (("*" ++ ending).length + 1) ("*" ++ ending).toList
      = .star :: ending.toList.map .char := by
    have hlist : ("*" ++ ending).toList = '*' :: ending.toList := String.toList_append
    have hlength : ending.toList.length ≤ ("*" ++ ending).length := by
      rw [← String.length_toList, hlist, List.length_cons]
      exact Nat.le_succ _
    rw [hlist, partsOf, partsOf_of_literal hlength h]
    rfl
  rw [holds, hparts, holdParts, someEnd_iff]
  constructor
  · rintro ⟨_, hending, h⟩
    exact holdParts_char_iff.mp h ▸ hending
  · intro hending
    exact ⟨_, hending, holdParts_char_iff.mpr rfl⟩

/-- One pattern stands for the last of some names. -/
theorem holdLast_concat (pattern last : String) (before : List String) :
    holdLast [pattern] (before ++ [last]) = holds pattern last := by
  have hdrop : (before ++ [last]).drop ((before ++ [last]).length - [pattern].length) = [last] := by
    rw [List.length_append, List.length_singleton, List.length_singleton, Nat.add_sub_cancel,
      List.drop_left]
  rw [holdLast, hdrop]
  simp

end Pattern

end Stencil
