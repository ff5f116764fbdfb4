import Stencil.Text.Entity

/-! # Entities read back — what escaping leaves and loses

    A text that was escaped holds none of the characters that delimit markup, an
    ampersand in it starts one of five entities, and reading the entities gives
    the text back.

    Headline: `decode_escape`. -/

namespace Stencil.Text

/-- The five entities. -/
def entities : List (List Char) :=
  ["&amp;".toList, "&lt;".toList, "&gt;".toList, "&#34;".toList, "&#39;".toList]

/-- The characters that are escaped, but for the ampersand. -/
def delimiters : List Char :=
  ['<', '>', '"', '\'']

/-- A character is escaped to an entity, which reads as the character, or stands for itself. -/
theorem entity_cases (c : Char) :
    (entity c ∈ entities ∧ ∀ rest, decode (entity c ++ rest) = c :: decode rest)
      ∨ (entity c = [c] ∧ c ∉ delimiters ∧ c ≠ '&') := by
  unfold entity
  split
  · exact .inl ⟨by decide, fun _ => rfl⟩
  · exact .inl ⟨by decide, fun _ => rfl⟩
  · exact .inl ⟨by decide, fun _ => rfl⟩
  · exact .inl ⟨by decide, fun _ => rfl⟩
  · exact .inl ⟨by decide, fun _ => rfl⟩
  · refine .inr ⟨rfl, ?_, ‹_›⟩
    simp only [delimiters, List.mem_cons, List.not_mem_nil, or_false, not_or]
    exact ⟨‹_›, ‹_›, ‹_›, ‹_›⟩

/-- An entity is an ampersand and other characters, none of which is escaped. -/
theorem tail_of_mem_entities {e : List Char} (h : e ∈ entities) :
    ∃ tail, e = '&' :: tail ∧ '&' ∉ tail ∧ ∀ c ∈ delimiters, c ∉ e := by
  have hall : ∀ e ∈ entities, e = '&' :: e.tail ∧ '&' ∉ e.tail ∧ ∀ c ∈ delimiters, c ∉ e := by
    simp [entities, delimiters]
  exact ⟨e.tail, hall e h⟩

theorem decode_cons {c : Char} (h : c ≠ '&') (rest : List Char) :
    decode (c :: rest) = c :: decode rest := by
  conv => lhs; unfold decode
  split <;> simp_all

/-- Reading an escaped text gives the text back. -/
theorem decode_escape (text : List Char) : decode (escape text) = text := by
  induction text with
  | nil => rfl
  | cons c cs ih =>
      rw [escape, List.flatMap_cons]
      change decode (entity c ++ escape cs) = c :: cs
      rcases entity_cases c with ⟨_, hdecode⟩ | ⟨hplain, _, hne⟩
      · rw [hdecode, ih]
      · rw [hplain, List.singleton_append, decode_cons hne, ih]

/-- An escaped text holds no delimiter. -/
theorem notMem_escape {c : Char} (hc : c ∈ delimiters) (text : List Char) : c ∉ escape text := by
  intro hmem
  obtain ⟨d, _, hd⟩ := List.mem_flatMap.mp hmem
  rcases entity_cases d with ⟨hentity, _⟩ | ⟨hplain, hfree, _⟩
  · obtain ⟨_, _, _, hnone⟩ := tail_of_mem_entities hentity
    exact hnone c hc hd
  · rw [hplain, List.mem_singleton] at hd
    exact hfree (hd ▸ hc)

/-- An ampersand in an escaped text starts an entity. -/
theorem entity_of_escape {text before after : List Char}
    (h : escape text = before ++ '&' :: after) : ∃ e ∈ entities, e <+: '&' :: after := by
  induction text generalizing before with
  | nil => cases before <;> cases h
  | cons c cs ih =>
      rw [escape, List.flatMap_cons] at h
      change entity c ++ escape cs = _ at h
      rcases List.append_eq_append_iff.mp h with ⟨more, rfl, hrest⟩ | ⟨more, hentity, hafter⟩
      · exact ih hrest
      · -- the ampersand is in the escape of the first character, or right behind it
        cases more with
        | nil => exact @ih [] hafter.symm
        | cons d more =>
            rw [List.cons_append, List.cons.injEq] at hafter
            obtain ⟨rfl, rfl⟩ := hafter
            rcases entity_cases c with ⟨hmem, _⟩ | ⟨hplain, _, hne⟩
            · obtain ⟨tail, htail, hfree, _⟩ := tail_of_mem_entities hmem
              rw [htail] at hentity
              cases before with
              | nil =>
                  refine ⟨entity c, hmem, ?_⟩
                  rw [htail, hentity]
                  exact List.prefix_append _ _
              | cons b before =>
                  rw [List.cons_append, List.cons.injEq] at hentity
                  exact absurd (hentity.2 ▸ List.mem_append_right _ List.mem_cons_self) hfree
            · have hmem : '&' ∈ entity c := hentity ▸ List.mem_append_right _ List.mem_cons_self
              rw [hplain, List.mem_singleton] at hmem
              exact absurd hmem.symm hne

end Stencil.Text
