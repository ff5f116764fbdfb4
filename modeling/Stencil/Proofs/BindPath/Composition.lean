import Stencil.BindPath

/-! # Composition — paths put one behind the other

    Joining two paths at a dot joins their segments, empty ones included, and
    following segments one after another is following the first ones and then, from
    the value that they lead to, the others.  So a path behind another one is
    followed from where that one ends: not at all if it fails, and nowhere if it
    ends at a scalar.

    Headline: `resolve_dotted`. -/

namespace Stencil

/-- Texts without a character are found again in the text that joins them around it. -/
theorem Text.splitOn_intercalate (separator : Char) {texts : List String} (hne : texts ≠ [])
    (h : ∀ text ∈ texts, separator ∉ text.toList) :
    (([separator].intercalate (texts.map String.toList)).splitOn separator).map String.ofList
      = texts := by
  have hsplit : ([separator].intercalate (texts.map String.toList)).splitOn separator
      = texts.map String.toList := by
    refine List.splitOn_intercalate separator ?_ (by simpa using hne)
    intro chars hchars
    obtain ⟨text, htext, rfl⟩ := List.mem_map.mp hchars
    exact h text htext
  rw [hsplit, List.map_map]
  simp [Function.comp_def]

namespace BindPath

/-- The segments of two paths joined at a dot. -/
theorem segments_dotted (front back : String) :
    segments (front ++ "." ++ back) = segments front ++ segments back := by
  have hdot : (front ++ "." ++ back).toList = front.toList ++ '.' :: back.toList := by
    simp only [String.toList_append, List.append_assoc]
    rfl
  rw [segments, hdot, List.splitOn_append_cons_self, List.map_append]
  rfl

variable (surroundings : Surroundings) (template : String)

/-- A scalar absorbs all segments. -/
theorem follow_scalar {v : Value} (hv : shape? v = none) (rest : List String) :
    follow surroundings template v rest = .ok v := by
  cases rest with
  | nil => rfl
  | cons segment rest => rw [follow, hv]

/-- Segments are followed from the value that the segments before them lead to. -/
theorem follow_append (v : Value) (front back : List String) :
    follow surroundings template v (front ++ back)
      = follow surroundings template v front >>= fun w => follow surroundings template w back := by
  induction front generalizing v with
  | nil => rfl
  | cons segment front ih =>
      rw [List.cons_append, follow, follow]
      cases hshape : shape? v with
      | none => exact (follow_scalar surroundings template hshape back).symm
      | some shape =>
          cases valueAt surroundings v segment with
          | error fault => rfl
          | ok found? =>
              cases found? with
              | none => rfl
              | some found => exact ih found

/-- **Composition**: a path behind a dot is followed from the value that the path in front of it
    leads to.  If that is a scalar, it is the value of both; and if the path in front fails, both
    fail with the same fault, whatever stands behind. -/
theorem resolve_dotted (root : Value) (front back : String) :
    (resolve surroundings root (front ++ "." ++ back) template
        = resolve surroundings root front template >>= fun v =>
          resolve surroundings v back template)
      ∧ (∀ v, resolve surroundings root front template = .ok v → shape? v = none →
        resolve surroundings root (front ++ "." ++ back) template = .ok v)
      ∧ (∀ fault, resolve surroundings root front template = .error fault →
        resolve surroundings root (front ++ "." ++ back) template = .error fault) := by
  have hcompose : resolve surroundings root (front ++ "." ++ back) template
      = resolve surroundings root front template >>= fun v =>
        resolve surroundings v back template := by
    rw [resolve, segments_dotted, follow_append]
    rfl
  refine ⟨hcompose, fun v hfront hscalar => ?_, fun fault hfront => ?_⟩
  · rw [hcompose, hfront]
    exact follow_scalar surroundings template hscalar (segments back)
  · rw [hcompose, hfront]
    rfl

/-- A list of a scalar and of an empty list. -/
def scalarAndEmpty : Value :=
  .list [.int 5, .list []]

/-- Behind the scalar a path leads nowhere else, and behind a place that is missing nowhere at
    all. -/
theorem resolve_dotted_behind :
    resolve .none scalarAndEmpty ("0" ++ "." ++ "b..c") "card" = .ok (.int 5)
      ∧ resolve .none scalarAndEmpty ("1.x" ++ "." ++ "y") "card"
        = .error (.noVariable .keyed "x" "card") :=
  ⟨(resolve_dotted .none "card" scalarAndEmpty "0" "b..c").2.1 _ rfl rfl,
    (resolve_dotted .none "card" scalarAndEmpty "1.x" "y").2.2 _ rfl⟩

end BindPath

end Stencil
