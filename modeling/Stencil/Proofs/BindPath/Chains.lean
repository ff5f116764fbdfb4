import Stencil.Proofs.BindPath.Keyed
import Stencil.Proofs.Number.ReadBack

/-! # Chains — a path to everything that keys reach

    A chain goes from value to value by steps: a text that is a key of a map, an
    integer that is one while its decimal text is not, a place in a list or a tuple,
    an own field of a structured value.  Each step has a text, and the texts of a
    chain joined at dots are a path to its end, since an integer is what its text
    writes and no text holds a dot.  A text that is overlong breaks the path at its
    step, unless it names a member.

    Headline: `resolve_chain`. -/

namespace Stencil.BindPath

/-! ## The texts of integers -/

theorem isDigits_digitsOf (n : Nat) : IsDigits (Decimal.digitsOf n) :=
  ⟨Json.digitsOf_ne_nil n, fun _ => Decimal.isDigit_of_mem_digitsOf⟩

theorem toString_eq_ofList_digitsOf (n : Nat) : toString n = String.ofList (Decimal.digitsOf n) :=
  Nat.toString_eq_ofList_toDigits

/-- The decimal text of an integer writes it. -/
theorem writes_toString (k : Int) : ∃ digits, Writes (toString k) digits k := by
  cases k with
  | ofNat n =>
      have h := Writes.natural (isDigits_digitsOf n)
      rw [Decimal.decimal_digitsOf, ← toString_eq_ofList_digitsOf] at h
      exact ⟨_, h⟩
  | negSucc n =>
      have h := Writes.negative (isDigits_digitsOf (n + 1))
      rw [Decimal.decimal_digitsOf, String.ofList_cons, ← toString_eq_ofList_digitsOf] at h
      exact ⟨_, h⟩

/-- A segment that writes an integer holds no dot. -/
theorem Writes.dot_notMem {segment : String} {digits : List Char} {i : Int}
    (h : Writes segment digits i) : '.' ∉ segment.toList := by
  have hdot : ∀ {digits}, IsDigits digits → '.' ∉ digits := fun hdigits hmem =>
    absurd (hdigits.2 '.' hmem) (by decide)
  cases h with
  | natural hdigits =>
      rw [String.toList_ofList]
      exact hdot hdigits
  | negative hdigits =>
      rw [String.toList_ofList, List.mem_cons, not_or]
      exact ⟨by decide, hdot hdigits⟩

/-- Texts without dots are the segments of the path that joins them. -/
theorem segments_intercalate {texts : List String} (hne : texts ≠ [])
    (hdot : ∀ text ∈ texts, '.' ∉ text.toList) : segments (".".intercalate texts) = texts := by
  rw [segments, String.toList_intercalate]
  exact Text.splitOn_intercalate '.' hne hdot

/-! ## Steps -/

/-- An own field of an object is its value. -/
theorem valueAt_field {surroundings : Surroundings} {v w : Value} {name : String}
    (hv : shape? v = some .structured) (h : (surroundings.facets v).field? name = some w) :
    valueAt surroundings v name = .ok (some w) := by
  rw [valueAt, lookup_structured hv, BindPath.member, h]
  rfl

/-- A step from a value to one that stands in it. -/
inductive Step where
  | key (name : String)
  | number (k : Int)
  | place (n : Nat)
  | member (name : String)
deriving DecidableEq

namespace Step

/-- The text of a step. -/
def text : Step → String
  | key name => name
  | number k => toString k
  | place n => toString n
  | member name => name

/-- From where to where a step goes. -/
inductive Takes (surroundings : Surroundings) : Step → Value → Value → Prop
  | key {name : String} {entries : List (Value × Value)} {v : Value}
      (hdot : '.' ∉ name.toList) (h : Value.entry? entries (.text name) = some v) :
      Takes surroundings (.key name) (.map entries) v
  | number {k : Int} {entries : List (Value × Value)} {v : Value}
      (htext : Value.entry? entries (.text (toString k)) = none)
      (h : Value.entry? entries (.int k) = some v) :
      Takes surroundings (.number k) (.map entries) v
  | place {n : Nat} {whole : Value} {items : List Value} {v : Value}
      (hitems : sequence? whole = some items) (h : items[n]? = some v) :
      Takes surroundings (.place n) whole v
  | field {name : String} {whole v : Value} (hwhole : shape? whole = some .structured)
      (hdot : '.' ∉ name.toList) (h : (surroundings.facets whole).field? name = some v) :
      Takes surroundings (.member name) whole v

/-- A step in keyed data with an overlong text. -/
def IsOverlong : Step → Prop
  | member _ => False
  | step => BindPath.IsOverlong step.text

variable {surroundings : Surroundings} {step : Step} {v w : Value}

/-- No text of a step holds a dot. -/
theorem Takes.dot_notMem (h : step.Takes surroundings v w) : '.' ∉ step.text.toList := by
  cases h with
  | key hdot => exact hdot
  | @number k =>
      obtain ⟨digits, hwrites⟩ := writes_toString k
      exact hwrites.dot_notMem
  | @place n =>
      obtain ⟨digits, hwrites⟩ := writes_toString n
      exact hwrites.dot_notMem
  | field _ hdot => exact hdot

/-- Following the text of a step is taking it, unless it is overlong. -/
theorem Takes.follow_eq (h : step.Takes surroundings v w) (template : String) (rest : List String) :
    (step.IsOverlong → follow surroundings template v (step.text :: rest) = .error .badValue)
      ∧ (¬ step.IsOverlong →
        follow surroundings template v (step.text :: rest)
          = follow surroundings template w rest) := by
  -- in keyed data the text leads where the step does
  have hkeyed : ∀ {text}, Item v text w →
      (BindPath.IsOverlong text → follow surroundings template v (text :: rest) = .error .badValue)
        ∧ (¬ BindPath.IsOverlong text →
          follow surroundings template v (text :: rest) = follow surroundings template w rest) :=
    fun hitem => ⟨fun hlong => (Stops.overlong hlong).follow_eq hitem.isOpen rest,
      fun hshort => follow_found hshort hitem rest⟩
  cases h with
  | key _ h => exact hkeyed (.key h)
  | @number k _ _ htext h =>
      obtain ⟨digits, hwrites⟩ := writes_toString k
      exact hkeyed (.number htext hwrites h)
  | @place n _ _ _ hitems h =>
      obtain ⟨digits, hwrites⟩ := writes_toString n
      exact hkeyed (.place hitems hwrites h)
  | @field name _ _ hwhole _ h =>
      refine ⟨False.elim, fun _ => ?_⟩
      rw [text, follow, hwhole, valueAt_field hwhole h]

end Step

/-- From one value to another by steps. -/
inductive Chain (surroundings : Surroundings) : Value → List Step → Value → Prop
  | refl (v : Value) : Chain surroundings v [] v
  | step {v w u : Value} {step : Step} {steps : List Step} (hstep : step.Takes surroundings v w)
      (hrest : Chain surroundings w steps u) : Chain surroundings v (step :: steps) u

namespace Chain

variable {surroundings : Surroundings} {v w : Value} {steps : List Step}

theorem dot_notMem (h : Chain surroundings v steps w) :
    ∀ text ∈ steps.map Step.text, '.' ∉ text.toList := by
  induction h with
  | refl => exact nofun
  | step hstep _ ih => exact List.forall_mem_cons.mpr ⟨hstep.dot_notMem, ih⟩

/-- Following the texts of a chain is going along it, up to a step whose text is overlong. -/
theorem follow_eq (h : Chain surroundings v steps w) (template : String) :
    ((∀ step ∈ steps, ¬ step.IsOverlong) →
        follow surroundings template v (steps.map Step.text) = .ok w)
      ∧ ((∃ step ∈ steps, step.IsOverlong) →
        follow surroundings template v (steps.map Step.text) = .error .badValue) := by
  induction h with
  | refl => exact ⟨fun _ => rfl, nofun⟩
  | @step _ _ _ step steps hstep _ ih =>
      obtain ⟨hlong, hshort⟩ := hstep.follow_eq template (steps.map Step.text)
      rw [List.map_cons]
      refine ⟨fun hall => ?_, fun hsome => ?_⟩
      · obtain ⟨hfirst, hrest⟩ := List.forall_mem_cons.mp hall
        rw [hshort hfirst, ih.1 hrest]
      · by_cases hfirst : step.IsOverlong
        · exact hlong hfirst
        · obtain ⟨other, hmem, hother⟩ := hsome
          rcases List.mem_cons.mp hmem with rfl | hrest
          · exact absurd hother hfirst
          · rw [hshort hfirst, ih.2 ⟨other, hrest, hother⟩]

end Chain

/-- **Chains**: the texts of a chain of steps, joined at dots, are a path to its end, if none of
    them is overlong in keyed data; and if one is, the path fails there for an unfit value. -/
theorem resolve_chain {surroundings : Surroundings} {root v : Value} {steps : List Step}
    (hsteps : steps ≠ []) (h : Chain surroundings root steps v) (template : String) :
    ((∀ step ∈ steps, ¬ step.IsOverlong) →
        resolve surroundings root (".".intercalate (steps.map Step.text)) template = .ok v)
      ∧ ((∃ step ∈ steps, step.IsOverlong) →
        resolve surroundings root (".".intercalate (steps.map Step.text)) template
          = .error .badValue) := by
  rw [resolve, segments_intercalate (by simpa using hsteps) h.dot_notMem]
  exact h.follow_eq template

/-- A record with a map under a field, which has a tuple under a negative number. -/
def nested (v : Value) : Value :=
  .record 0 ⟨"user", some [("profile", .map [(.int (-3), .tuple [.null, v])])], [], [], [], [], [],
    none⟩

/-- The steps into the tuple. -/
def inward : List Step :=
  [.member "profile", .number (-3), .place 1]

theorem chain_nested (v : Value) : Chain .none (nested v) inward v := by
  have htext : Value.entry? [(.int (-3), .tuple [.null, v])] (.text (toString (-3))) = none := by
    simp [Value.entry?, Value.same, Value.text?]
  have hnumber : Value.entry? [(.int (-3), .tuple [.null, v])] (.int (-3))
      = some (.tuple [.null, v]) := by
    simp [Value.entry?, Value.same]
  exact .step (.field rfl (by decide) rfl) (.step (.number htext hnumber) (.step (.place rfl rfl)
    (.refl v)))

/-- A map whose only key is overlong. -/
def overlongKey : Value :=
  .map [(.text overlong, .text "x")]

/-- Three kinds of steps lead to a value by their path; the one step in the other map leads to one
    too, but its path fails. -/
theorem resolve_chain_nested :
    (Chain .none (nested (.text "x")) inward (.text "x") ∧ (∀ step ∈ inward, ¬ step.IsOverlong)
        ∧ ".".intercalate (inward.map Step.text) = "profile.-3.1"
        ∧ resolve .none (nested (.text "x")) (".".intercalate (inward.map Step.text)) "card"
          = .ok (.text "x"))
      ∧ Chain .none overlongKey [.key overlong] (.text "x")
        ∧ resolve .none overlongKey (".".intercalate [overlong]) "card" = .error .badValue := by
  have hinward := chain_nested (.text "x")
  have hshort : ∀ step ∈ inward, ¬ step.IsOverlong := by
    have hnumber : ¬ IsOverlong (toString (-3)) := not_isOverlong_of_length_le (by decide)
    have hplace : ¬ IsOverlong (toString 1) := not_isOverlong_of_length_le (by decide)
    simpa [inward] using ⟨id, hnumber, hplace⟩
  have hkey : Chain .none overlongKey [.key overlong] (.text "x") := by
    refine .step (.key dot_notMem_overlong ?_) (.refl _)
    simp [Value.entry?, Value.same, Value.text?]
  exact ⟨⟨hinward, hshort, by decide, (resolve_chain (by decide) hinward "card").1 hshort⟩, hkey,
    (resolve_chain (List.cons_ne_nil _ _) hkey "card").2
      ⟨_, List.mem_cons_self, isOverlong_overlong⟩⟩

end Stencil.BindPath
