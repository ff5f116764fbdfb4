import Stencil.Proofs.Engine.Repetition

/-! # Folds — scopes carried from pass to pass

    A function that prepares a pass gets the scope that the pass before it left, and
    the number of its own pass.  What it makes of the scope in place, or the scope
    that it gives back instead, is what the pass is executed with, so that the scopes
    of the passes are a fold over their numbers.  The fold is not what is seen if an
    execution itself changes the scope: a template that renders its own component
    makes that render's passes a part of it.

    Headline: `render_fold`. -/

namespace Stencil

/-- The scope that a preparation comes to: the one that takes the place of the scope, or else the
    scope as it was changed in place. -/
def Prepared.result (prepared : Prepared) : Except Failure Scope :=
  prepared.replacement.map (·.getD prepared.scope)

/-- What prepares the scope of each pass, if anything does. -/
abbrev Transform := Option (Scope → Nat → Prepared)

namespace Transform

/-- The closure of a component that is repeated with a transform. -/
def closure (transform : Transform) : Option Closure :=
  transform.map Closure.counted

/-- The scope of a pass, made of the scope that was there before it. -/
def advance (transform : Transform) (scope : Scope) (index : Nat) : Except Failure Scope :=
  match transform with
  | none => .ok scope
  | some f => (f scope index).result

/-- The scope behind a number of passes, each prepared once and in their order. -/
def fold (transform : Transform) (scope : Scope) (count : Nat) : Except Failure Scope :=
  (List.range count).foldlM transform.advance scope

theorem fold_succ (transform : Transform) (scope : Scope) (count : Nat) :
    transform.fold scope (count + 1)
      = transform.fold scope count >>= fun before => transform.advance before count := by
  rw [fold, List.range_succ, List.foldlM_append]
  refine bind_congr fun before => ?_
  rw [List.foldlM_cons]
  exact bind_pure _

end Transform

namespace World

theorem rescope_rescope {world : World} {i : Nat} (h : i < world.components.length)
    (scope other : Scope) :
    (world.rescope (.component i) fun _ => scope).rescope (.component i) (fun _ => other)
      = world.rescope (.component i) fun _ => other := by
  show (world.setComponent i { world.component i with vars := scope }).setComponent i
      { (world.setComponent i { world.component i with vars := scope }).component i with
        vars := other } = world.setComponent i { world.component i with vars := other }
  rw [component_setComponent_self h, setComponent_setComponent]

end World

namespace Engine

/-- A component that is repeated a number of times, prepared by a transform, and not kept shut. -/
structure IsCounted (i : Nat) (transform : Transform) (times : Nat) (world : World) : Prop where
  there : i < world.components.length
  gate : (world.component i).gate ≠ some false
  closure : (world.component i).closure = transform.closure
  count : (world.component i).count = times
  positive : 0 < times

/-- A repetition by a count sets it with its transform, and leaves the scope and the gate. -/
theorem IsCounted.of_repeatBy {i times : Nat} {count : Value} {transform : Transform}
    {world start : World} (hthere : i < world.components.length)
    (hgate : (world.component i).gate ≠ some false) (hcount : count.toInt = .ok times)
    (hpositive : 0 < times)
    (hrun : on (repeatBy i count transform.closure) world = (.ok (), start)) :
    IsCounted i transform times start ∧ (start.component i).vars = (world.component i).vars := by
  obtain ⟨n, hn, hchange⟩ := on_ofTrouble_bind_ok hrun
  cases hn.symm.trans hcount
  have hstart : start = world.setComponent i
      { world.component i with count := times, closure := transform.closure } :=
    (congrArg Prod.snd hchange).symm
  have hset : start.component i
      = { world.component i with count := times, closure := transform.closure } := by
    rw [hstart, World.component_setComponent_self hthere]
  refine ⟨⟨?_, ?_, ?_, ?_, hpositive⟩, ?_⟩
  · rw [hstart, World.length_setComponent]
    exact hthere
  · rw [hset]
    exact hgate
  · rw [hset]
  · rw [hset]
  · rw [hset]

section Theory

variable [Substrate] [FileSystem]

/-! ## One pass -/

/-- A component keeps its scope and its template. -/
structure Retains (i : Nat) (world next : World) : Prop where
  there : i < world.components.length → i < next.components.length
  scope : (next.component i).vars = (world.component i).vars
  template : (next.component i).template = (world.component i).template

/-- Executions of a component in its passes, where they succeed, leave it its scope and its
    template. -/
def Untouched (render : Handle → Engine String) (i : Nat) (closure : Option Closure) (count : Nat)
    (start : World) : Prop :=
  ∀ {index : Nat} {out more : String} {world prepared next : World}, index < count →
    Passed render i closure start index out world →
    on (preparation i closure index) world = (.ok (), prepared) →
    on (executeComponent render i) prepared = (.ok more, next) → Retains i prepared next

/-- The passes of a fold that have succeeded, what they have put out, and the world that they have
    left: each executes the template with the scope that the fold has reached. -/
inductive Folded (render : Handle → Engine String) (i : Nat) (template : String)
    (transform : Transform) (scope : Scope) (start : World) : Nat → String → World → Prop
  | start : Folded render i template transform scope start 0 "" start
  | next {index : Nat} {out more : String} {vars : Scope} {world after : World}
      (h : Folded render i template transform scope start index out world)
      (hscope : transform.fold scope (index + 1) = .ok vars)
      (hrun : on (executeFor render (.component i) .component template vars)
        (world.rescope (.component i) fun _ => vars) = (.ok more, after)) :
      Folded render i template transform scope start (index + 1) (out ++ more) after

section Passes

variable {render : Handle → Engine String} {i index count : Nat} {transform : Transform}
  {start world last prepared : World} {out : String} {fault : Fault}

omit [FileSystem] in
/-- A preparation puts the scope that the transform makes of the present one in its place, or fails
    as the transform does. -/
theorem on_preparation_cases (hthere : i < world.components.length) (transform : Transform)
    (index : Nat) :
    (∃ vars, transform.advance (world.component i).vars index = .ok vars
      ∧ on (preparation i transform.closure index) world
        = (.ok (), world.rescope (.component i) fun _ => vars))
    ∨ ∃ failure last, transform.advance (world.component i).vars index = .error failure
      ∧ on (preparation i transform.closure index) world
        = (.error (.trouble (.failure failure)), last) := by
  cases transform with
  | none =>
      refine .inl ⟨(world.component i).vars, rfl, ?_⟩
      show (Except.ok (), world) = (Except.ok (), world.setComponent i (world.component i))
      rw [World.setComponent_component]
  | some f =>
      have hrun : on (preparation i (Transform.closure (some f)) index) world
          = on (takeScope i (f (world.component i).vars index)) world := rfl
      rw [hrun]
      simp only [Transform.advance, Prepared.result]
      generalize f (world.component i).vars index = prepared
      obtain ⟨scope, replacement⟩ := prepared
      cases replacement with
      | error failure => exact .inr ⟨failure, _, rfl, rfl⟩
      | ok replacement =>
          cases replacement with
          | none => exact .inl ⟨scope, rfl, rfl⟩
          | some vars =>
              refine .inl ⟨vars, rfl, ?_⟩
              -- the scope is first changed in place, and then given up for the other one
              show (Except.ok (), (world.rescope (.component i) fun _ => scope).rescope
                (.component i) fun _ => vars) = _
              rw [World.rescope_rescope hthere]

theorem on_executeComponent_rescope (hthere : i < world.components.length) (vars : Scope) :
    on (executeComponent render i) (world.rescope (.component i) fun _ => vars)
      = on (executeFor render (.component i) .component (world.component i).template vars)
        (world.rescope (.component i) fun _ => vars) := by
  rw [executeComponent, on_bind_ok (on_get _), World.component_rescope hthere]

/-- A component with its own template and the scope that a fold has reached. -/
structure Carries (i : Nat) (template : String) (transform : Transform) (scope : Scope)
    (index : Nat) (world : World) : Prop where
  there : i < world.components.length
  template : (world.component i).template = template
  scope : transform.fold scope index = .ok (world.component i).vars

variable {template : String} {scope : Scope}

/-- The next pass is prepared with the next scope of the fold, and executes the template with it, or
    it fails as the fold does. -/
theorem Carries.preparation_cases (h : Carries i template transform scope index world)
    (render : Handle → Engine String) :
    (∃ vars, transform.fold scope (index + 1) = .ok vars
      ∧ on (preparation i transform.closure index) world
        = (.ok (), world.rescope (.component i) fun _ => vars)
      ∧ on (executeComponent render i) (world.rescope (.component i) fun _ => vars)
        = on (executeFor render (.component i) .component template vars)
          (world.rescope (.component i) fun _ => vars))
    ∨ ∃ failure last, transform.fold scope (index + 1) = .error failure
      ∧ on (preparation i transform.closure index) world
        = (.error (.trouble (.failure failure)), last) := by
  have hfold : transform.fold scope (index + 1)
      = transform.advance (world.component i).vars index := by
    rw [Transform.fold_succ, h.scope]
    rfl
  rw [hfold]
  rcases on_preparation_cases h.there transform index with
    ⟨vars, hadvance, hprepare⟩ | ⟨failure, last, hadvance, hprepare⟩
  · refine .inl ⟨vars, hadvance, hprepare, ?_⟩
    rw [on_executeComponent_rescope h.there, h.template]
  · exact .inr ⟨failure, last, hadvance, hprepare⟩

/-- Passes that leave the component its scope and template are passes of the fold. -/
theorem Passed.folded (hstart : Carries i template transform scope 0 start)
    (hkept : Untouched render i transform.closure count start)
    (hpassed : Passed render i transform.closure start index out world) (hindex : index ≤ count) :
    Folded render i template transform scope start index out world
      ∧ Carries i template transform scope index world := by
  induction hpassed with
  | start => exact ⟨.start, hstart⟩
  | @next index out more world prepared after hpassed hprepare hrun ih =>
      obtain ⟨hfolded, hcarries⟩ := ih (Nat.le_of_lt hindex)
      have hretains := hkept hindex hpassed hprepare hrun
      rcases hcarries.preparation_cases render with
        ⟨vars, hscope, hok, hexecute⟩ | ⟨_, _, _, herror⟩
      · cases hok.symm.trans hprepare
        refine ⟨hfolded.next hscope (hexecute.symm.trans hrun), ?_⟩
        have hcomponent := World.component_rescope hcarries.there fun _ => vars
        constructor
        · refine hretains.there ?_
          rw [World.length_rescope]
          exact hcarries.there
        · rw [hretains.template, hcomponent]
          exact hcarries.template
        · rw [hretains.scope, hcomponent]
          exact hscope
      · cases herror.symm.trans hprepare

/-- **A repetition by a count is a fold.**  The scopes of its passes are the fold of the transform
    over the numbers of the passes, from the scope that the component has before the render.  Each
    pass executes the component's template with the scope that the fold has reached, in the world
    that the pass before it left.  If all passes succeed, the render gives what they put out, one
    after the other, and the component has the last scope of the fold.  If the transform or the
    template fails in a pass, the render fails with that, behind the passes before it. -/
theorem render_fold {times : Nat} (h : IsCounted i transform times start) (depth : Nat)
    (hkept : Untouched (renderUpTo depth) i transform.closure times start) :
    (∃ out last,
      Folded (renderUpTo depth) i (start.component i).template transform (start.component i).vars
        start times out last
      ∧ transform.fold (start.component i).vars times = .ok (last.component i).vars
      ∧ on (renderUpTo (depth + 1) (.component i)) start = (.ok out, last))
    ∨ ∃ index out world, index < times
      ∧ Folded (renderUpTo depth) i (start.component i).template transform (start.component i).vars
        start index out world
      ∧ transform.fold (start.component i).vars index = .ok (world.component i).vars
      ∧ ((∃ failure last,
          transform.fold (start.component i).vars (index + 1) = .error failure
          ∧ on (preparation i transform.closure index) world
            = (.error (.trouble (.failure failure)), last)
          ∧ on (renderUpTo (depth + 1) (.component i)) start
            = (.error (.trouble (.failure failure)), last))
        ∨ ∃ vars fault last,
          transform.fold (start.component i).vars (index + 1) = .ok vars
          ∧ on (executeFor (renderUpTo depth) (.component i) .component
              (start.component i).template vars) (world.rescope (.component i) fun _ => vars)
            = (.error fault, last)
          ∧ on (renderUpTo (depth + 1) (.component i)) start = (.error fault, last)) := by
  have hrun : on (renderUpTo (depth + 1) (.component i)) start
      = on (passesFrom (renderUpTo depth) i transform.closure 0 times) start := by
    show on (renderComponent (renderUpTo depth) i) start = _
    rw [on_renderComponent_passes h.gate (h.count ▸ h.positive), h.closure, h.count]
  have hstart : Carries i (start.component i).template transform (start.component i).vars 0 start :=
    ⟨h.there, rfl, rfl⟩
  rw [hrun]
  rcases passed_or_stops (renderUpTo depth) i transform.closure start times with
    ⟨out, last, hpassed, hall⟩ | ⟨index, out, world, fault, last, hindex, hpassed, hstops, hfailed⟩
  · obtain ⟨hfolded, hcarries⟩ := hpassed.folded hstart hkept (Nat.le_refl times)
    exact .inl ⟨out, last, hfolded, hcarries.scope, hall⟩
  · obtain ⟨hfolded, hcarries⟩ := hpassed.folded hstart hkept (Nat.le_of_lt hindex)
    refine .inr ⟨index, out, world, hindex, hfolded, hcarries.scope, ?_⟩
    rcases hcarries.preparation_cases (renderUpTo depth) with
      ⟨vars, hscope, hok, hexecute⟩ | ⟨failure, final, hscope, herror⟩
    · -- the pass was prepared, so it is its execution that stops it
      cases hstops with
      | prepare hprepare => cases hok.symm.trans hprepare
      | execute hprepare hexecuted =>
          cases hok.symm.trans hprepare
          exact .inr ⟨vars, fault, last, hscope, hexecute.symm.trans hexecuted, hfailed⟩
    · cases hstops with
      | prepare hprepare =>
          cases herror.symm.trans hprepare
          exact .inl ⟨failure, last, hscope, herror, hfailed⟩
      | execute hprepare _ => cases herror.symm.trans hprepare

end Passes

end Theory

/-! ## Two passes, and a template that renders its own component -/

section Witness

attribute [local instance] Native.usual FileSystem.plain

/-- Changes the scope in place for the first pass, and gives another one for every later pass. -/
def mixed : Scope → Nat → Prepared
  | scope, 0 => ⟨Value.setEntry (.text "x") (.text "a") scope, .ok none⟩
  | scope, _ + 1 => ⟨scope, .ok (some [(.text "x", .text "b")])⟩

/-- The world of two items with the component repeated twice. -/
def twicePrepared (x : String) : World :=
  { twoItems x 2 with
    components := [{ (twoItems x 2).component 0 with closure := some (.counted mixed) }] }

theorem on_preparation_twicePrepared (x : String) :
    on (preparation 0 (some (.counted mixed)) 0) (twicePrepared x) = (.ok (), twicePrepared "a")
      ∧ on (preparation 0 (some (.counted mixed)) 1) (twicePrepared x)
        = (.ok (), twicePrepared "b") := by
  have hset : Value.setEntry (.text "x") (.text "a") [(.text "x", .text x)]
      = [(.text "x", .text "a")] := by
    rw [Value.setEntry, Value.same_text]
    rfl
  refine ⟨?_, rfl⟩
  show (Except.ok (), (twicePrepared x).setComponent 0 { (twicePrepared x).component 0 with
    vars := Value.setEntry (.text "x") (.text "a") [(.text "x", .text x)] }) = _
  rw [hset]
  rfl

/-- An execution shows the value under the name and changes nothing. -/
theorem on_executeComponent_twicePrepared :
    on (executeComponent (renderUpTo 0) 0) (twicePrepared "a") = (.ok "a", twicePrepared "a")
      ∧ on (executeComponent (renderUpTo 0) 0) (twicePrepared "b")
        = (.ok "b", twicePrepared "b") :=
  ⟨by rfl, by rfl⟩

theorem untouched_twicePrepared (x : String) :
    Untouched (renderUpTo 0) 0 (some (.counted mixed)) 2 (twicePrepared x) := by
  have hsame {index : Nat} {out : String} {world : World}
      (h : Passed (renderUpTo 0) 0 (some (.counted mixed)) (twicePrepared x) index out world)
      (hindex : index < 2) : index = 0 ∧ world = twicePrepared x
        ∨ index = 1 ∧ world = twicePrepared "a" := by
    cases h with
    | start => exact .inl ⟨rfl, rfl⟩
    | next h hprepare hrun =>
        cases h with
        | start =>
            cases (on_preparation_twicePrepared x).1.symm.trans hprepare
            cases on_executeComponent_twicePrepared.1.symm.trans hrun
            exact .inr ⟨rfl, rfl⟩
        | next _ _ _ => omega
  intro index out more world prepared next hindex hpassed hprepare hrun
  rcases hsame hpassed hindex with ⟨rfl, rfl⟩ | ⟨rfl, rfl⟩
  · cases (on_preparation_twicePrepared x).1.symm.trans hprepare
    cases on_executeComponent_twicePrepared.1.symm.trans hrun
    exact ⟨id, rfl, rfl⟩
  · cases (on_preparation_twicePrepared "a").2.symm.trans hprepare
    cases on_executeComponent_twicePrepared.2.symm.trans hrun
    exact ⟨id, rfl, rfl⟩

/-- Two passes, of which the first changes the scope in place and the second takes another one. -/
theorem render_fold_mixed : ∃ start last,
    on (repeatBy 0 (.int 2) (Transform.closure (some mixed))) (twoItems "old" 0) = (.ok (), start)
      ∧ on (renderUpTo 1 (.component 0)) start = (.ok "ab", last)
      ∧ Transform.fold (some mixed) [(.text "x", .text "old")] 2 = .ok (last.component 0).vars := by
  have hrun : on (repeatBy 0 (.int 2) (Transform.closure (some mixed))) (twoItems "old" 0)
      = (.ok (), twicePrepared "old") := rfl
  have hgate : ((twoItems "old" 0).component 0).gate ≠ some false := nofun
  obtain ⟨hcounted, _⟩ := IsCounted.of_repeatBy Nat.one_pos hgate rfl Nat.two_pos hrun
  have hrendered : (on (renderUpTo 1 (.component 0)) (twicePrepared "old")).1 = .ok "ab" := by
    decide +kernel
  refine ⟨twicePrepared "old", ?_⟩
  rcases render_fold hcounted 0 (untouched_twicePrepared "old") with
    ⟨out, last, _, hscope, hok⟩ | ⟨_, _, _, _, _, _, hfailed⟩
  · rw [hok] at hrendered
    cases hrendered
    exact ⟨last, hrun, hok, hscope⟩
  · rcases hfailed with ⟨_, _, _, _, hfault⟩ | ⟨_, _, _, _, _, hfault⟩
    · rw [hfault] at hrendered
      cases hrendered
    · rw [hfault] at hrendered
      cases hrendered

/-- The text under a name of a scope. -/
def textUnder (name : String) (scope : Scope) : Option String :=
  (Value.entry? scope (.text name)).bind Value.text?

/-- Extends the text under a name by the number of the pass. -/
def appendIndex (name : String) (scope : Scope) (index : Nat) : Prepared :=
  let text := (textUnder name scope).getD ""
  let extended := Value.setEntry (.text name) (.text (text ++ toString index)) scope
  ⟨extended, .ok (some extended)⟩

/-- A template that renders its own component takes the passes of that render into the fold. -/
theorem render_fold_disturbed : ∃ start,
    on (repeatBy 0 (.int 2) (Transform.closure (some (appendIndex "acc"))))
        (sourceOf ("\x7b\x7b acc \x7d\x7d;\x7b% if acc == '0' %\x7d"
          ++ "\x7b\x7b this.render() \x7d\x7d\x7b% endif %\x7d") []) = (.ok (), start)
      ∧ (Transform.fold (some (appendIndex "acc")) (start.component 0).vars 2).toOption.bind
          (textUnder "acc") = some "01"
      ∧ (on (render (.component 0)) start).1 = .ok "0;00;001;0011;"
      ∧ textUnder "acc" ((on (render (.component 0)) start).2.component 0).vars = some "0011" :=
  ⟨_, rfl, by decide +kernel, by decide +kernel, by decide +kernel⟩

end Witness

end Engine

end Stencil
