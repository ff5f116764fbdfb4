import Stencil.Proofs.Engine.Refusal

/-! # Executions — how often a render executes a template

    Every render of a component is some number of passes: the passes of a
    repetition, or none, or a single one that no closure prepares.  The plan of a
    render says which.  A component that was repeated over no items has the count of
    one that was never repeated, and the two only differ in the closure, if there is
    one.  So a repetition over items makes one execution for each item, but with
    nothing to repeat over and nothing to bind it makes one all the same.

    Headline: `render_each`. -/

namespace Stencil

open Engine

/-- Whether a value has items to repeat over, and says how many. -/
def Value.isCountable (v : Value) : Bool :=
  v.isIterable && v.count.isOk

/-- How a render goes: the closure that prepares its passes, if there is one, their number, and the
    world in which they begin. -/
structure Plan where
  closure : Option Closure
  count : Nat
  start : World

/-- The plan by which a component is rendered. -/
def World.plan (world : World) (i : Nat) : Plan :=
  let c := world.component i
  if c.gate = some false then ⟨none, 0, world⟩
  else if c.count ≠ 0 then ⟨c.closure, c.count, world⟩
  else
    match c.fallback? with
    | some other => ⟨none, 1, world.setComponent i { c with template := other }⟩
    | none => if c.closure.isSome then ⟨none, 0, world⟩ else ⟨none, 1, world⟩

namespace World

variable {world : World} {i : Nat}

theorem plan_passes (hgate : (world.component i).gate ≠ some false)
    (hcount : (world.component i).count ≠ 0) :
    world.plan i = ⟨(world.component i).closure, (world.component i).count, world⟩ := by
  simp only [plan, if_neg hgate, if_pos hcount]

theorem plan_plain (hgate : (world.component i).gate ≠ some false)
    (hcount : (world.component i).count = 0) (hother : (world.component i).fallback? = none) :
    world.plan i = if (world.component i).closure.isSome then ⟨none, 0, world⟩
      else ⟨none, 1, world⟩ := by
  simp only [plan, if_neg hgate, if_neg (not_not.mpr hcount), hother]

end World

namespace Engine

section Theory

variable [Substrate] [FileSystem] {render : Handle → Engine String} {i : Nat}
  {closure : Option Closure} {start world last : World}

/-! ## Plans -/

/-- No passes put nothing out. -/
theorem on_passesFrom_zero (render : Handle → Engine String) (i : Nat) (closure : Option Closure)
    (index : Nat) (world : World) :
    on (passesFrom render i closure index 0) world = (.ok "", world) := by
  rw [passesFrom]
  rfl

/-- A single pass that no closure prepares is an execution. -/
theorem on_passesFrom_once (index : Nat) (world : World) :
    on (passesFrom render i none index 1) world = on (executeComponent render i) world := by
  rw [passesFrom_succ, preparation, on_bind_ok (rfl : on (pure ()) world = _)]
  rcases hrun : on (executeComponent render i) world with ⟨fault | out, next⟩
  · rw [on_bind_error hrun]
  · rw [on_bind_ok hrun, on_map, on_passesFrom_zero]
    simp [Except.map]

/-- A render goes as it is planned. -/
theorem on_renderComponent_plan (render : Handle → Engine String) (i : Nat) (world : World) :
    on (renderComponent render i) world = on (passesFrom render i (world.plan i).closure 0
      (world.plan i).count) (world.plan i).start := by
  rw [World.plan]
  split
  · next hgate => rw [on_renderComponent_shut hgate, on_passesFrom_zero]
  · next hgate =>
      split
      · next hcount => exact on_renderComponent_passes hgate (Nat.pos_of_ne_zero hcount)
      · next hcount =>
          have hzero : (world.component i).count = 0 := not_not.mp hcount
          split
          · next other hother =>
              rw [on_renderComponent_fallBack hgate hzero hother, on_passesFrom_once]
          · next hother =>
              rw [on_renderComponent_plain hgate hzero hother]
              split
              · exact (on_passesFrom_zero render i none 0 world).symm
              · exact (on_passesFrom_once 0 world).symm

/-! ## Executions -/

/-- An execution of a template: the template, the scope that it sees, and what it puts out. -/
structure Rendition where
  template : String
  scope : Scope
  out : String

/-- What executions put out together. -/
def outputOf (renditions : List Rendition) : String :=
  String.join (renditions.map Rendition.out)

/-- Executions one after the other, each prepared by the closure if there is one, and the world that
    they leave. -/
inductive Executed (render : Handle → Engine String) (i : Nat) (closure : Option Closure)
    (start : World) : List Rendition → World → Prop
  | start : Executed render i closure start [] start
  | next {renditions : List Rendition} {world prepared after : World} {out : String}
      (h : Executed render i closure start renditions world)
      (hprepare : on (preparation i closure renditions.length) world = (.ok (), prepared))
      (hrun : on (executeComponent render i) prepared = (.ok out, after)) :
      Executed render i closure start
        (renditions ++ [⟨(prepared.component i).template, (prepared.component i).vars, out⟩]) after

/-- How a number of passes end, and after which executions: all of them succeed, or one stops. -/
inductive Ends (render : Handle → Engine String) (i : Nat) (closure : Option Closure) (count : Nat)
    (start : World) : List Rendition → Except Fault String → World → Prop
  | all {renditions : List Rendition} {last : World}
      (h : Executed render i closure start renditions last) (hlength : renditions.length = count) :
      Ends render i closure count start renditions (.ok (outputOf renditions)) last
  | stop {renditions : List Rendition} {world last : World} {fault : Fault}
      (h : Executed render i closure start renditions world) (hlength : renditions.length < count)
      (hstops : Stops render i closure renditions.length world fault last) :
      Ends render i closure count start renditions (.error fault) last

omit [Substrate] [FileSystem] in
theorem outputOf_concat (renditions : List Rendition) (rendition : Rendition) :
    outputOf (renditions ++ [rendition]) = outputOf renditions ++ rendition.out := by
  rw [outputOf, List.map_append, String.join_append]
  simp [outputOf]

/-- Passes that have succeeded are executions. -/
theorem Passed.executed {index : Nat} {out : String}
    (h : Passed render i closure start index out world) :
    ∃ renditions, renditions.length = index ∧ outputOf renditions = out
      ∧ Executed render i closure start renditions world := by
  induction h with
  | start => exact ⟨[], rfl, rfl, .start⟩
  | @next index out more world prepared after _ hprepare hrun ih =>
      obtain ⟨renditions, rfl, rfl, hexecuted⟩ := ih
      have hnext := hexecuted.next hprepare hrun
      exact ⟨_, List.length_append, outputOf_concat _ _, hnext⟩

/-- Executions are passes that have succeeded. -/
theorem Executed.passed {renditions : List Rendition}
    (h : Executed render i closure start renditions world) :
    Passed render i closure start renditions.length (outputOf renditions) world := by
  induction h with
  | start => exact .start
  | next _ hprepare hrun ih =>
      rw [outputOf_concat, List.length_append]
      exact ih.next hprepare hrun

/-- What passes come to, if it is known after which executions they end. -/
theorem Ends.on_passesFrom {count : Nat} {renditions : List Rendition}
    {outcome : Except Fault String}
    (h : Ends render i closure count start renditions outcome last) :
    on (passesFrom render i closure 0 count) start = (outcome, last) := by
  cases h with
  | all hexecuted hlength =>
      subst hlength
      rw [hexecuted.passed.on_passesFrom (Nat.le_refl _), Nat.sub_self, on_map, on_passesFrom_zero]
      simp [Except.map]
  | stop hexecuted hlength hstops => exact hexecuted.passed.on_passesFrom_stops hlength hstops

/-- Passes come to an end after some executions. -/
theorem exists_ends (render : Handle → Engine String) (i : Nat) (closure : Option Closure)
    (count : Nat) (start : World) : ∃ renditions, Ends render i closure count start renditions
      (on (passesFrom render i closure 0 count) start).1
      (on (passesFrom render i closure 0 count) start).2 := by
  rcases passed_or_stops render i closure start count with
    ⟨out, last, hpassed, hrun⟩ | ⟨index, out, world, fault, last, hindex, hpassed, hstops, hrun⟩
  · obtain ⟨renditions, hlength, rfl, hexecuted⟩ := hpassed.executed
    rw [hrun]
    exact ⟨renditions, .all hexecuted hlength⟩
  · obtain ⟨renditions, rfl, -, hexecuted⟩ := hpassed.executed
    rw [hrun]
    exact ⟨renditions, .stop hexecuted hindex hstops⟩

/-! ## Repetitions over items -/

omit [Substrate] [FileSystem] in
/-- What is taken of data that say how many items they have says so too. -/
theorem exists_count {data found : Value} {drained : World}
    (hitems : on (itemsOf data) world = (.ok found, drained)) (hdata : data.isCountable = true) :
    ∃ count, found.count = .ok count := by
  unfold itemsOf at hitems
  split at hitems
  · cases hitems
    exact ⟨_, rfl⟩
  · cases hitems
    exact ⟨_, rfl⟩
  · split at hitems
    · cases hitems
    · cases hitems
      exact ⟨_, rfl⟩
  · split at hitems
    · cases hitems
      have hcount := (Bool.and_eq_true_iff.mp hdata).2
      cases hfound : data.count with
      | ok count => exact ⟨count, rfl⟩
      | error cause =>
          rw [hfound] at hcount
          cases hcount
    · cases hitems

omit [Substrate] [FileSystem] in
/-- Data that have items and say how many are taken, and the component repeats over them. -/
theorem exists_each {data : Value} (hthere : i < world.components.length)
    (hdata : data.isCountable = true) (closure : Option Closure) (other : Option String) :
    ∃ found start, on (each i data (.ok closure) other) world = (.ok (), start)
      ∧ start.component i = { world.component i with
        other, data := found, count := (world.heldBy data).length, closure } := by
  have hiterable := (Bool.and_eq_true_iff.mp hdata).1
  rcases on_itemsOf_cases data world with ⟨_, _, drained, hitems⟩ | ⟨hnot, _⟩
  · obtain ⟨count, hcount⟩ := exists_count hitems hdata
    have heach : on (each i data (.ok closure) other) world = (.ok (), _) :=
      on_each_counted hitems hcount (.ok closure) other
    obtain ⟨found, _, _, hcomponent⟩ := on_each_ok hthere heach
    exact ⟨found, _, heach, hcomponent⟩
  · cases hiterable.symm.trans hnot

/-- **Executions of a repetition over items**, with no other template and an open gate.  Data that
    have items and say how many are always taken.  The render that follows makes one execution for
    each item, prepared by the closure; it ends with a fault only if one of them stops, and those
    behind are not made. So without items it puts nothing out if there is a closure.  But if there
    is nothing to bind either, it makes one execution, as if nothing had been repeated. -/
theorem render_each {data : Value} {other : Option String} (hthere : i < world.components.length)
    (hgate : (world.component i).gate ≠ some false) (hdata : data.isCountable = true)
    (hother : other.filter (· != "") = none) (closure : Option Closure) :
    ∃ start, on (each i data (.ok closure) other) world = (.ok (), start) ∧ ∀ depth,
      (world.heldBy data ≠ [] ∨ closure.isSome = true → ∃ renditions,
        Ends (renderUpTo depth) i closure (world.heldBy data).length start renditions
          (on (renderUpTo (depth + 1) (.component i)) start).1
          (on (renderUpTo (depth + 1) (.component i)) start).2)
      ∧ (world.heldBy data = [] → closure.isSome = true →
        on (renderUpTo (depth + 1) (.component i)) start = (.ok "", start))
      ∧ (world.heldBy data = [] → closure = none → ∃ renditions,
        Ends (renderUpTo depth) i none 1 start renditions
          (on (renderUpTo (depth + 1) (.component i)) start).1
          (on (renderUpTo (depth + 1) (.component i)) start).2) := by
  obtain ⟨found, start, hrun, hcomponent⟩ := exists_each hthere hdata closure other
  have hopen : (start.component i).gate ≠ some false := hcomponent ▸ hgate
  have hfallback : (start.component i).fallback? = none := by
    rw [hcomponent]
    exact hother
  -- without items the count is zero, and only the closure is left to decide
  have hplain (hitems : world.heldBy data = []) :
      start.plan i = if closure.isSome then ⟨none, 0, start⟩ else ⟨none, 1, start⟩ := by
    have hzero : (start.component i).count = 0 := by rw [hcomponent, hitems]; rfl
    rw [World.plan_plain hopen hzero hfallback, hcomponent]
  refine ⟨start, hrun, fun depth => ?_⟩
  have hrender : on (renderUpTo (depth + 1) (.component i)) start = _ :=
    on_renderComponent_plan (renderUpTo depth) i start
  have hempty (hitems : world.heldBy data = []) (hsome : closure.isSome = true) :
      on (renderUpTo (depth + 1) (.component i)) start = (.ok "", start) := by
    rw [hrender, hplain hitems, if_pos hsome]
    exact on_passesFrom_zero _ i none 0 start
  refine ⟨?_, hempty, ?_⟩
  · intro hsome
    by_cases hitems : world.heldBy data = []
    · rw [hempty hitems (hsome.resolve_left (not_not.mpr hitems)), hitems]
      exact ⟨[], .all .start rfl⟩
    · have hcount : (start.component i).count ≠ 0 := by
        rw [hcomponent]
        exact mt List.length_eq_zero_iff.mp hitems
      rw [hrender, World.plan_passes hopen hcount, hcomponent]
      exact exists_ends _ i closure _ start
  · rintro hitems rfl
    rw [hrender, hplain hitems]
    exact exists_ends _ i none 1 start

end Theory

section Witness

attribute [local instance] Native.usual FileSystem.plain

/-- A component that repeats over no items with nothing to bind is executed once. -/
theorem render_each_empty : ∃ start renditions last,
    on (each 0 (.list []) (.ok none) (some "")) (sourceOf "x" []) = (.ok (), start)
      ∧ Executed (renderUpTo 0) 0 none start renditions last ∧ renditions.length = 1
      ∧ on (renderUpTo 1 (.component 0)) start = (.ok (outputOf renditions), last)
      ∧ outputOf renditions = "x" := by
  have hthere : 0 < (sourceOf "x" []).components.length := Nat.one_pos
  have hgate : ((sourceOf "x" []).component 0).gate ≠ some false := nofun
  have hdata : (Value.list []).isCountable = true := rfl
  have hother : (some "").filter (· != "") = none := rfl
  obtain ⟨start, hrun, hrender⟩ := render_each hthere hgate hdata hother none
  have hout : (on (renderUpTo 1 (.component 0))
      (on (each 0 (.list []) (.ok none) (some "")) (sourceOf "x" [])).2).1 = .ok "x" := by
    decide +kernel
  rw [hrun] at hout
  obtain ⟨renditions, hends⟩ := (hrender 0).2.2 rfl rfl
  rcases hafter : on (renderUpTo 1 (.component 0)) start with ⟨outcome, last⟩
  rw [hafter] at hout hends
  cases hends with
  | all hexecuted hlength =>
      exact ⟨start, renditions, last, hrun, hexecuted, hlength, hafter, Except.ok.inj hout⟩
  | stop => cases hout

end Witness

end Engine

end Stencil
