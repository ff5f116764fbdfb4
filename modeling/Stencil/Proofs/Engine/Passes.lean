import Stencil.Native.Usual
import Stencil.Proofs.Engine.Course

/-! # Passes — what a render of a component executes

    The calls that configure a component decide what its render executes: the
    last gate whether anything, the last repetition how many passes, and the last
    repetition over items which template without any pass.  A pass executes the
    template that the component has then.  It is the component's own one, unless a
    pass before has rendered the component itself to its other template, which
    stays in the place of the own one.

    Headline: `render_configured`. -/

namespace Stencil

/-! ## Components of a world -/

namespace World

variable {world : World} {i : Nat}

theorem component_setComponent_self (h : i < world.components.length) (component : Component) :
    (world.setComponent i component).component i = component := by
  rw [World.component, setComponent, List.getElem?_set_self h]
  rfl

/-- A component changed in place, or none that could be changed. -/
theorem component_setComponent_cases (world : World) (i : Nat) (component : Component) :
    (world.setComponent i component).component i = component
      ∨ (world.component i = default ∧ world.setComponent i component = world) := by
  rcases Nat.lt_or_ge i world.components.length with hinside | hbeyond
  · exact .inl (component_setComponent_self hinside component)
  · refine .inr ⟨?_, ?_⟩
    · rw [World.component, List.getElem?_eq_none hbeyond]
      rfl
    · rw [setComponent, List.set_eq_of_length_le hbeyond]

theorem setComponent_component (world : World) (i : Nat) :
    world.setComponent i (world.component i) = world := by
  rcases Nat.lt_or_ge i world.components.length with hinside | hbeyond
  · rw [setComponent, World.component, List.getElem?_eq_getElem hinside, Option.getD_some,
      List.set_getElem_self]
  · rw [setComponent, List.set_eq_of_length_le hbeyond]

theorem setComponent_setComponent (world : World) (i : Nat) (component other : Component) :
    (world.setComponent i component).setComponent i other = world.setComponent i other := by
  rw [setComponent, setComponent, setComponent, List.set_set]

/-- The items that data holds at the moment. -/
def heldBy (world : World) (data : Value) : List Value :=
  match data with
  | .set items => items
  | .stream id => world.streams[id]?.getD []
  | data => data.items?.getD []

end World

namespace Engine

variable {α β : Type}

theorem on_map (f : α → β) (x : Engine α) (world : World) :
    on (f <$> x) world = ((on x world).1.map f, (on x world).2) := by
  rw [map_eq_pure_bind]
  rcases hrun : on x world with ⟨outcome, next⟩
  cases outcome with
  | ok a =>
      rw [on_bind_ok hrun]
      rfl
  | error fault =>
      rw [on_bind_error hrun]
      rfl

/-! ## Configurations -/

/-- A call that configures a component.  The items of a repetition are those that its data held. -/
inductive Call where
  | bind (name value : Value)
  | bindAll (entries : List (Value × Value))
  | gate (condition : Value)
  | repeated (count : Value) (closure : Option Closure)
  | each (items : List Value) (closure : Option Closure) (other : Option String)

namespace Call

/-- What a call says of the gate. -/
def gate? : Call → Option Bool
  | .gate condition => condition.truth.toOption
  | _ => none

/-- The number of passes that a call asks for. -/
def count? : Call → Option Nat
  | .repeated count _ => count.toInt.toOption.map Int.toNat
  | .each items _ _ => some items.length
  | _ => none

/-- What a call says of the closure. -/
def closure? : Call → Option (Option Closure)
  | .repeated _ closure => some closure
  | .each _ closure _ => some closure
  | _ => none

/-- What a call says of the other template. -/
def other? : Call → Option (Option String)
  | .each _ _ other => some other
  | _ => none

/-- What the last call that says something says. -/
def last? (part : Call → Option α) (calls : List Call) : Option α :=
  (calls.filterMap part).getLast?

/-- Whether the gate is shut after calls. -/
def shuts (calls : List Call) : Prop :=
  last? gate? calls = some false

/-- The number of passes after calls. -/
def countAfter (calls : List Call) : Nat :=
  (last? count? calls).getD 0

/-- The closure after calls. -/
def closureAfter (calls : List Call) : Option Closure :=
  (last? closure? calls).join

/-- The template to fall back on after calls. -/
def otherAfter (calls : List Call) : Option String :=
  (last? other? calls).join.filter (· != "")

theorem last?_concat (part : Call → Option α) (calls : List Call) (call : Call) :
    last? part (calls ++ [call]) = (part call).or (last? part calls) := by
  rw [last?, List.filterMap_append]
  cases hpart : part call with
  | none => simp [hpart, last?]
  | some a => simp [hpart]

end Call

/-- The worlds that successful calls on a new component lead to.  Whatever else happens leaves the
    component as it is. -/
inductive Configured (i : Nat) (template : String) : List Call → World → Prop
  | create {site : Nat} {world next : World}
      (hrun : on (newComponent site template) world = (.ok (.component i), next)) :
      Configured i template [] next
  | bind {calls : List Call} {world next : World} (name value : Value)
      (hrun : on (bind (.component i) name value) world = (.ok (), next))
      (h : Configured i template calls world) :
      Configured i template (calls ++ [.bind name value]) next
  | bindAll {calls : List Call} {world next : World} (entries : List (Value × Value))
      (hrun : on (bindAll (.component i) (.map entries)) world = (.ok (), next))
      (h : Configured i template calls world) :
      Configured i template (calls ++ [.bindAll entries]) next
  | gate {calls : List Call} {world next : World} (condition : Value)
      (hrun : on (gate i condition) world = (.ok (), next))
      (h : Configured i template calls world) :
      Configured i template (calls ++ [.gate condition]) next
  | repeated {calls : List Call} {world next : World} (count : Value) (closure : Option Closure)
      (hrun : on (repeatBy i count closure) world = (.ok (), next))
      (h : Configured i template calls world) :
      Configured i template (calls ++ [.repeated count closure]) next
  | each {calls : List Call} {world next : World} (data : Value) (closure : Option Closure)
      (other : Option String) (hrun : on (each i data (.ok closure) other) world = (.ok (), next))
      (h : Configured i template calls world) :
      Configured i template (calls ++ [.each (world.heldBy data) closure other]) next
  | aside {calls : List Call} {world next : World} (hlength : i < next.components.length)
      (hcomponent : next.component i = world.component i)
      (h : Configured i template calls world) : Configured i template calls next

/-- A component as calls have configured it. -/
structure IsSet (calls : List Call) (template : String) (c : Component) : Prop where
  template : c.template = template
  gate : c.gate = Call.last? Call.gate? calls
  count : c.count = Call.countAfter calls
  closure : c.closure = Call.closureAfter calls
  fallback : c.fallback? = Call.otherAfter calls

/-! ## What successful calls leave -/

/-- Nothing changes. -/
def Still : Passage := fun start _ last => last = start

instance : Walk Still where
  refl _ := rfl
  trans h h' := h'.trans h
  trouble _ _ := rfl
  noVariable _ _ _ _ := rfl

/-- Only the scope of a component changes. -/
def Rescopes (i : Nat) : Passage :=
  fun start _ last => ∃ vars, last = start.setComponent i { start.component i with vars }

theorem Rescopes.refl (i : Nat) (world : World) (fault? : Option Fault) :
    Rescopes i world fault? world :=
  ⟨(world.component i).vars, (world.setComponent_component i).symm⟩

instance (i : Nat) : Walk (Rescopes i) where
  refl world := Rescopes.refl i world none
  trans := by
    rintro start middle last fault? ⟨vars, rfl⟩ ⟨vars', rfl⟩
    have hcases := start.component_setComponent_cases i { start.component i with vars }
    rcases hcases with hset | ⟨_, hset⟩
    · refine ⟨vars', ?_⟩
      rw [hset, World.setComponent_setComponent]
    · rw [hset]
      exact ⟨vars', rfl⟩
  trouble _ world := Rescopes.refl i world _
  noVariable _ _ _ world := Rescopes.refl i world _

theorem Rescopes.changeVars (i : Nat) (change : Scope → Scope) :
    Respects (Rescopes i) (changeVars (.component i) change) :=
  fun world => ⟨change (world.component i).vars, rfl⟩

theorem Rescopes.bindAll (i : Nat) (entries : List (Value × Value)) :
    Respects (Rescopes i) (bindAll (.component i) (.map entries)) := by
  show Respects (Rescopes i) (bindEntries (.component i) entries)
  induction entries with
  | nil => exact .pure ()
  | cons entry entries ih =>
      exact (Respects.bindIn (changeVars i) entry.1 entry.2).bind fun _ => ih

/-- A repetition over items reads what its data holds, and changes no component by that. -/
theorem on_itemsOf_ok {data found : Value} {world next : World}
    (hrun : on (itemsOf data) world = (.ok found, next)) :
    found.items?.getD [] = world.heldBy data ∧ next.components = world.components := by
  unfold itemsOf at hrun
  split at hrun
  case h_1 items =>
      cases hrun
      exact ⟨rfl, rfl⟩
  case h_2 id =>
      cases hrun
      exact ⟨rfl, rfl⟩
  case h_3 absence =>
      split at hrun
      · cases hrun
      · cases hrun
        exact ⟨rfl, rfl⟩
  case h_4 hset hstream habsent =>
      split at hrun
      · cases hrun
        refine ⟨?_, rfl⟩
        unfold World.heldBy
        split
        · exact absurd rfl (hset _)
        · exact absurd rfl (hstream _)
        · rfl
      · cases hrun

/-- A successful computation whose one step can fail without changing anything. -/
theorem on_ofTrouble_bind_ok {result : Except Trouble α} {f : α → Engine β} {b : β}
    {world next : World} (hrun : on (ofTrouble result >>= f) world = (.ok b, next)) :
    ∃ a, result = .ok a ∧ on (f a) world = (.ok b, next) := by
  cases result with
  | ok a => exact ⟨a, rfl, hrun⟩
  | error cause => cases hrun

/-- Data that tells how many items it has has as many. -/
theorem length_of_count {data : Value} {count : Nat} (h : data.count = .ok count) :
    count = (data.items?.getD []).length := by
  unfold Value.count at h
  split at h <;> cases h
  rfl

/-- A repetition over items sets a component to what its data held, and leaves its scope and its
    gate. -/
theorem on_each_ok {i : Nat} {data : Value} {closure : Option Closure} {other : Option String}
    {world next : World} (hlength : i < world.components.length)
    (hrun : on (each i data (.ok closure) other) world = (.ok (), next)) :
    ∃ found : Value, found.items?.getD [] = world.heldBy data ∧ i < next.components.length
      ∧ next.component i = { world.component i with
          other, data := found, count := (world.heldBy data).length, closure } := by
  rw [each] at hrun
  rcases hitems : on (itemsOf data) world with ⟨fault | found, middle⟩
  · rw [on_bind_error hitems] at hrun
    cases hrun
  · rw [on_bind_ok hitems] at hrun
    obtain ⟨hheld, hcomponents⟩ := on_itemsOf_ok hitems
    have hmiddle : middle.component i = world.component i := by
      rw [World.component, hcomponents]
      rfl
    rw [← hcomponents] at hlength
    rw [on_bind_ok (on_changeComponent i _ middle)] at hrun
    obtain ⟨count, hcount, hrun⟩ := on_ofTrouble_bind_ok hrun
    -- each change goes out from the component that the one before it has put there
    have hnext : next = middle.setComponent i
        { middle.component i with other, data := found, count, closure } := by
      cases hrun
      show ((middle.setComponent i _).setComponent i _).setComponent i _ = _
      simp only [World.setComponent_setComponent, World.component_setComponent_self hlength]
    subst hnext
    refine ⟨found, hheld, by simpa [World.setComponent] using hlength, ?_⟩
    rw [World.component_setComponent_self hlength, hmiddle, length_of_count hcount, hheld]

namespace IsSet

variable {calls : List Call} {template : String} {c : Component}

theorem rescope (h : IsSet calls template c) (vars : Scope) {call : Call}
    (hgate : call.gate? = none) (hcount : call.count? = none) (hclosure : call.closure? = none)
    (hother : call.other? = none) : IsSet (calls ++ [call]) template { c with vars } where
  template := h.template
  gate := by rw [Call.last?_concat, hgate]; exact h.gate
  count := by rw [Call.countAfter, Call.last?_concat, hcount]; exact h.count
  closure := by rw [Call.closureAfter, Call.last?_concat, hclosure]; exact h.closure
  fallback := by rw [Call.otherAfter, Call.last?_concat, hother]; exact h.fallback

theorem regate (h : IsSet calls template c) {condition : Value} {isOpen : Bool}
    (hcondition : condition.truth = .ok isOpen) :
    IsSet (calls ++ [.gate condition]) template { c with gate := some isOpen } where
  template := h.template
  gate := by rw [Call.last?_concat, Call.gate?, hcondition]; rfl
  count := by rw [Call.countAfter, Call.last?_concat]; exact h.count
  closure := by rw [Call.closureAfter, Call.last?_concat]; exact h.closure
  fallback := by rw [Call.otherAfter, Call.last?_concat]; exact h.fallback

theorem repeated (h : IsSet calls template c) {count : Value} {n : Int}
    (hcount : count.toInt = .ok n) (closure : Option Closure) :
    IsSet (calls ++ [.repeated count closure]) template { c with count := n.toNat, closure } where
  template := h.template
  gate := by rw [Call.last?_concat]; exact h.gate
  count := by rw [Call.countAfter, Call.last?_concat, Call.count?, hcount]; rfl
  closure := by rw [Call.closureAfter, Call.last?_concat]; rfl
  fallback := by rw [Call.otherAfter, Call.last?_concat]; exact h.fallback

theorem each (h : IsSet calls template c) (data : Value) (items : List Value)
    (closure : Option Closure) (other : Option String) :
    IsSet (calls ++ [.each items closure other]) template
      { c with other, data, count := items.length, closure } where
  template := h.template
  gate := by rw [Call.last?_concat]; exact h.gate
  count := by rw [Call.countAfter, Call.last?_concat]; rfl
  closure := by rw [Call.closureAfter, Call.last?_concat]; rfl
  fallback := by rw [Call.otherAfter, Call.last?_concat]; rfl

end IsSet

/-- A component that is there is replaced, and none is added or taken away. -/
theorem isSet_setComponent {i : Nat} {template : String} {calls : List Call} {world : World}
    (hlength : i < world.components.length) {c : Component} (h : IsSet calls template c) :
    i < (world.setComponent i c).components.length
      ∧ IsSet calls template ((world.setComponent i c).component i) := by
  rw [World.component_setComponent_self hlength]
  exact ⟨by rw [World.setComponent, List.length_set]; exact hlength, h⟩

/-- Successful calls configure the component as they say. -/
theorem Configured.isSet {i : Nat} {template : String} {calls : List Call} {world : World}
    (h : Configured i template calls world) :
    i < world.components.length ∧ IsSet calls template (world.component i) := by
  induction h with
  | @create site world next hrun =>
      cases hrun
      refine ⟨by simp, ?_⟩
      rw [World.component, List.getElem?_concat_length]
      exact ⟨rfl, rfl, rfl, rfl, rfl⟩
  | @bind calls world next name value hrun _ ih =>
      have hscope := Respects.bindIn (Rescopes.changeVars i) name value world
      rw [hrun] at hscope
      obtain ⟨vars, rfl⟩ := hscope
      exact isSet_setComponent ih.1 (ih.2.rescope vars rfl rfl rfl rfl)
  | @bindAll calls world next entries hrun _ ih =>
      have hscope := Rescopes.bindAll i entries world
      rw [hrun] at hscope
      obtain ⟨vars, rfl⟩ := hscope
      exact isSet_setComponent ih.1 (ih.2.rescope vars rfl rfl rfl rfl)
  | gate condition hrun _ ih =>
      obtain ⟨isOpen, hcondition, hchange⟩ := on_ofTrouble_bind_ok hrun
      cases hchange
      exact isSet_setComponent ih.1 (ih.2.regate hcondition)
  | repeated count closure hrun _ ih =>
      obtain ⟨n, hcount, hchange⟩ := on_ofTrouble_bind_ok hrun
      cases hchange
      exact isSet_setComponent ih.1 (ih.2.repeated hcount closure)
  | @each calls world next data closure other hrun _ ih =>
      obtain ⟨found, _, hlength, hcomponent⟩ := on_each_ok ih.1 hrun
      rw [hcomponent]
      exact ⟨hlength, ih.2.each found _ closure other⟩
  | aside hlength hcomponent _ ih =>
      rw [hcomponent]
      exact ⟨hlength, ih.2⟩

/-! ## Passes -/

/-- One execution of a template for the present scope of a component. -/
def executionOf [Substrate] [FileSystem] (render : Handle → Engine String) (i : Nat)
    (template : String) :
    Engine String := do
  executeFor render (.component i) .component template ((← get).component i).vars

/-- What a closure, if there is one, does before a pass. -/
def preparation [Substrate] (i : Nat) (closure : Option Closure) (index : Nat) : Engine Unit :=
  match closure with
  | some closure => prepare i closure index
  | none => pure ()

section Passes

variable [Substrate] [FileSystem] {render : Handle → Engine String} {i : Nat} {template : String}
  {closure : Option Closure}

/-- A number of passes with one template from an index on: each is prepared and executed in the
    world that the one before it left, and the first fault stops them. -/
inductive Passes (render : Handle → Engine String) (i : Nat) (template : String)
    (closure : Option Closure) : Nat → Nat → World → Except Fault String → World → Prop
  | done (index : Nat) (world : World) :
      Passes render i template closure index 0 world (.ok "") world
  | unprepared {index count : Nat} {world next : World} {fault : Fault}
      (hprepare : on (preparation i closure index) world = (.error fault, next)) :
      Passes render i template closure index (count + 1) world (.error fault) next
  | failed {index count : Nat} {world prepared next : World} {fault : Fault}
      (hprepare : on (preparation i closure index) world = (.ok (), prepared))
      (hrun : on (executionOf render i template) prepared = (.error fault, next)) :
      Passes render i template closure index (count + 1) world (.error fault) next
  | pass {index count : Nat} {world prepared next last : World} {out : String}
      {outcome : Except Fault String}
      (hprepare : on (preparation i closure index) world = (.ok (), prepared))
      (hrun : on (executionOf render i template) prepared = (.ok out, next))
      (h : Passes render i template closure (index + 1) count next outcome last) :
      Passes render i template closure index (count + 1) world (outcome.map (out ++ ·)) last

theorem on_executeComponent_eq (world : World) : on (executeComponent render i) world
    = on (executionOf render i (world.component i).template) world := by
  rw [executeComponent, executionOf, on_bind_ok (on_get world), on_bind_ok (on_get world)]

omit [FileSystem] in
theorem template_preparation (closure : Option Closure) (index : Nat) (world : World) :
    ((on (preparation i closure index) world).2.component i).template
      = (world.component i).template := by
  have hscope : Respects (Rescopes i) (preparation i closure index) := by
    cases closure with
    | none => exact .pure ()
    | some closure => exact Respects.prepare (Rescopes.changeVars i) closure index
  obtain ⟨vars, hnext⟩ := hscope world
  rw [hnext]
  have hcases := world.component_setComponent_cases i { world.component i with vars }
  rcases hcases with hset | ⟨_, hset⟩
  · rw [hset]
  · rw [hset]

theorem passesFrom_succ (index count : Nat) : passesFrom render i closure index (count + 1)
    = preparation i closure index >>= fun _ => executeComponent render i >>= fun out =>
      (out ++ ·) <$> passesFrom render i closure (index + 1) count := by
  conv => lhs; unfold passesFrom
  simp only [map_eq_pure_bind]
  cases closure <;> rfl

/-- The passes of a render that have succeeded, what they have put out, and the world that they have
    left. -/
inductive Passed (render : Handle → Engine String) (i : Nat) (closure : Option Closure)
    (start : World) : Nat → String → World → Prop
  | start : Passed render i closure start 0 "" start
  | next {index : Nat} {out more : String} {world prepared after : World}
      (h : Passed render i closure start index out world)
      (hprepare : on (preparation i closure index) world = (.ok (), prepared))
      (hrun : on (executeComponent render i) prepared = (.ok more, after)) :
      Passed render i closure start (index + 1) (out ++ more) after

/-- A pass ends with a fault, while it is prepared or while it is executed. -/
inductive Stops (render : Handle → Engine String) (i : Nat) (closure : Option Closure) (index : Nat)
    (world : World) (fault : Fault) (last : World) : Prop
  | prepare (hprepare : on (preparation i closure index) world = (.error fault, last))
  | execute {prepared : World}
      (hprepare : on (preparation i closure index) world = (.ok (), prepared))
      (hrun : on (executeComponent render i) prepared = (.error fault, last))

section Passed

variable {start world last : World} {index count : Nat} {out : String} {fault : Fault}

/-- What holds along each step of a render holds along its passes, up to the execution of the next
    one. -/
theorem Passed.respects {R : Passage} {kind : Request → Prop} [Running R kind]
    (hrender : RendersRespect R render)
    (hclosure : (start.component i).closure = closure)
    (h : Passed render i closure start index out world) :
    R start none world ∧ RespectsFrom R start (preparation i closure index) := by
  have hprepares (index : Nat) : RespectsFrom R start (preparation i closure index) := by
    cases closure with
    | none => exact (Respects.pure ()).respectsFrom start
    | some closure => exact Course.prepare hclosure index
  refine ⟨?_, hprepares index⟩
  induction h with
  | start => exact Walk.refl start
  | @next index out more world prepared after _ hprepare hrun ih =>
      have hprepared := hprepares index world ih
      rw [hprepare] at hprepared
      have hexecuted := Respects.executeComponent hrender i prepared
      rw [hrun] at hexecuted
      exact Walk.trans hprepared hexecuted

/-- Behind passes that have succeeded a render goes on with those that are left. -/
theorem Passed.on_passesFrom (h : Passed render i closure start index out world)
    (hindex : index ≤ count) : on (passesFrom render i closure 0 count) start
      = on ((out ++ ·) <$> passesFrom render i closure index (count - index)) world := by
  induction h with
  | start => simp
  | @next index out more world prepared after _ hprepare hrun ih =>
      obtain ⟨left, rfl⟩ := Nat.exists_eq_add_of_le hindex
      rw [ih (by omega), on_map, show index + 1 + left - index = left + 1 by omega, passesFrom_succ,
        on_bind_ok hprepare, on_bind_ok hrun, on_map, on_map, Nat.add_sub_cancel_left]
      refine Prod.ext ?_ rfl
      cases (on (passesFrom render i closure (index + 1) left) after).1 with
      | ok rest => simp [Except.map, String.append_assoc]
      | error fault => rfl

/-- A pass that stops ends the render. -/
theorem Passed.on_passesFrom_stops (h : Passed render i closure start index out world)
    (hindex : index < count) (hstops : Stops render i closure index world fault last) :
    on (passesFrom render i closure 0 count) start = (.error fault, last) := by
  obtain ⟨left, rfl⟩ := Nat.exists_eq_add_of_lt hindex
  have hleft : index + left + 1 - index = left + 1 := by omega
  rw [h.on_passesFrom (Nat.le_of_lt hindex), on_map, hleft, passesFrom_succ]
  cases hstops with
  | prepare hprepare =>
      rw [on_bind_error hprepare]
      rfl
  | execute hprepare hrun =>
      rw [on_bind_ok hprepare, on_bind_error hrun]
      rfl

/-- The passes of a render succeed one after the other, until one of them stops. -/
theorem passed_or_stops (render : Handle → Engine String) (i : Nat) (closure : Option Closure)
    (start : World) (count : Nat) :
    (∃ out last, Passed render i closure start count out last
      ∧ on (passesFrom render i closure 0 count) start = (.ok out, last))
    ∨ ∃ index out world fault last, index < count ∧ Passed render i closure start index out world
      ∧ Stops render i closure index world fault last
      ∧ on (passesFrom render i closure 0 count) start = (.error fault, last) := by
  induction count with
  | zero => exact .inl ⟨"", start, .start, rfl⟩
  | succ count ih =>
      rcases ih with ⟨out, world, hpassed, _⟩
        | ⟨index, out, world, fault, last, hlt, hpassed, hstops, _⟩
      · -- all the passes before the last one succeed, which then decides
        rcases hprepare : on (preparation i closure count) world with ⟨fault | ⟨⟩, prepared⟩
        · have hstops : Stops render i closure count world fault prepared := .prepare hprepare
          exact .inr ⟨count, out, world, fault, prepared, Nat.lt_succ_self _, hpassed, hstops,
            hpassed.on_passesFrom_stops (Nat.lt_succ_self _) hstops⟩
        · rcases hrun : on (executeComponent render i) prepared with ⟨fault | more, last⟩
          · have hstops : Stops render i closure count world fault last := .execute hprepare hrun
            exact .inr ⟨count, out, world, fault, last, Nat.lt_succ_self _, hpassed, hstops,
              hpassed.on_passesFrom_stops (Nat.lt_succ_self _) hstops⟩
          · have hnext := hpassed.next hprepare hrun
            refine .inl ⟨out ++ more, last, hnext, ?_⟩
            have hnone : on (passesFrom render i closure (count + 1) 0) last = (.ok "", last) := by
              rw [passesFrom]
              rfl
            rw [hnext.on_passesFrom (Nat.le_refl _), Nat.sub_self, on_map, hnone]
            simp [Except.map]
      · have hlt' : index < count + 1 := Nat.lt_succ_of_lt hlt
        exact .inr ⟨index, out, world, fault, last, hlt', hpassed, hstops,
          hpassed.on_passesFrom_stops hlt' hstops⟩

end Passed

/-- Passes execute the component's template, up to a pass that leaves another one behind: the
    passes that follow execute that. -/
theorem passes_of_passesFrom {world : World} (h : (world.component i).template = template)
    (index count : Nat) :
    Passes render i template closure index count world
        (on (passesFrom render i closure index count) world).1
        (on (passesFrom render i closure index count) world).2
      ∨ ∃ done out next, 0 < done ∧ done < count
        ∧ Passes render i template closure index done world (.ok out) next
        ∧ (next.component i).template ≠ template
        ∧ on (passesFrom render i closure index count) world
          = on ((out ++ ·) <$> passesFrom render i closure (index + done) (count - done)) next := by
  induction count generalizing index world with
  | zero => exact .inl (.done index world)
  | succ count ih =>
      rw [passesFrom_succ]
      rcases hprepare : on (preparation i closure index) world with ⟨fault | ⟨⟩, prepared⟩
      · rw [on_bind_error hprepare]
        exact .inl (.unprepared hprepare)
      · have htemplate : (prepared.component i).template = template := by
          rw [← h, ← template_preparation closure index world, hprepare]
        have hexecute : on (executeComponent render i) prepared = _ :=
          on_executeComponent_eq prepared
        rw [htemplate] at hexecute
        rw [on_bind_ok hprepare]
        rcases hrun : on (executionOf render i template) prepared with ⟨fault | out, next⟩
        · rw [on_bind_error (hexecute.trans hrun)]
          exact .inl (.failed hprepare hrun)
        · rw [on_bind_ok (hexecute.trans hrun), on_map]
          by_cases hkept : (next.component i).template = template
          · rcases ih hkept (index + 1) with
              hpasses | ⟨done, more, last, hpos, hlt, hpasses, hlast, heq⟩
            · exact .inl (.pass hprepare hrun hpasses)
            · refine .inr ⟨done + 1, out ++ more, last, Nat.succ_pos _, Nat.succ_lt_succ hlt,
                .pass hprepare hrun hpasses, hlast, ?_⟩
              have hindex : index + (done + 1) = index + 1 + done := by omega
              rw [heq, on_map, on_map, hindex, Nat.add_sub_add_right]
              generalize on (passesFrom render i closure (index + 1 + done) (count - done)) last
                = result
              refine Prod.ext ?_ rfl
              cases result.1 <;> simp [Except.map, String.append_assoc]
          · rcases Nat.eq_zero_or_pos count with rfl | hpos
            · exact .inl (.pass hprepare hrun (.done _ _))
            · have hpasses := Passes.pass hprepare hrun (.done (index + 1) next)
              refine .inr ⟨1, out ++ "", next, Nat.one_pos, by omega, hpasses, hkept, ?_⟩
              rw [String.append_empty, Nat.add_sub_cancel, on_map]

/-! ## Renders -/

section Renders

variable {world : World}

theorem on_renderComponent_shut (hgate : (world.component i).gate = some false) :
    on (renderComponent render i) world = (.ok "", world) := by
  rw [renderComponent, on_bind_ok (on_get world)]
  simp only [hgate, beq_self_eq_true, if_true]
  rfl

theorem on_renderComponent_passes (hgate : (world.component i).gate ≠ some false)
    (hcount : 0 < (world.component i).count) :
    on (renderComponent render i) world
      = on (passesFrom render i (world.component i).closure 0 (world.component i).count) world := by
  have hpositive : ((world.component i).count != 0) = true := by simp; omega
  rw [renderComponent, on_bind_ok (on_get world)]
  simp only [beq_eq_false_iff_ne.mpr hgate, hpositive, if_true, Bool.false_eq_true, if_false]

theorem on_renderComponent_fallBack (hgate : (world.component i).gate ≠ some false)
    (hcount : (world.component i).count = 0) {other : String}
    (hother : (world.component i).fallback? = some other) :
    on (renderComponent render i) world = on (executeComponent render i)
      (world.setComponent i { world.component i with template := other }) := by
  have hzero : ((world.component i).count != 0) = false := by simp [hcount]
  rw [renderComponent, on_bind_ok (on_get world)]
  simp only [beq_eq_false_iff_ne.mpr hgate, hzero, hother, Bool.false_eq_true, if_false]
  rw [on_bind_ok (on_changeComponent i _ world)]

theorem on_renderComponent_plain (hgate : (world.component i).gate ≠ some false)
    (hcount : (world.component i).count = 0) (hother : (world.component i).fallback? = none) :
    on (renderComponent render i) world
      = if (world.component i).closure.isSome then (.ok "", world)
        else on (executeComponent render i) world := by
  have hzero : ((world.component i).count != 0) = false := by simp [hcount]
  rw [renderComponent, on_bind_ok (on_get world)]
  simp only [beq_eq_false_iff_ne.mpr hgate, hzero, hother, Bool.false_eq_true, if_false]
  split
  · rfl
  · rfl

theorem on_renderComponent_once (hlength : i < world.components.length)
    (hgate : (world.component i).gate ≠ some false)
    (hcount : (world.component i).count = 0) :
    on (renderComponent render i) world
      = match (world.component i).fallback? with
        | some other => on (executionOf render i other)
            (world.setComponent i { world.component i with template := other })
        | none =>
            if (world.component i).closure.isSome then (.ok "", world)
            else on (executionOf render i (world.component i).template) world := by
  cases hother : (world.component i).fallback? with
  | some other =>
      rw [on_renderComponent_fallBack hgate hcount hother, on_executeComponent_eq,
        World.component_setComponent_self hlength]
  | none => rw [on_renderComponent_plain hgate hcount hother, on_executeComponent_eq]

/-- **What a render executes** is decided by the calls that configured the component: nothing behind
    a shut gate; else its template in as many passes as the last repetition asks for; else, once,
    the other template of the last repetition over items; else nothing if there is a closure; and
    else its own template, once.  Passes stop at the first fault.  A pass that leaves the component
    with another template is followed by passes with that one. -/
theorem render_configured {calls : List Call} {world : World}
    (h : Configured i template calls world) (depth : Nat) :
    (Call.shuts calls → on (renderUpTo (depth + 1) (.component i)) world = (.ok "", world))
    ∧ (¬ Call.shuts calls → 0 < Call.countAfter calls →
      Passes (renderUpTo depth) i template (Call.closureAfter calls) 0 (Call.countAfter calls) world
          (on (renderUpTo (depth + 1) (.component i)) world).1
          (on (renderUpTo (depth + 1) (.component i)) world).2
        ∨ ∃ done out next, 0 < done ∧ done < Call.countAfter calls
          ∧ Passes (renderUpTo depth) i template (Call.closureAfter calls) 0 done world
            (.ok out) next
          ∧ (next.component i).template ≠ template
          ∧ on (renderUpTo (depth + 1) (.component i)) world
            = on ((out ++ ·) <$> passesFrom (renderUpTo depth) i (Call.closureAfter calls) done
              (Call.countAfter calls - done)) next)
    ∧ (¬ Call.shuts calls → Call.countAfter calls = 0 →
      (∀ other, Call.otherAfter calls = some other →
        on (renderUpTo (depth + 1) (.component i)) world
          = on (executionOf (renderUpTo depth) i other)
            (world.setComponent i { world.component i with template := other }))
      ∧ (Call.otherAfter calls = none → (Call.closureAfter calls).isSome = true →
        on (renderUpTo (depth + 1) (.component i)) world = (.ok "", world))
      ∧ (Call.otherAfter calls = none → Call.closureAfter calls = none →
        on (renderUpTo (depth + 1) (.component i)) world
          = on (executionOf (renderUpTo depth) i template) world)) := by
  obtain ⟨hlength, hset⟩ := h.isSet
  have hrender : renderUpTo (depth + 1) (.component i) = renderComponent (renderUpTo depth) i := rfl
  rw [hrender]
  refine ⟨fun hshut => on_renderComponent_shut (hset.gate.trans hshut), ?_, ?_⟩
  · intro hopen hcount
    rw [on_renderComponent_passes (hset.gate ▸ hopen) (hset.count ▸ hcount), hset.closure,
      hset.count]
    simpa using passes_of_passesFrom hset.template 0 (Call.countAfter calls)
  · intro hopen hcount
    rw [on_renderComponent_once hlength (hset.gate ▸ hopen) (hset.count.trans hcount), hset.closure,
      hset.fallback, hset.template]
    refine ⟨?_, ?_, ?_⟩
    · intro other hother
      rw [hother]
    · intro hother hclosure
      rw [hother, hclosure, if_pos rfl]
    · intro hother hclosure
      rw [hother, hclosure]
      rfl

end Renders

end Passes

section Witness

attribute [local instance] Native.usual FileSystem.plain

/-- A component that is to be rendered twice, and then over no items or from another template, is
    rendered once from the other template. -/
theorem render_configured_empty : ∃ world,
    Configured 0 "c" [.gate (.bool true), .repeated (.int 2) none, .each [] none (some "o")] world
      ∧ on (renderUpTo 1 (.component 0)) world
        = on (executionOf (renderUpTo 0) 0 "o")
          (world.setComponent 0 { world.component 0 with template := "o" }) := by
  have hconfigured := (((Configured.create
    (rfl : on (newComponent 0 "c") ⟨⟨.empty, .zero false, 0, 0⟩, none, [], [], [], []⟩ = _)).gate
      (.bool true) rfl).repeated (.int 2) none rfl).each (.list []) none (some "o") rfl
  refine ⟨_, hconfigured, ?_⟩
  exact ((render_configured hconfigured 0).2.2 (by rintro ⟨⟩) rfl).1 "o" (by decide)

end Witness

end Engine

end Stencil
