import Stencil.Proofs.Engine.Repetition

/-! # Refusals — what a call leaves that is refused

    A call that configures a component checks what it is given and is refused if
    that does not fit.  Where the check comes first nothing has changed by then.
    It does not in two calls.  A repetition over items sets its data and the other
    template before it asks the data how many they are, and the count before it
    looks at what to bind; of a map that is bound the entries before the faulty
    one are bound.  What these two have set stays.

    Headline: `perform_refused`. -/

namespace Stencil

open Engine

/-- Whether a value can be the name of another one. -/
def Value.canName : Value → Bool
  | .absent absence => !absence.strict
  | v => v.isKey

/-- Whether a value has items to repeat over. -/
def Value.isIterable : Value → Bool
  | .set _ => true
  | .stream _ => true
  | .absent absence => !absence.strict
  | v => v.items?.isSome

namespace World

/-- A component that is changed once more. -/
theorem setComponent_change (world : World) (i : Nat) (component : Component)
    (change : Component → Component) :
    (world.setComponent i component).setComponent i
      (change ((world.setComponent i component).component i))
      = world.setComponent i (change component) := by
  rcases Nat.lt_or_ge i world.components.length with hthere | hbeyond
  · rw [component_setComponent_self hthere, setComponent_setComponent]
  · have hnone (c : Component) : world.setComponent i c = world := by
      rw [setComponent, List.set_eq_of_length_le hbeyond]
    rw [hnone, hnone, hnone]

/-- One change of a scope after another. -/
theorem rescope_comp (world : World) (i : Nat) (change more : Scope → Scope) :
    (world.rescope (.component i) change).rescope (.component i) more
      = world.rescope (.component i) (more ∘ change) :=
  world.setComponent_change i _ fun c => { c with vars := more c.vars }

/-- Nothing that is bound changes nothing. -/
theorem rescope_id (world : World) (i : Nat) : world.rescope (.component i) id = world :=
  world.setComponent_component i

end World

namespace Engine

variable {i : Nat} {world next : World} {fault : Fault}

/-! ## Calls -/

/-- A call that configures a component, with what it is given. -/
inductive Setting where
  | bind (name value : Value)
  | bindAll (scope : Value)
  | gate (condition : Value)
  | repeatBy (count : Value) (closure : Option Closure)
  | each (data : Value) (closure : Except Trouble (Option Closure)) (other : Option String)

/-- A call made on a component. -/
def Setting.perform (i : Nat) : Setting → Engine Unit
  | .bind name value => Engine.bind (.component i) name value
  | .bindAll scope => Engine.bindAll (.component i) scope
  | .gate condition => Engine.gate i condition
  | .repeatBy count closure => Engine.repeatBy i count closure
  | .each data closure other => Engine.each i data closure other

/-- What calls leave of which a part was made before they are refused. -/
inductive HalfMade (i : Nat) (world : World) : Setting → World → Prop
  | uncounted {data found : Value} {cause : Trouble} {drained : World}
      (closure : Except Trouble (Option Closure)) (other : Option String)
      (hitems : on (itemsOf data) world = (.ok found, drained))
      (hcount : found.count = .error cause) :
      HalfMade i world (.each data closure other)
        (drained.setComponent i { world.component i with other, data := found })
  | unbound {data found : Value} {count : Nat} {cause : Trouble} {drained : World}
      (other : Option String) (hitems : on (itemsOf data) world = (.ok found, drained))
      (hcount : found.count = .ok count) :
      HalfMade i world (.each data (.error cause) other)
        (drained.setComponent i { world.component i with other, data := found, count })
  | bindAll {before : List (Value × Value)} {name : Value} (value : Value)
      (after : List (Value × Value)) (hbefore : ∀ entry ∈ before, entry.1.canName = true)
      (hname : name.canName = false) :
      HalfMade i world (.bindAll (.map (before ++ (name, value) :: after)))
        (world.rescope (.component i) (Bindings.onto before))

/-! ## Bindings -/

/-- A step that is taken under a condition and fails otherwise changes nothing. -/
theorem on_ite_cases {α : Type} (b : Bool) (a : α) (failure : Failure) (world : World) :
    (b = true ∧ on (if b then pure a else fail failure) world = (.ok a, world))
      ∨ b = false ∧ ∃ fault, on (if b then pure a else fail failure : Engine α) world
        = (.error fault, world) := by
  cases b
  · exact .inr ⟨rfl, _, rfl⟩
  · exact .inl ⟨rfl, rfl⟩

theorem on_checkKey (name : Value) (world : World) :
    (name.canName = true ∧ on (checkKey name) world = (.ok (), world))
      ∨ name.canName = false ∧ ∃ fault, on (checkKey name) world = (.error fault, world) := by
  cases name with
  | absent absence =>
      obtain ⟨message, strict⟩ := absence
      cases strict
      · exact .inl ⟨rfl, rfl⟩
      · exact .inr ⟨rfl, _, rfl⟩
  | _ => exact on_ite_cases (Value.isKey _) () .badType world

theorem on_bind_of_canName {name : Value} (h : name.canName = true) (value : Value)
    (world : World) : on (Engine.bind (.component i) name value) world
      = (.ok (), world.rescope (.component i) (Value.setEntry name value.bound)) := by
  rcases on_checkKey name world with ⟨_, hok⟩ | ⟨hnot, _⟩
  · rw [Engine.bind, on_bind_ok hok]
    rfl
  · cases h.symm.trans hnot

/-- Entries are bound one after the other, up to one whose key can be no name. -/
theorem on_bindEntries_append {before : List (Value × Value)}
    (h : ∀ entry ∈ before, entry.1.canName = true) (entries : List (Value × Value))
    (world : World) : on (bindEntries (.component i) (before ++ entries)) world
      = on (bindEntries (.component i) entries)
        (world.rescope (.component i) (Bindings.onto before)) := by
  induction before generalizing world with
  | nil => exact congrArg _ (world.rescope_id i).symm
  | cons entry before ih =>
      obtain ⟨hentry, hbefore⟩ := List.forall_mem_cons.mp h
      rw [List.cons_append, bindEntries, on_bind_ok (on_bind_of_canName hentry _ world),
        ih hbefore, World.rescope_comp]
      rfl

/-- Entries whose keys can all be names, or the first one whose key cannot. -/
theorem canName_or_exists (entries : List (Value × Value)) :
    (∀ entry ∈ entries, entry.1.canName = true)
      ∨ ∃ before name value after, entries = before ++ (name, value) :: after
        ∧ (∀ entry ∈ before, entry.1.canName = true) ∧ name.canName = false := by
  induction entries with
  | nil => exact .inl nofun
  | cons entry entries ih =>
      obtain ⟨name, value⟩ := entry
      cases hname : name.canName with
      | false => exact .inr ⟨[], name, value, entries, rfl, nofun, hname⟩
      | true =>
          rcases ih with hall | ⟨before, other, old, after, rfl, hbefore, hother⟩
          · exact .inl (List.forall_mem_cons.mpr ⟨hname, hall⟩)
          · exact .inr ⟨(name, value) :: before, other, old, after, rfl,
              List.forall_mem_cons.mpr ⟨hname, hbefore⟩, hother⟩

/-- A map whose keys can all be names is bound. -/
theorem on_bindAll_of_canName {entries : List (Value × Value)}
    (h : ∀ entry ∈ entries, entry.1.canName = true) (world : World) :
    on (bindAll (.component i) (.map entries)) world
      = (.ok (), world.rescope (.component i) (Bindings.onto entries)) := by
  have hall := on_bindEntries_append h [] world (i := i)
  rw [List.append_nil] at hall
  exact hall

/-! ## Refused calls -/

/-- Data with items are taken, and other data are refused without a change. -/
theorem on_itemsOf_cases (data : Value) (world : World) :
    (data.isIterable = true ∧ ∃ found drained, on (itemsOf data) world = (.ok found, drained))
      ∨ data.isIterable = false ∧ ∃ fault, on (itemsOf data) world = (.error fault, world) := by
  have hguard := on_ite_cases data.items?.isSome data .badType world
  cases data with
  | set items => exact .inl ⟨rfl, _, _, rfl⟩
  | stream id => exact .inl ⟨rfl, _, _, rfl⟩
  | absent absence =>
      obtain ⟨message, strict⟩ := absence
      cases strict
      · exact .inl ⟨rfl, _, _, rfl⟩
      · exact .inr ⟨rfl, _, rfl⟩
  | _ => exact hguard.imp_left fun h => ⟨h.1, _, _, h.2⟩

/-- Data are taken without a change of a component. -/
theorem component_of_itemsOf {data found : Value} {drained : World}
    (hitems : on (itemsOf data) world = (.ok found, drained)) (i : Nat) :
    drained.component i = world.component i := by
  rw [World.component, (on_itemsOf_ok hitems).2]
  rfl

/-- A repetition over items whose data do not say how many they are keeps the data and the other
    template. -/
theorem on_each_uncounted {data found : Value} {cause : Trouble} {drained : World}
    (hitems : on (itemsOf data) world = (.ok found, drained)) (hcount : found.count = .error cause)
    (closure : Except Trouble (Option Closure)) (other : Option String) :
    on (each i data closure other) world = (.error (.trouble cause),
      drained.setComponent i { world.component i with other, data := found }) := by
  rw [each, on_bind_ok hitems, on_bind_ok (on_changeComponent i _ drained), hcount,
    component_of_itemsOf hitems]
  rfl

/-- A repetition over items that says how many they are is set up to its closure. -/
theorem on_each_counted {data found : Value} {count : Nat} {drained : World}
    (hitems : on (itemsOf data) world = (.ok found, drained)) (hcount : found.count = .ok count)
    (closure : Except Trouble (Option Closure)) (other : Option String) :
    on (each i data closure other) world
      = on (ofTrouble closure >>= fun closure => changeComponent i fun c => { c with closure })
        (drained.setComponent i { world.component i with other, data := found, count }) := by
  have hcounted (world : World) : on (ofTrouble found.count) world = (.ok count, world) := by
    rw [hcount]
    rfl
  rw [each, on_bind_ok hitems, on_bind_ok (on_changeComponent i _ drained),
    component_of_itemsOf hitems, on_bind_ok (hcounted _), on_bind_ok (on_changeComponent i _ _),
    World.setComponent_change drained i _ fun c => { c with count }]

/-- A call of which a part was made first is refused, and the part stays. -/
theorem HalfMade.on_perform {setting : Setting} {left : World} (h : HalfMade i world setting left) :
    ∃ fault, on (setting.perform i) world = (.error fault, left) := by
  cases h with
  | @uncounted data found cause drained closure other hitems hcount =>
      exact ⟨_, on_each_uncounted hitems hcount closure other⟩
  | @unbound data found count cause drained other hitems hcount =>
      exact ⟨.trouble cause, on_each_counted hitems hcount (.error cause) other⟩
  | @bindAll before name value after hbefore hname =>
      rcases on_checkKey name (world.rescope (.component i) (Bindings.onto before)) with
        ⟨hcan, _⟩ | ⟨_, fault, hkey⟩
      · cases hcan.symm.trans hname
      · refine ⟨fault, ?_⟩
        show on (bindEntries _ (before ++ _)) world = _
        have hbind : on (Engine.bind (.component i) name value) _ = (.error fault, _) :=
          on_bind_error hkey
        rw [on_bindEntries_append hbefore, bindEntries, on_bind_error hbind]

/-- A computation whose first step fails without changing anything leaves everything as it was, if
    what follows does not fail. -/
theorem eq_of_ofTrouble_error {α : Type} {result : Except Trouble α} {f : α → Engine Unit}
    (hf : ∀ a fault, on (f a) world ≠ (.error fault, next))
    (hrun : on (ofTrouble result >>= f) world = (.error fault, next)) : next = world := by
  cases result with
  | ok a => exact absurd hrun (hf a fault)
  | error cause =>
      cases hrun
      rfl

/-- A refused call leaves everything as it was, or the part of it that was made. -/
theorem eq_or_halfMade {setting : Setting}
    (hrun : on (setting.perform i) world = (.error fault, next)) :
    next = world ∨ HalfMade i world setting next := by
  cases setting with
  | bind name value =>
      rcases on_bind_cases (.component i) name value world with ⟨_, herror⟩ | hok
      · cases herror.symm.trans hrun
        exact .inl rfl
      · cases hok.symm.trans hrun
  | bindAll scope =>
      cases scope with
      | map entries =>
          -- the first key that can be no name ends the call
          rcases canName_or_exists entries with hall | ⟨_, _, value, after, rfl, hbefore, hname⟩
          · cases (on_bindAll_of_canName hall world).symm.trans hrun
          · have hhalf : HalfMade i world _ _ := .bindAll value after hbefore hname
            obtain ⟨_, hleft⟩ := hhalf.on_perform
            cases hleft.symm.trans hrun
            exact .inr hhalf
      | _ =>
          cases hrun
          exact .inl rfl
  | gate condition =>
      refine .inl (eq_of_ofTrouble_error (fun isOpen fault => ?_) hrun)
      rw [on_changeComponent]
      nofun
  | repeatBy count closure =>
      refine .inl (eq_of_ofTrouble_error (fun n fault => ?_) hrun)
      rw [on_changeComponent]
      nofun
  | each data closure other =>
      rcases on_itemsOf_cases data world with ⟨_, found, drained, hitems⟩ | ⟨_, _, hitems⟩
      · cases hcount : found.count with
        | error cause =>
            cases (on_each_uncounted hitems hcount closure other).symm.trans hrun
            exact .inr (.uncounted closure other hitems hcount)
        | ok count =>
            cases closure with
            | ok closure =>
              cases (on_each_counted hitems hcount (.ok closure) other).symm.trans hrun
            | error cause =>
                have hhalf : HalfMade i world (.each data (.error cause) other) _ :=
                  .unbound other hitems hcount
                obtain ⟨_, hleft⟩ := hhalf.on_perform
                cases hleft.symm.trans hrun
                exact .inr hhalf
      · have heach : on (each i data closure other) world = (.error _, world) :=
          on_bind_error hitems
        cases heach.symm.trans hrun
        exact .inl rfl

/-- The part of a call that was made changes neither the template nor the gate nor the closure. -/
theorem HalfMade.component {setting : Setting} {left : World} (h : HalfMade i world setting left) :
    ∃ vars data count other,
      left.component i = { world.component i with vars, data, count, other } := by
  have hset {data found : Value} {drained : World}
      (hitems : on (itemsOf data) world = (.ok found, drained)) (c : Component)
      (hc : c = { world.component i with
        vars := c.vars, data := c.data, count := c.count, other := c.other }) :
      ∃ vars data count other, (drained.setComponent i c).component i
        = { world.component i with vars, data, count, other } := by
    rcases drained.component_setComponent_cases i c with hset | ⟨_, hset⟩
    · exact ⟨_, _, _, _, hset.trans hc⟩
    · rw [hset]
      exact ⟨_, _, _, _, component_of_itemsOf hitems i⟩
  cases h with
  | uncounted _ _ hitems _ => exact hset hitems _ rfl
  | unbound _ hitems _ => exact hset hitems _ rfl
  | bindAll =>
      rcases world.component_setComponent_cases i _ with hset | ⟨_, hset⟩
      · exact ⟨_, _, _, _, hset⟩
      · exact ⟨_, _, _, _, congrArg (World.component · i) hset⟩

/-- **What a refused call leaves**: everything as it was, so that every later render gives what it
    would have given, unless a part of the call was made first.  That is so in a repetition over
    items that was given something to bind that it does not take: the data, the count and the other
    template are set.  It is so where the data fail to say how many they are: they and the other
    template are set.  It is so where a map is bound that has a key that can be no name: what stands
    before it is bound.  In no case does the template, the gate or the closure change, and a map of
    names is never refused. -/
theorem perform_refused {setting : Setting}
    (hrun : on (setting.perform i) world = (.error fault, next)) :
    ((∀ left, ¬ HalfMade i world setting left) → next = world)
    ∧ (∀ left, HalfMade i world setting left → next = left)
    ∧ (∃ vars data count other,
      next.component i = { world.component i with vars, data, count, other })
    ∧ ∀ entries, setting = .bindAll (.map entries) →
      ∃ entry ∈ entries, entry.1.canName = false := by
  have hleft := eq_or_halfMade hrun
  refine ⟨fun hnone => hleft.resolve_right (hnone next), ?_, ?_, ?_⟩
  · intro left hhalf
    obtain ⟨_, hperform⟩ := hhalf.on_perform
    exact congrArg Prod.snd (hrun.symm.trans hperform)
  · rcases hleft with rfl | hhalf
    · exact ⟨_, _, _, _, rfl⟩
    · exact hhalf.component
  · rintro entries rfl
    rcases canName_or_exists entries with hall | ⟨_, _, _, _, rfl, _, hname⟩
    · cases (on_bindAll_of_canName hall world).symm.trans hrun
    · exact ⟨_, List.mem_append_right _ List.mem_cons_self, hname⟩

section Witness

attribute [local instance] Native.usual FileSystem.plain

/-- A repetition over two items that is given a number to bind is refused, and a later render makes
    two passes. -/
theorem perform_refused_number : ∃ next,
    on (Setting.perform 0 (.each (.list [.int 1, .int 2]) (closureOf (.int 42)) (some "")))
        (sourceOf "x" []) = (.error (.trouble (.badBinds "int")), next)
      ∧ (next.component 0).count = 2
      ∧ (on (render (.component 0)) (sourceOf "x" [])).1 = .ok "x"
      ∧ (on (render (.component 0)) next).1 = .ok "xx" := by
  refine ⟨_, rfl, ?_, by decide +kernel, by decide +kernel⟩
  have hhalf : HalfMade 0 (sourceOf "x" [])
      (.each (.list [.int 1, .int 2]) (closureOf (.int 42)) (some "")) _ :=
    .unbound (some "") (rfl : on (itemsOf (.list [.int 1, .int 2])) _ = _) rfl
  rw [(perform_refused (rfl : on (Setting.perform 0 (.each (.list [.int 1, .int 2])
    (closureOf (.int 42)) (some ""))) (sourceOf "x" []) = _)).2.1 _ hhalf]
  rfl

end Witness

end Engine

end Stencil
