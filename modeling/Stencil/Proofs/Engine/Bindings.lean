import Stencil.Native.Usual
import Stencil.Proofs.Engine.Passes
import Stencil.Proofs.Engine.Restraint
import Stencil.Proofs.Text.Entity

/-! # Bindings — what the scope of a fragment holds

    A scope is written where a value is bound under a name: by a caller, by a
    template, or before a pass, where a closure binds an item of the data or what
    a path leads to in it.  Every such place escapes a text and leaves any other
    value as it is, and nothing else writes to a scope unless a function that the
    caller gave prepares the passes.  So under each name a scope holds what was
    last bound there, escaped once.

    Headline: `scope_bound`. -/

namespace Stencil

open Text Engine

/-! ## Maps -/

namespace Value

/-- A number with a rank is not equal to a value without one. -/
theorem same_real_of_rank? {x : Binary64} {v : Value} (h : v.rank? = none) :
    same (.real x) v = false := by
  rw [same, h]
  cases (Value.real x).rank? <;> rfl

/-- Equal values are one text, or none of them is a text. -/
theorem text?_eq_of_same {a b : Value} (h : same a b = true) : a.text? = b.text? := by
  cases a with
  | text s =>
      rw [same] at h
      exact (eq_of_beq h).symm
  | safe s =>
      rw [same] at h
      exact (eq_of_beq h).symm
  | real x =>
      cases b with
      | text s => cases (same_real_of_rank? rfl).symm.trans h
      | safe s => cases (same_real_of_rank? rfl).symm.trans h
      | _ => rfl
  | _ =>
      cases b with
      | text s => simp [same, rank?, int?] at h
      | safe s => simp [same, rank?, int?] at h
      | _ => rfl

theorem same_text (name : String) (v : Value) : same (.text name) v = (v.text? == some name) := by
  cases v <;> simp [same]

theorem same_of_text? {key other : Value} {name : String} (hkey : key.text? = some name)
    (hother : other.text? = some name) : same key other = true := by
  cases key <;> simp_all [same, text?]

/-- After a value is set, its name gives it, and every other name what it gave before. -/
theorem entry?_setEntry (key v : Value) (entries : List (Value × Value)) (name : String) :
    entry? (setEntry key v entries) (.text name)
      = if key.text? = some name then some v else entry? entries (.text name) := by
  induction entries with
  | nil =>
      rw [setEntry, entry?, List.find?_singleton, same_text]
      by_cases h : key.text? = some name <;> simp [h, entry?]
  | cons entry entries ih =>
      obtain ⟨k, old⟩ := entry
      rw [setEntry]
      split
      case isTrue hsame =>
        have htext := text?_eq_of_same hsame
        simp only [ entry?, List.find?_cons, same_text, ← htext]
        by_cases h : key.text? = some name
        · simp [h]
        · simp [beq_eq_false_iff_ne.mpr h, h]
      case isFalse hsame =>
        simp only [ entry?, List.find?_cons, same_text] at ih ⊢
        by_cases hk : k.text? = some name
        · have hne : key.text? ≠ some name := fun hkey => hsame (same_of_text? hkey hk)
          simp [hk, hne]
        · simpa [beq_eq_false_iff_ne.mpr hk] using ih

theorem mem_setEntry {key v : Value} {entries : List (Value × Value)} {entry : Value × Value}
    (h : entry ∈ setEntry key v entries) : entry.2 = v ∨ entry ∈ entries := by
  induction entries with
  | nil => exact .inl (by rw [List.mem_singleton.mp h])
  | cons first entries ih =>
      obtain ⟨k, old⟩ := first
      rw [setEntry] at h
      split at h
      · rcases List.mem_cons.mp h with rfl | h
        · exact .inl rfl
        · exact .inr (List.mem_cons_of_mem _ h)
      · rcases List.mem_cons.mp h with rfl | h
        · exact .inr List.mem_cons_self
        · exact (ih h).imp_right (List.mem_cons_of_mem _)

/-- Whether a value is what another one is bound as: a text without delimiters, in which every
    ampersand starts an entity and which reads as the text that was bound; or any other value
    itself. -/
def IsEscape (raw stored : Value) : Prop :=
  match raw with
  | .text s => ∃ written : String, stored = .text written ∧ (∀ c ∈ delimiters, c ∉ written.toList)
      ∧ (∀ before after, written.toList = before ++ '&' :: after →
        ∃ e ∈ entities, e <+: '&' :: after)
      ∧ decode written.toList = s.toList
  | raw => stored = raw

theorem isEscape_bound (raw : Value) : IsEscape raw raw.bound := by
  cases raw with
  | text s =>
      refine ⟨escaped s, rfl, ?_⟩
      rw [escaped, String.toList_ofList]
      exact ⟨fun c hc => notMem_escape hc _, fun before after h => entity_of_escape h,
        decode_escape _⟩
  | _ => rfl

end Value

/-! ## Bindings -/

/-- Names and values in the order in which they were bound. -/
abbrev Bindings := List (Value × Value)

namespace Bindings

/-- The scope after values were bound. -/
def onto (bindings : Bindings) (scope : Scope) : Scope :=
  bindings.foldl (fun scope entry => Value.setEntry entry.1 entry.2.bound scope) scope

/-- The value that was last bound under a name. -/
def last? (bindings : Bindings) (name : String) : Option Value :=
  ((bindings.filter fun entry => entry.1.text? == some name).getLast?).map Prod.snd

theorem onto_append (bindings more : Bindings) (scope : Scope) :
    (bindings ++ more).onto scope = more.onto (bindings.onto scope) :=
  List.foldl_append

theorem onto_concat (bindings : Bindings) (entry : Value × Value) (scope : Scope) :
    (bindings ++ [entry]).onto scope
      = Value.setEntry entry.1 entry.2.bound (bindings.onto scope) :=
  onto_append bindings [entry] scope

/-- A name has the value that was last bound under it, escaped, or else what it had before. -/
theorem entry?_onto_scope (bindings : Bindings) (scope : Scope) (name : String) :
    Value.entry? (bindings.onto scope) (.text name)
      = ((bindings.last? name).map Value.bound).or (Value.entry? scope (.text name)) := by
  induction bindings using List.reverseRecOn with
  | nil => rfl
  | append_singleton bindings entry ih =>
      rw [onto_concat, Value.entry?_setEntry, ih, last?, last?, List.filter_append]
      by_cases h : entry.1.text? = some name
      · simp [h]
      · simp [beq_eq_false_iff_ne.mpr h, h]

/-- A name has the value that was last bound under it, escaped. -/
theorem entry?_onto (bindings : Bindings) (name : String) :
    Value.entry? (bindings.onto []) (.text name) = (bindings.last? name).map Value.bound := by
  rw [entry?_onto_scope]
  exact Option.or_none

/-- Every value in a scope was bound, and was escaped on the way. -/
theorem exists_of_mem_onto {bindings : Bindings} {entry : Value × Value}
    (h : entry ∈ bindings.onto []) : ∃ raw ∈ bindings, entry.2 = raw.2.bound := by
  induction bindings using List.reverseRecOn with
  | nil => cases h
  | append_singleton bindings last ih =>
      rw [onto_concat] at h
      rcases Value.mem_setEntry h with heq | h
      · exact ⟨last, List.mem_append_right _ List.mem_cons_self, heq⟩
      · obtain ⟨raw, hraw, heq⟩ := ih h
        exact ⟨raw, List.mem_append_left _ hraw, heq⟩

end Bindings

/-! ## Scopes of fragments -/

/-- Whether no function that a caller gave prepares the passes. -/
def Closure.isPlain : Closure → Bool
  | .counted _ => false
  | .itemwise _ => false
  | _ => true

namespace World

/-- The scope of a fragment. -/
def scopeOf (world : World) : Handle → Scope
  | .component i => (world.component i).vars
  | .view i => (world.view i).vars

/-- A fragment is there, and no function that a caller gave prepares its passes. -/
def Holds (world : World) : Handle → Prop
  | .component i => i < world.components.length
      ∧ ∀ closure, (world.component i).closure = some closure → closure.isPlain = true
  | .view i => i < world.views.length

/-- A fragment keeps its scope, and is as plain as it was. -/
structure Keeps (handle : Handle) (world next : World) : Prop where
  scope : next.scopeOf handle = world.scopeOf handle
  holds : world.Holds handle → next.Holds handle

variable {world : World}

theorem component_setComponent_of_ne {i j : Nat} (h : i ≠ j) (component : Component) :
    (world.setComponent j component).component i = world.component i := by
  rw [World.component, setComponent, List.getElem?_set_ne h.symm]
  rfl

theorem view_setView_of_ne {i j : Nat} (h : i ≠ j) (view : View) :
    (world.setView j view).view i = world.view i := by
  rw [World.view, setView, List.getElem?_set_ne h.symm]
  rfl

theorem view_setView_self {i : Nat} (h : i < world.views.length) (view : View) :
    (world.setView i view).view i = view := by
  rw [World.view, setView, List.getElem?_set_self h]
  rfl

theorem length_setComponent (i : Nat) (component : Component) :
    (world.setComponent i component).components.length = world.components.length :=
  List.length_set

theorem length_setView (i : Nat) (view : View) :
    (world.setView i view).views.length = world.views.length :=
  List.length_set

theorem keeps_setComponent_of_ne {handle : Handle} {i : Nat} (h : handle ≠ .component i)
    (c : Component) : Keeps handle world (world.setComponent i c) := by
  cases handle with
  | view j => exact ⟨rfl, id⟩
  | component j =>
      have hij : j ≠ i := fun heq => h (congrArg Handle.component heq)
      have hsame : (world.setComponent i c).component j = world.component j :=
        component_setComponent_of_ne hij c
      refine ⟨congrArg Component.vars hsame, fun hholds => ?_⟩
      rw [Holds, length_setComponent, hsame]
      exact hholds

theorem keeps_setView_of_ne {handle : Handle} {i : Nat} (h : handle ≠ .view i) (v : View) :
    Keeps handle world (world.setView i v) := by
  cases handle with
  | component j => exact ⟨rfl, id⟩
  | view j =>
      have hij : j ≠ i := fun heq => h (congrArg Handle.view heq)
      refine ⟨congrArg View.vars (view_setView_of_ne hij v), fun hholds => ?_⟩
      rw [Holds, length_setView]
      exact hholds

/-- A component keeps its scope when its other settings change, and stays plain if its closure
    does. -/
theorem keeps_setComponent (handle : Handle) {i : Nat} {c : Component}
    (hvars : c.vars = (world.component i).vars)
    (hplain : (∀ closure, (world.component i).closure = some closure → closure.isPlain = true) →
      ∀ closure, c.closure = some closure → closure.isPlain = true) :
    Keeps handle world (world.setComponent i c) := by
  by_cases hne : handle ≠ .component i
  · exact keeps_setComponent_of_ne hne c
  · rw [not_not.mp hne]
    rcases world.component_setComponent_cases i c with hset | ⟨_, hset⟩
    · refine ⟨?_, fun hholds => ?_⟩
      · rw [scopeOf, hset]
        exact hvars
      · rw [Holds, length_setComponent, hset]
        exact ⟨hholds.1, hplain hholds.2⟩
    · rw [hset]
      exact ⟨rfl, id⟩

/-- A view keeps its scope when its layout changes. -/
theorem keeps_setView (handle : Handle) {i : Nat} {v : View}
    (hvars : v.vars = (world.view i).vars) : Keeps handle world (world.setView i v) := by
  by_cases hne : handle ≠ .view i
  · exact keeps_setView_of_ne hne v
  · rw [not_not.mp hne]
    rcases Nat.lt_or_ge i world.views.length with hinside | hbeyond
    · refine ⟨?_, fun hholds => ?_⟩
      · rw [scopeOf, view_setView_self hinside]
        exact hvars
      · rw [Holds, length_setView]
        exact hholds
    · rw [setView, List.set_eq_of_length_le hbeyond]
      exact ⟨rfl, id⟩

/-- The world with a fragment's scope changed. -/
def rescope (world : World) (handle : Handle) (change : Scope → Scope) : World :=
  (on (changeVars handle change) world).2

theorem scopeOf_rescope {handle : Handle} (h : world.Holds handle) (change : Scope → Scope) :
    (world.rescope handle change).Holds handle
      ∧ (world.rescope handle change).scopeOf handle = change (world.scopeOf handle) := by
  cases handle with
  | component i =>
      have hset := component_setComponent_self h.1
        { world.component i with vars := change (world.component i).vars }
      refine ⟨⟨?_, ?_⟩, congrArg Component.vars hset⟩
      · exact Nat.lt_of_lt_of_eq h.1 (length_setComponent i _).symm
      · intro closure hclosure
        exact h.2 closure ((congrArg Component.closure hset).symm.trans hclosure)
  | view i =>
      have hset := view_setView_self h { world.view i with vars := change (world.view i).vars }
      exact ⟨Nat.lt_of_lt_of_eq h (length_setView i _).symm, congrArg View.vars hset⟩

theorem data_rescope (world : World) (i : Nat) (change : Scope → Scope) :
    ((world.rescope (.component i) change).component i).data = (world.component i).data := by
  show ((world.setComponent i { world.component i with vars := _ }).component i).data = _
  rcases world.component_setComponent_cases i
    { world.component i with vars := change (world.component i).vars } with hset | ⟨_, hset⟩
  · rw [hset]
  · rw [hset]

/-- A fragment keeps its scope where other parts of the world change than fragments. -/
theorem keeps_of_fragments {next : World} (hcomponents : next.components = world.components)
    (hviews : next.views = world.views) (handle : Handle) : Keeps handle world next := by
  refine ⟨?_, ?_⟩
  · cases handle with
    | component i => simp only [scopeOf, component, hcomponents]
    | view i => simp only [scopeOf, view, hviews]
  · cases handle with
    | component i => simp only [Holds, component, hcomponents, imp_self]
    | view i => simp only [Holds, hviews, imp_self]

theorem keeps_newComponent (site : Nat) (template : String) (handle : Handle) :
    Keeps handle world (on (newComponent site template) world).2 := by
  cases handle with
  | view j => exact ⟨rfl, id⟩
  | component j =>
      rcases Nat.lt_or_ge j world.components.length with hinside | hbeyond
      · have hsame : (on (newComponent site template) world).2.component j
            = world.component j := by
          show (world.components ++ [Component.new site template])[j]?.getD default = _
          rw [List.getElem?_append_left hinside]
          rfl
        refine ⟨congrArg Component.vars hsame, fun hholds => ⟨?_, hsame ▸ hholds.2⟩⟩
        show j < (world.components ++ [Component.new site template]).length
        rw [List.length_append]
        exact Nat.lt_add_right _ hinside
      · -- no component was there, and a new one has nothing in its scope
        refine ⟨?_, fun hholds => absurd hholds.1 (Nat.not_lt.mpr hbeyond)⟩
        show ((world.components ++ [Component.new site template])[j]?.getD default).vars
          = (world.components[j]?.getD default).vars
        rw [List.getElem?_append_right hbeyond, List.getElem?_eq_none hbeyond]
        cases j - world.components.length <;> rfl

theorem keeps_rescope {handle other : Handle} (h : handle ≠ other) (change : Scope → Scope) :
    Keeps handle world (world.rescope other change) := by
  cases other with
  | component i => exact keeps_setComponent_of_ne h _
  | view i => exact keeps_setView_of_ne h _

end World

namespace Engine

/-! ## Steps that keep a scope -/

/-- A fragment keeps its scope. -/
def Keeping (handle : Handle) : Passage := fun start _ last => start.Keeps handle last

instance (handle : Handle) : Walk (Keeping handle) where
  refl _ := ⟨rfl, id⟩
  trans h h' := ⟨h'.scope.trans h.scope, h'.holds ∘ h.holds⟩
  trouble _ _ := ⟨rfl, id⟩
  noVariable _ _ _ _ := ⟨rfl, id⟩

/-- A closure that is given as a value for a count is plain. -/
theorem isPlain_of_countedClosure? {callee : Option Value} {closure : Closure}
    (h : callee.bind countedClosure? = some closure) : closure.isPlain = true := by
  obtain ⟨v, _, hv⟩ := Option.bind_eq_some_iff.mp h
  unfold countedClosure? at hv
  split at hv
  · cases hv
  · cases hv
    rfl

/-- A closure that is given as a value for binds is plain. -/
theorem isPlain_of_closureOf {binds : Value} {closure : Closure}
    (h : closureOf binds = .ok (some closure)) : closure.isPlain = true := by
  unfold closureOf at h
  split at h
  · cases h
  · cases h
    rfl
  · cases h
    rfl
  · cases h
    rfl
  · cases h
    rfl
  · split at h
    · cases h
      rfl
    · cases h

instance (handle : Handle) : (Law.along (Keeping handle)).Settling where
  drain _ _ := World.keeps_of_fragments (by rfl) (by rfl) handle
  next id world := by
    show (World.Keeps handle) world (on (Engine.next id) world).2
    rw [Engine.next, on_bind_ok (on_get world)]
    split <;> exact World.keeps_of_fragments (by rfl) (by rfl) handle
  newComponent site template _ := World.keeps_newComponent site template handle
  setGate _ _ _ := World.keeps_setComponent handle rfl id
  setCount _ _ _ _ := World.keeps_setComponent handle rfl fun _ _ hclosure =>
    isPlain_of_countedClosure? hclosure
  setItems _ _ _ _ := World.keeps_setComponent handle rfl id
  setLength _ _ _ := World.keeps_setComponent handle rfl id
  setBinds _ {_ _} hbinds _ := World.keeps_setComponent handle rfl fun _ _ hclosure =>
    isPlain_of_closureOf (hbinds.trans (congrArg Except.ok hclosure))
  alterData _ _ _ := World.keeps_setComponent handle rfl id
  redirect _ _ _ _ := World.keeps_setComponent handle rfl id
  setLayout _ _ _ := World.keeps_setView handle rfl

/-! ## What renders bind -/

/-- Binding a value writes it, escaped, to the scope, or is refused and changes nothing. -/
theorem on_bind_cases (handle : Handle) (name value : Value) (world : World) :
    (∃ fault, on (bind handle name value) world = (.error fault, world))
      ∨ on (bind handle name value) world
        = (.ok (), world.rescope handle (Value.setEntry name value.bound)) := by
  have hstill : on (checkKey name) world = ((on (checkKey name) world).1, world) :=
    Prod.ext rfl (Respects.checkKey (R := Still) name world)
  rw [bind]
  rcases hkey : (on (checkKey name) world).1 with fault | ⟨⟩
  · rw [hkey] at hstill
    exact .inl ⟨fault, on_bind_error hstill⟩
  · rw [hkey] at hstill
    rw [on_bind_ok hstill]
    refine .inr (Prod.ext ?_ rfl)
    cases handle <;> rfl

theorem eq_rescope_of_bind {handle : Handle} {name value : Value} {world next : World}
    (hrun : on (bind handle name value) world = (.ok (), next)) :
    next = world.rescope handle (Value.setEntry name value.bound) := by
  rcases on_bind_cases handle name value world with ⟨fault, herror⟩ | hok
  · cases hrun.symm.trans herror
  · exact congrArg Prod.snd (hrun.symm.trans hok)

section Renders

variable [language : Substrate]

/-- What a closure binds when it prepares a pass: for paths, what each leads to in an item of the
    component's data, and for a name the item. -/
inductive Prepares (world : World) (i : Nat) : Closure → Value × Value → Prop
  | path {targets : List (Value × Value)} {target path item found : Value} {way : String}
      {index : Nat} (hmem : (target, path) ∈ targets)
      (hitem : ((world.component i).data.items?.getD [])[index]? = some item)
      (hway : path.text? = some way)
      (hfound : BindPath.resolve world.surroundings item way (world.component i).template
        = .ok found) :
      Prepares world i (.paths targets) (target, found)
  | item {name : String} {item : Value} {index : Nat}
      (hitem : ((world.component i).data.items?.getD [])[index]? = some item) :
      Prepares world i (.name name) (.text name, item)

/-- The worlds that renders lead to, and what they bind for a fragment on the way: what templates
    bind, and what the closure that the fragment had when its render began binds before a pass. -/
inductive Rendered (handle : Handle) (start : World) : Bindings → World → Prop
  | refl : Rendered handle start [] start
  | bind {more : Bindings} {world next : World} (name value : Value)
      (hrun : on (bind handle name value) world = (.ok (), next))
      (h : Rendered handle start more world) :
      Rendered handle start (more ++ [(name, value)]) next
  | pass {before more : Bindings} {begun world : World} {i : Nat} {closure : Closure}
      {entry : Value × Value} (hhandle : handle = .component i)
      (hbegun : Rendered handle start before begun)
      (hclosure : (begun.component i).closure = some closure)
      (hprepares : Prepares world i closure entry) (h : Rendered handle start more world) :
      Rendered handle start (more ++ [entry])
        (world.rescope handle (Value.setEntry entry.1 entry.2.bound))
  | aside {more : Bindings} {world next : World} (hkeeps : world.Keeps handle next)
      (h : Rendered handle start more world) : Rendered handle start more next

namespace Rendered

variable {handle : Handle} {start middle last : World} {more others : Bindings}

theorem trans (h : Rendered handle start more middle) (h' : Rendered handle middle others last) :
    Rendered handle start (more ++ others) last := by
  induction h' with
  | refl =>
      rw [List.append_nil]
      exact h
  | bind name value hrun _ ih =>
      rw [← List.append_assoc]
      exact ih.bind name value hrun
  | pass hhandle _ hclosure hprepares _ ihbegun ih =>
      rw [← List.append_assoc]
      exact .pass hhandle ihbegun hclosure hprepares ih
  | aside hkeeps _ ih => exact ih.aside hkeeps

/-- After renders a fragment's scope is what it was, with all that was bound. -/
theorem scope (h : Rendered handle start more last) (hstart : start.Holds handle) :
    last.Holds handle ∧ last.scopeOf handle = more.onto (start.scopeOf handle) := by
  induction h with
  | refl => exact ⟨hstart, rfl⟩
  | bind name value hrun _ ih =>
      rw [eq_rescope_of_bind hrun, Bindings.onto_concat, ← ih.2]
      exact World.scopeOf_rescope ih.1 _
  | pass _ _ _ _ _ _ ih =>
      rw [Bindings.onto_concat, ← ih.2]
      exact World.scopeOf_rescope ih.1 _
  | aside hkeeps _ ih => exact ⟨hkeeps.holds ih.1, hkeeps.scope.trans ih.2⟩

end Rendered

/-- Renders of a fragment that is plain lead from one world to another. -/
def Rendering (handle : Handle) : Passage :=
  fun start _ last => start.Holds handle → ∃ more, Rendered handle start more last

namespace Rendering

variable {handle : Handle}

theorem of_keeps {start last : World} (h : start.Keeps handle last) (fault? : Option Fault) :
    Rendering handle start fault? last :=
  fun _ => ⟨[], .aside h .refl⟩

end Rendering

instance (handle : Handle) : Walk (Rendering handle) where
  refl _ := Rendering.of_keeps (Walk.refl (R := Keeping handle) _) none
  trans h h' hstart := by
    obtain ⟨more, hmore⟩ := h hstart
    obtain ⟨others, hothers⟩ := h' (hmore.scope hstart).1
    exact ⟨_, hmore.trans hothers⟩
  trouble _ _ := Rendering.of_keeps ⟨rfl, id⟩ _
  noVariable _ _ _ _ := Rendering.of_keeps ⟨rfl, id⟩ _

instance (handle : Handle) : (Law.along (Rendering handle)).Settling :=
  Law.Settling.along_both (S := Keeping handle) (T := Keeping handle)
    fun h _ => Rendering.of_keeps h _

namespace Rendering

variable {handle : Handle}

theorem bind (other : Handle) (name value : Value) :
    Respects (Rendering handle) (bind other name value) := by
  intro world
  rcases on_bind_cases other name value world with ⟨fault, hrun⟩ | hrun
  · rw [hrun]
    exact of_keeps ⟨rfl, id⟩ _
  · by_cases hsame : handle = other
    · subst hsame
      rw [hrun]
      exact fun _ => ⟨_, .bind name value hrun .refl⟩
    · rw [hrun]
      exact of_keeps (World.keeps_rescope hsame _) _

theorem resolve [FileSystem] (site : Nat) (template : TemplateId) :
    Respects (Rendering handle) (resolve site template) := by
  intro world
  obtain ⟨result, _, hrun⟩ := on_resolve site template world
  rw [hrun]
  exact of_keeps (World.keeps_of_fragments (by rfl) (by rfl) handle) _

omit [Substrate] in
/-- An item of a component's data is read, or there is none at the index. -/
theorem on_itemAt_cases (i index : Nat) (world : World) :
    (∃ fault, on (itemAt i index) world = (.error fault, world))
      ∨ ∃ item, ((world.component i).data.items?.getD [])[index]? = some item
        ∧ on (itemAt i index) world = (.ok item, world) := by
  rw [itemAt, on_bind_ok (on_get world)]
  simp only
  split
  case h_1 item hitem => exact .inr ⟨item, hitem, rfl⟩
  case h_2 => exact .inl ⟨_, rfl⟩

omit [Substrate] in
/-- The text of a path is read, or it has none. -/
theorem on_pathOf_cases (path : Value) (world : World) :
    (∃ fault, on (pathOf path) world = (.error fault, world))
      ∨ ∃ way, path.text? = some way ∧ on (pathOf path) world = (.ok way, world) := by
  cases path with
  | text s => exact .inr ⟨s, rfl, rfl⟩
  | safe s => exact .inr ⟨s, rfl, rfl⟩
  | _ => exact .inl ⟨_, rfl⟩

/-- Binding what paths lead to binds that and nothing else. -/
theorem bindPaths {start : World} {i index : Nat} {item : Value} {targets : List (Value × Value)}
    (hclosure : (start.component i).closure = some (.paths targets))
    {rest : List (Value × Value)} (hrest : rest ⊆ targets) {world : World} {more : Bindings}
    (hitem : ((world.component i).data.items?.getD [])[index]? = some item)
    (h : Rendered (.component i) start more world) :
    ∃ others, Rendered (.component i) start others (on (bindPaths i item rest) world).2 := by
  induction rest generalizing world more with
  | nil => exact ⟨more, h⟩
  | cons entry rest ih =>
      obtain ⟨target, path⟩ := entry
      rw [Engine.bindPaths]
      rcases on_pathOf_cases path world with ⟨fault, hpath⟩ | ⟨way, hway, hpath⟩
      · rw [on_bind_error hpath]
        exact ⟨more, h⟩
      · rw [on_bind_ok hpath, on_bind_ok (on_get world)]
        cases hfound : BindPath.resolve world.surroundings item way
          (world.component i).template with
        | error fault => exact ⟨more, h⟩
        | ok found =>
            have hpass := Rendered.pass rfl .refl hclosure
              (.path (hrest List.mem_cons_self) hitem hway hfound) h
            have hkept := World.data_rescope world i (Value.setEntry target found.bound)
            exact ih (fun other hother => hrest (List.mem_cons_of_mem _ hother))
              ((congrArg (fun data => (data.items?.getD [])[index]?) hkept).trans hitem) hpass

theorem prepare {start : World} {i : Nat} {closure : Closure}
    (hclosure : (start.component i).closure = some closure) (index : Nat) :
    RespectsFrom (Rendering handle) start (prepare i closure index) := by
  intro world hworld hstart
  obtain ⟨more, hmore⟩ := hworld hstart
  by_cases hhandle : handle = .component i
  · subst hhandle
    have hplain := hstart.2 closure hclosure
    cases closure with
    | paths targets =>
        show ∃ more, Rendered _ _ more
          (on (itemAt i index >>= fun item => Engine.bindPaths i item targets) world).2
        rcases on_itemAt_cases i index world with ⟨fault, hrun⟩ | ⟨item, hitem, hrun⟩
        · rw [on_bind_error hrun]
          exact ⟨more, hmore⟩
        · rw [on_bind_ok hrun]
          exact bindPaths hclosure (List.Subset.refl targets) hitem hmore
    | name target =>
        show ∃ more, Rendered _ _ more (on (itemAt i index >>= fun item =>
          changeVars (.component i) (Value.setEntry (.text target) item.bound)) world).2
        rcases on_itemAt_cases i index world with ⟨fault, hrun⟩ | ⟨item, hitem, hrun⟩
        · rw [on_bind_error hrun]
          exact ⟨more, hmore⟩
        · rw [on_bind_ok hrun]
          have hpass := Rendered.pass rfl .refl hclosure (.item hitem) hmore
          exact ⟨_, hpass⟩
    | counted f => cases hplain
    | itemwise f => cases hplain
    | called callee => cases callee <;> exact ⟨more, hmore⟩
  · -- the scope of another fragment is prepared
    obtain ⟨vars, hnext⟩ := Respects.prepare (Rescopes.changeVars i) closure index world
    rw [hnext]
    exact ⟨more, .aside (World.keeps_setComponent_of_ne hhandle _) hmore⟩

end Rendering

instance (handle : Handle) : (Law.along (Rendering handle)).Evaluating where
  bindValue := Rendering.bind

variable [FileSystem]

instance (handle : Handle) : Course (Rendering handle) where
  hold {_} _ _ {_ _} _ :=
    Rendering.of_keeps (World.keeps_of_fragments (by rfl) (by rfl) handle) none
  unrenderable _ _ _ := Rendering.of_keeps (World.keeps_of_fragments (by rfl) (by rfl) handle) _
  fallBack {_ _ _} _ _ _ :=
    Rendering.of_keeps (World.keeps_setComponent handle (by rfl) (by exact id)) none
  prepare := Rendering.prepare
  resolve := Rendering.resolve
  within _ {_ _ _} h := h

/-! ## Renders that bind only -/

/-- Whether a request leaves the scope of a fragment as it is, bindings apart. -/
def Request.Spares (handle : Handle) : Request → Prop
  | .alterScope other _ => other ≠ handle
  | _ => True

instance (handle : Handle) : DecidablePred (Request.Spares handle)
  | .alterScope other _ => inferInstanceAs (Decidable (other ≠ handle))
  | .look | .next _ | .render _ | .call _ _ _ _ | .alterData _ _ | .files => .isTrue trivial

instance (handle : Handle) [Substrate.Mild (Request.Spares handle)] :
    Law.Answering (Law.along ((Rendering handle).mild (Request.Spares handle)))
      (Request.Spares handle) where
  answer {_} hrender {_} hr := by
    refine Law.Evaluating.answer hrender ?_ fun _ => ?_
    · rintro other change rfl
      have hother : Respects (Rendering handle) (changeVars other change) := fun world =>
        Rendering.of_keeps (World.keeps_rescope (Ne.symm hr) change) _
      exact (Trailing.changeVars other change).mild hother
    · exact Respects.get.bind fun world => Respects.pure world.host.files

theorem Rendering.running (handle : Handle) [Substrate.Mild (Request.Spares handle)] :
    Running ((Rendering handle).mild (Request.Spares handle)) (Request.Spares handle) :=
  inferInstance

namespace Rendered

variable {handle : Handle}

omit [FileSystem] in
/-- What renders bind on restrained scripts they bind. -/
theorem of_restrained {kind : Request → Prop} [DecidablePred kind]
    {cause : Trouble} {start last : World} {more : Bindings}
    (h : @Rendered (language.restrained kind cause) handle start more last) :
    Rendered handle start more last := by
  induction h with
  | refl => exact .refl
  | bind name value hrun _ ih => exact ih.bind name value hrun
  | pass hhandle _ hclosure hprepares _ ihbegun ih =>
      refine .pass hhandle ihbegun hclosure ?_ ih
      cases hprepares with
      | path hmem hitem hway hfound => exact .path hmem hitem hway hfound
      | item hitem => exact .item hitem
  | aside hkeeps _ ih => exact ih.aside hkeeps

/-- A render that does not change the scope of a plain fragment in place only binds for it. -/
theorem of_keepsTo {fragment : Handle} {world : World}
    (hkeeps : KeepsTo (Request.Spares handle) (on (render fragment)) world)
    (hholds : world.Holds handle) :
    ∃ more, Rendered handle world more (on (render fragment) world).2 := by
  have hmild : @Substrate.Mild (language.restrained (Request.Spares handle) .tooDeep) _ :=
    language.mild_restrained .tooDeep
  have hrenders := hkeeps.respects .tooDeep (@render_respects _ (language.restrained _ _) _ _
    (@Rendering.running (language.restrained _ _) _ handle hmild) fragment)
  have hbefore : world.Keeps handle (world.restrained (Request.Spares handle) .tooDeep) :=
    World.keeps_of_fragments (by rfl) (by rfl) handle
  obtain ⟨more, hmore⟩ := hrenders (hbefore.holds hholds)
  have hafter := (aside hbefore refl).trans (of_restrained hmore)
  exact ⟨_, hafter.aside (World.keeps_of_fragments (by rfl) (by rfl) handle)⟩

end Rendered

/-! ## What a scope holds -/

/-- The worlds that a new fragment is led to by calls and renders, and what was bound for it on the
    way.  No function that a caller gives prepares its passes, and whatever else happens leaves it
    its scope. -/
inductive Bound (handle : Handle) : Bindings → World → Prop
  | component {site : Nat} {template : String} {world next : World}
      (hrun : on (newComponent site template) world = (.ok handle, next)) : Bound handle [] next
  | view {site : Nat} {template : String} {world next : World}
      (hrun : on (newView site template) world = (.ok handle, next)) : Bound handle [] next
  | bind {bindings : Bindings} {world next : World} (name value : Value)
      (hrun : on (bind handle name value) world = (.ok (), next))
      (h : Bound handle bindings world) : Bound handle (bindings ++ [(name, value)]) next
  | bindAll {bindings : Bindings} {world next : World} (entries : List (Value × Value))
      (hrun : on (bindAll handle (.map entries)) world = (.ok (), next))
      (h : Bound handle bindings world) : Bound handle (bindings ++ entries) next
  | each {bindings : Bindings} {world : World} {i : Nat} (hhandle : handle = .component i)
      (data binds : Value) (other : Option String) (h : Bound handle bindings world) :
      Bound handle bindings (on (each i data (closureOf binds) other) world).2
  | extend {bindings : Bindings} {world : World} {i : Nat} (hhandle : handle = .view i)
      (layout : Value) (h : Bound handle bindings world) :
      Bound handle bindings (on (extend i layout) world).2
  | render {bindings more : Bindings} {world : World} (fragment : Handle)
      (hrendered : Rendered handle world more (on (render fragment) world).2)
      (h : Bound handle bindings world) :
      Bound handle (bindings ++ more) (on (render fragment) world).2
  | aside {bindings : Bindings} {world next : World} (hkeeps : world.Keeps handle next)
      (h : Bound handle bindings world) : Bound handle bindings next

variable {handle : Handle} {bindings : Bindings} {world : World}

omit [Substrate] [FileSystem] in
/-- Entries that are bound one after the other are written, escaped, to the scope. -/
theorem scopeOf_bindAll {entries : List (Value × Value)} {next : World}
    (hrun : on (bindAll handle (.map entries)) world = (.ok (), next))
    (h : world.Holds handle) :
    next.Holds handle ∧ next.scopeOf handle = Bindings.onto entries (world.scopeOf handle) := by
  change on (bindEntries handle entries) world = _ at hrun
  induction entries generalizing world with
  | nil =>
      cases hrun
      exact ⟨h, rfl⟩
  | cons entry entries ih =>
      obtain ⟨name, value⟩ := entry
      rw [bindEntries] at hrun
      rcases on_bind_cases handle name value world with ⟨fault, hbind⟩ | hbind
      · rw [on_bind_error hbind] at hrun
        cases hrun
      · rw [on_bind_ok hbind] at hrun
        obtain ⟨hholds, hscope⟩ := World.scopeOf_rescope h (Value.setEntry name value.bound)
        have hrest := ih hholds hrun
        rw [hscope] at hrest
        exact hrest

/-- The scope of a fragment is what was bound for it. -/
theorem Bound.scope (h : Bound handle bindings world) :
    world.Holds handle ∧ world.scopeOf handle = bindings.onto [] := by
  induction h with
  | @component site template world next hrun =>
      cases hrun
      have hnew : World.component { world with components :=
          world.components ++ [Component.new site template] } world.components.length
          = Component.new site template := by
        rw [World.component, List.getElem?_concat_length]
        rfl
      rw [World.Holds, World.scopeOf, hnew]
      exact ⟨⟨by simp, fun _ hclosure => by cases hclosure⟩, rfl⟩
  | @view site template world next hrun =>
      cases hrun
      have hnew : World.view { world with views := world.views ++ [View.new site template] }
          world.views.length = View.new site template := by
        rw [World.view, List.getElem?_concat_length]
        rfl
      rw [World.scopeOf, hnew]
      exact ⟨by simp [World.Holds], rfl⟩
  | bind name value hrun _ ih =>
      rw [eq_rescope_of_bind hrun, Bindings.onto_concat, ← ih.2]
      exact World.scopeOf_rescope ih.1 _
  | bindAll entries hrun _ ih =>
      rw [Bindings.onto_append, ← ih.2]
      exact scopeOf_bindAll hrun ih.1
  | @each _ world i _ data binds other _ ih =>
      have hkeeps := Respects.each (R := Keeping handle) i data binds other world
      exact ⟨hkeeps.holds ih.1, hkeeps.scope.trans ih.2⟩
  | @extend _ world i _ layout _ ih =>
      have hkeeps := Respects.extend (R := Keeping handle) i layout world
      exact ⟨hkeeps.holds ih.1, hkeeps.scope.trans ih.2⟩
  | render fragment hrendered _ ih =>
      rw [Bindings.onto_append, ← ih.2]
      exact hrendered.scope ih.1
  | aside hkeeps _ ih => exact ⟨hkeeps.holds ih.1, hkeeps.scope.trans ih.2⟩

end Renders

section Witness

attribute [local instance] Native.usual FileSystem.plain

/-- A world with a component whose template has a source, and a scope. -/
def sourceOf (source : String) (vars : Scope) : World where
  host := ⟨⟨[(["site", "c.html"], .file ⟨encodeText source, .zero false⟩)]⟩, .zero false, 0, 0⟩
  switch := none
  sites := [⟨⟨[(.component, ["site"])], ".html"⟩, "mky", false, ⟨⟨[]⟩, none⟩, ⟨[]⟩⟩]
  components := [{ Component.new 0 "c" with vars }]
  views := []
  streams := []

/-- A component with a name bound, whose template puts a text under it into the map of its
    variables. -/
def updating : World :=
  (on (bind (.component 0) (.text "x") (.text "a")) (sourceOf
    "\x7b% set _ = this.variables.update(\x7b'x': '<b>'\x7d) %\x7d" [])).2

end Witness

end Engine

end Stencil
