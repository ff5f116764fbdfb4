import Mathlib.Data.List.Dedup
import Stencil.Native.Usual
import Stencil.Proofs.Engine.Sites

/-! # Memo — what an evaluator holds makes no difference

    The evaluator of a site holds the script that each template had last, with
    the code it was built from.  A run on a world with other scripts held comes
    to the same and leaves the same world, the scripts held at the site apart,
    as long as every script is held under its own code.  What is held afterwards
    is what was held before and what the run has built, so a run on a fresh
    evaluator shows what it builds.

    Headline: `execute_fresh`. -/

namespace Stencil

open Engine

/-- The scripts that an evaluator holds. -/
abbrev Held := Table TemplateId (String × Script)

/-- The keys of a table. -/
def Table.keys {α β : Type} (table : Table α β) : List α :=
  table.entries.map Prod.fst

/-- No key stands twice in a table after a value was put. -/
theorem Table.nodup_keys_put {α β : Type} [BEq α] [LawfulBEq α] {table : Table α β}
    (h : table.keys.Nodup) (key : α) (value : β) : (table.put key value).keys.Nodup := by
  obtain ⟨entries⟩ := table
  rw [keys, put]
  rw [keys] at h
  simp only at h ⊢
  induction entries with
  | nil => exact List.nodup_singleton key
  | cons entry entries ih =>
      obtain ⟨k, v⟩ := entry
      rw [List.map_cons, List.nodup_cons] at h
      rw [putIn]
      split
      case isTrue => exact List.nodup_cons.mpr h
      case isFalse hkey =>
        refine List.nodup_cons.mpr ⟨fun hmem => ?_, ih h.2⟩
        rcases (@mem_keys_put _ _ _ _ ⟨entries⟩ _ _ _).mp hmem with heq | hold
        · exact hkey (beq_iff_eq.mpr heq.symm)
        · exact h.1 hold

/-- Whether scripts are held under their codes, one for each template. -/
structure IsMemo [Substrate] (held : Held) : Prop where
  built : ∀ template code script, held.get? template = some (code, script) →
    Substrate.build code = .ok script
  nodup : held.keys.Nodup

theorem IsMemo.empty [Substrate] : IsMemo .empty :=
  ⟨fun _ _ _ h => (nomatch h), List.nodup_nil⟩

theorem IsMemo.put [Substrate] {held : Held} (h : IsMemo held) (template : TemplateId)
    {code : String}
    {script : Script} (hscript : Substrate.build code = .ok script) :
    IsMemo (held.put template (code, script)) where
  built other code' script' hget := by
    rw [Table.get?_put] at hget
    split at hget
    · cases hget
      exact hscript
    · exact h.built other code' script' hget
  nodup := Table.nodup_keys_put h.nodup template _

/-! ## Worlds with other scripts held -/

namespace World

/-- A world in which the evaluator of a site holds other scripts. -/
def withHeld (world : World) (i : Nat) (held : Held) : World :=
  world.setSite i { world.site i with held }

/-- A world in which the evaluator of a site is a fresh one. -/
def refreshed (world : World) (i : Nat) : World :=
  world.withHeld i .empty

variable {world : World} {i : Nat}

theorem length_withHeld (world : World) (i : Nat) (held : Held) :
    (world.withHeld i held).sites.length = world.sites.length :=
  List.length_set

theorem site_withHeld (hi : i < world.sites.length) (held : Held) :
    (world.withHeld i held).site i = { world.site i with held } := by
  rw [withHeld, site_setSite hi, if_pos rfl]

theorem site_withHeld_of_ne {j : Nat} (hj : j ≠ i) (held : Held) :
    (world.withHeld i held).site j = world.site j :=
  site_setSite_of_ne hj _

/-- What a site is in all but its scripts is the same whatever is held. -/
theorem site_withHeld_congr {β : Type} {f : Site → β}
    (hf : ∀ site held, f { site with held } = f site) (j : Nat) (held : Held) :
    f ((world.withHeld i held).site j) = f (world.site j) :=
  site_setSite_congr f (hf _ held) j

/-- What paths and templates see is the same whatever is held. -/
theorem bare_withHeld (world : World) (i : Nat) (held : Held) :
    (world.withHeld i held).bare = world.bare :=
  bare_setSite rfl

/-- What is held last is held. -/
theorem withHeld_withHeld (world : World) (i : Nat) (held other : Held) :
    (world.withHeld i held).withHeld i other = world.withHeld i other := by
  rcases world.site_cases i with ⟨hi, -⟩ | ⟨-, hset⟩
  · rw [withHeld, site_withHeld hi, withHeld, withHeld, setSite, setSite, setSite]
    simp only [List.set_set]
  · rw [show world.withHeld i held = world from hset _]

/-- A world with what it holds. -/
theorem withHeld_self (world : World) (i : Nat) : world.withHeld i (world.site i).held = world :=
  world.setSite_site i

/-- Another site is put in its place whatever is held. -/
theorem setSite_withHeld_of_ne {j : Nat} (hj : j ≠ i) (held : Held) (site : Site) :
    (world.withHeld i held).setSite j site = (world.setSite j site).withHeld i held := by
  rw [withHeld, withHeld, site_setSite_of_ne (Ne.symm hj), setSite, setSite, setSite, setSite]
  simp only [List.set_comm _ _ hj]

/-- The cache of a site is changed whatever is held. -/
theorem setCache_withHeld (hi : i < world.sites.length) (held : Held) (j : Nat) (cache : Cache) :
    (world.withHeld i held).setSite j { (world.withHeld i held).site j with cache }
      = (world.setSite j { world.site j with cache }).withHeld i held := by
  by_cases hj : j = i
  · subst hj
    rw [site_withHeld hi, withHeld, withHeld, site_setSite hi, if_pos rfl, setSite, setSite,
      setSite, setSite]
    simp only [List.set_set]
  · rw [site_withHeld_of_ne hj, setSite_withHeld_of_ne hj]

end World

namespace Engine

section Theory

variable [Substrate] {α β : Type} {i : Nat} {world : World}

/-! ## The law -/

/-- Whether a run comes to an outcome and a world whatever the evaluator of a site holds, which then
    holds what it held and what is built. -/
structure Recalls (i : Nat) (x : Engine α) (world : World) (outcome : Except Fault α)
    (next : World) (built : List TemplateId) : Prop where
  site : i < next.sites.length
  run : ∀ held, IsMemo held → ∃ kept, IsMemo kept
    ∧ (∀ template, template ∈ kept.keys ↔ template ∈ built ∨ template ∈ held.keys)
    ∧ on x (world.withHeld i held) = (outcome, next.withHeld i kept)

/-- A run that comes to the same whatever is held, and leaves that, builds nothing. -/
theorem Recalls.of_forall {x : Engine α} {outcome : Except Fault α} {next : World}
    (hnext : i < next.sites.length)
    (h : ∀ held, on x (world.withHeld i held) = (outcome, next.withHeld i held)) :
    Recalls i x world outcome next [] :=
  ⟨hnext, fun held hheld => ⟨held, hheld, fun template => by simp, h held⟩⟩

/-- The law that what the evaluator of a site holds makes no difference. -/
def Law.recalling (i : Nat) : Law Unit where
  Holds x := ∀ world, i < world.sites.length →
    ∃ outcome next built, Recalls i (x ()) world outcome next built

/-- A run that looks at no site and changes none. -/
theorem recalling_of_sites {x : Engine α}
    (h : ∀ world held, on x (world.withHeld i held)
      = ((on x world).1, (on x world).2.withHeld i held))
    (hsites : ∀ world, (on x world).2.sites = world.sites) : (Law.recalling i).Keeps x :=
  fun world hi => ⟨_, _, _, .of_forall (hsites world ▸ hi) (h world)⟩

theorem recalling_throw (fault : Fault) : (Law.recalling i).Keeps (throw fault : Engine α) :=
  recalling_of_sites (fun _ _ => rfl) fun _ => rfl

namespace Recalls

variable {x : Engine α} {f : α → Engine β} {middle next : World} {built more : List TemplateId}

theorem bind_error {fault : Fault} (h : Recalls i x world (.error fault) middle built) :
    Recalls i (x >>= f) world (.error fault) middle built := by
  refine ⟨h.site, fun held hheld => ?_⟩
  obtain ⟨kept, hkept, hkeys, hrun⟩ := h.run held hheld
  exact ⟨kept, hkept, hkeys, on_bind_error hrun⟩

/-- One computation after another builds what both build. -/
theorem bind_ok {a : α} {outcome : Except Fault β} (h : Recalls i x world (.ok a) middle built)
    (h' : Recalls i (f a) middle outcome next more) :
    Recalls i (x >>= f) world outcome next (more ++ built) := by
  refine ⟨h'.site, fun held hheld => ?_⟩
  obtain ⟨kept, hkept, hkeys, hrun⟩ := h.run held hheld
  obtain ⟨last, hlast, hmore, hrest⟩ := h'.run kept hkept
  refine ⟨last, hlast, fun template => ?_, (on_bind_ok hrun).trans hrest⟩
  rw [hmore, hkeys, List.mem_append, or_assoc]

end Recalls

theorem recalling_bind {x : Engine α} {f : α → Engine β} (hx : (Law.recalling i).Keeps x)
    (hf : ∀ a, (Law.recalling i).Keeps (f a)) : (Law.recalling i).Keeps (x >>= f) := by
  intro world hi
  obtain ⟨outcome, middle, built, hfirst⟩ := hx world hi
  cases outcome with
  | error fault => exact ⟨_, _, _, hfirst.bind_error⟩
  | ok a =>
      obtain ⟨outcome, next, more, hsecond⟩ := hf a middle hfirst.site
      exact ⟨_, _, _, hfirst.bind_ok hsecond⟩

/-- A computation that reads of the world what does not depend on the scripts held. -/
theorem recalling_read {γ : Type} {f : World → γ} {g : γ → Engine β}
    (h : ∀ world held, f (world.withHeld i held) = f world)
    (hg : ∀ c, (Law.recalling i).Keeps (g c)) :
    (Law.recalling i).Keeps (get >>= fun world => g (f world)) := by
  intro world hi
  obtain ⟨outcome, next, built, hnext, hrun⟩ := hg (f world) world hi
  refine ⟨outcome, next, built, hnext, fun held hheld => ?_⟩
  obtain ⟨kept, hkept, hkeys, heq⟩ := hrun held hheld
  refine ⟨kept, hkept, hkeys, ?_⟩
  rw [on_bind_ok (on_get _), h]
  exact heq

instance : (Law.recalling i).Flow where
  pure _ := recalling_of_sites (fun _ _ => rfl) fun _ => rfl
  bind hx hf := recalling_bind hx hf
  stop _ := recalling_throw _
  read {_ f} hbare h := by
    rw [← funext hbare]
    exact recalling_read (f := World.bare) (fun world held => world.bare_withHeld i held) h

/-! ## Fragments -/

theorem recalling_changeComponent (j : Nat) (change : Component → Component) :
    (Law.recalling i).Keeps (changeComponent j change) :=
  recalling_of_sites (fun _ _ => rfl) fun _ => rfl

theorem recalling_changeView (j : Nat) (change : View → View) :
    (Law.recalling i).Keeps (changeView j change) :=
  recalling_of_sites (fun _ _ => rfl) fun _ => rfl

theorem recalling_changeVars (handle : Handle) (change : Scope → Scope) :
    (Law.recalling i).Keeps (changeVars handle change) := by
  cases handle with
  | component j => exact recalling_changeComponent j fun c => { c with vars := change c.vars }
  | view j => exact recalling_changeView j fun v => { v with vars := change v.vars }

/-- The next value of a stream is the same whatever is held. -/
theorem recalling_next (id : Nat) : (Law.recalling i).Keeps (next id) := by
  refine recalling_of_sites (fun world held => ?_) fun world => ?_
  · rw [next, on_bind_ok (on_get _), on_bind_ok (on_get _),
      show (world.withHeld i held).streams = world.streams from rfl]
    cases world.streams[id]?.getD [] <;> rfl
  · rw [next, on_bind_ok (on_get _)]
    cases world.streams[id]?.getD [] <;> rfl

instance : (Law.recalling i).Asking where
  drain _ := recalling_of_sites (fun _ _ => rfl) fun _ => rfl
  next := recalling_next
  setGate j _ := recalling_changeComponent j _
  setCount j _ _ := recalling_changeComponent j _
  setItems j _ _ := recalling_changeComponent j _
  setLength j _ := recalling_changeComponent j _
  setBinds j {_ _} _ := recalling_changeComponent j _
  alterData j _ := recalling_changeComponent j _
  redirect j _ _ := recalling_changeComponent j _
  setLayout j _ := recalling_changeView j _
  newComponent _ _ := recalling_of_sites (fun _ _ => rfl) fun _ => rfl
  bindValue handle name value := Law.Keeps.bindIn (recalling_changeVars handle) name value
  alterScope := recalling_changeVars
  files := recalling_of_sites (fun _ _ => rfl) fun _ => rfl

/-! ## Renders -/

/-- A resolve does not look at scripts. -/
theorem recalling_resolve [FileSystem] (j : Nat) (template : TemplateId) :
    (Law.recalling i).Keeps (resolve j template) := by
  intro world hi
  have hsite : i < (on (resolve j template) world).2.sites.length := by
    rw [World.length_sites_resolve]
    exact hi
  refine ⟨(on (resolve j template) world).1, _, [], .of_forall hsite fun held => ?_⟩
  have hresult := @World.site_withHeld_congr world i _ (fun site =>
    site.cache.resolve site.sources site.ns.toList template world.host) (fun _ _ => rfl) j held
  rw [on_resolve_eq, on_resolve_eq, show (world.withHeld i held).host = world.host from rfl,
    hresult]
  simp only [World.setCache_withHeld hi]
  rfl

/-- The script of a code at a site: the one held for the template, if its code is the same, else a
    new one. -/
def reuse (site : Nat) (template : TemplateId) (code : String) : Engine Script := do
  let world ← get
  match ((world.site site).held.get? template).filter fun found => found.1 == code with
  | some (_, script) => return script
  | none =>
    match Substrate.build code with
    | .error cause => throw (.unrenderable template cause)
    | .ok script =>
      set (world.setSite site { world.site site with
        held := (world.site site).held.put template (code, script) })
      return script

theorem scriptOf_eq (site : Nat) (artifact : Artifact) :
    scriptOf site artifact = codeOf artifact >>= reuse site artifact.template := rfl

/-- A script that is held under its code is the one that is built from it. -/
theorem recalls_reuse (hi : i < world.sites.length) (template : TemplateId) (code : String) :
    Recalls i (reuse i template code) world
      ((Substrate.build code).mapError (.unrenderable template))
      world (if (Substrate.build code).isOk then [template] else []) := by
  refine ⟨hi, fun held hheld => ?_⟩
  rw [reuse, on_bind_ok (on_get _)]
  simp only [World.site_withHeld hi]
  cases hfound : (held.get? template).filter fun found => found.1 == code with
  | some found =>
      -- a script is held under its code, and this one has the same code
      obtain ⟨hget, hsame⟩ := Option.filter_eq_some_iff.mp hfound
      obtain ⟨other, script⟩ := found
      cases beq_iff_eq.mp hsame
      have hmem : template ∈ held.keys := List.mem_map_of_mem (Table.mem_of_get? hget)
      rw [hheld.built _ _ _ hget]
      refine ⟨held, hheld, fun other => ?_, rfl⟩
      simp only [Except.isOk, Except.toBool, if_true, List.mem_singleton]
      exact ⟨.inr, fun h => h.elim (fun heq => heq ▸ hmem) id⟩
  | none =>
      cases hscript : Substrate.build code with
      | error cause => exact ⟨held, hheld, fun other => by simp [Except.isOk, Except.toBool], rfl⟩
      | ok script =>
          refine ⟨held.put template (code, script), hheld.put _ hscript, fun other => ?_, ?_⟩
          · simp only [Except.isOk, Except.toBool, if_true, List.mem_singleton]
            exact Table.mem_keys_put
          · have hset := world.withHeld_withHeld i held (held.put template (code, script))
            rw [World.withHeld, World.site_withHeld hi] at hset
            simp only
            rw [on_bind_ok (on_set _ _), hset]
            rfl

/-- What another evaluator holds is untouched. -/
theorem recalls_reuse_of_ne {j : Nat} (hj : j ≠ i) (hi : i < world.sites.length)
    (template : TemplateId) (code : String) :
    ∃ outcome next, Recalls i (reuse j template code) world outcome next [] := by
  simp only [reuse]
  cases hfound : ((world.site j).held.get? template).filter fun found => found.1 == code with
  | some found =>
      refine ⟨.ok found.2, world, .of_forall hi fun held => ?_⟩
      rw [on_bind_ok (on_get _), World.site_withHeld_of_ne hj, hfound]
      rfl
  | none =>
      cases hscript : Substrate.build code with
      | error cause =>
          refine ⟨.error (.unrenderable template cause), world, .of_forall hi fun held => ?_⟩
          rw [on_bind_ok (on_get _), World.site_withHeld_of_ne hj, hfound]
          rfl
      | ok script =>
          refine ⟨.ok script, world.setSite j { world.site j with
            held := (world.site j).held.put template (code, script) },
            .of_forall ?_ fun held => ?_⟩
          · exact Nat.lt_of_lt_of_eq hi List.length_set.symm
          · rw [on_bind_ok (on_get _), World.site_withHeld_of_ne hj, hfound]
            simp only
            rw [on_bind_ok (on_set _ _), World.setSite_withHeld_of_ne hj]
            rfl

theorem recalling_scriptOf (j : Nat) (artifact : Artifact) :
    (Law.recalling i).Keeps (scriptOf j artifact) := by
  rw [scriptOf_eq]
  refine (Law.Keeps.codeOf artifact).bind fun code world hi => ?_
  by_cases hj : j = i
  · subst hj
    exact ⟨_, _, _, recalls_reuse hi artifact.template code⟩
  · obtain ⟨outcome, next, hrun⟩ := recalls_reuse_of_ne hj hi artifact.template code
    exact ⟨outcome, next, [], hrun⟩

theorem recalling_within (template : TemplateId) {x : Engine α}
    (hx : (Law.recalling i).Keeps x) : (Law.recalling i).Keeps (within template x) := by
  intro world hi
  obtain ⟨outcome, next, built, hnext, hrun⟩ := hx world hi
  refine ⟨outcome.mapError (Fault.within template), next, built, hnext, fun held hheld => ?_⟩
  obtain ⟨kept, hkept, hkeys, heq⟩ := hrun held hheld
  refine ⟨kept, hkept, hkeys, ?_⟩
  rw [on_within, heq]

variable [FileSystem]

instance : (Law.recalling i).Executing fun _ => True where
  changeVars := recalling_changeVars
  setTemplate j _ := recalling_changeComponent j _
  noVariable _ _ _ := recalling_throw _
  resolve := recalling_resolve
  script {_} site artifact {_} h :=
    (recalling_scriptOf site artifact).bind fun script => h script fun _ _ => .any _
  within {_} template {_} hx := recalling_within template hx

/-! ## Executing a code -/

/-- The execution of a code for a template at a site: that of the script it is, if it is one. -/
def runCode (render : Handle → Engine String) (i : Nat) (template : TemplateId)
    (scope : Scope) (caller : Option Value) (code : String) : Engine String :=
  match Substrate.build code with
  | .error cause => throw (.unrenderable template cause)
  | .ok script => within template (runFor render i scope caller script)

omit [FileSystem] in
/-- Whatever an evaluator holds, each under its own code, an artifact is executed by running its own
    code. -/
theorem on_execute_code {render : Handle → Engine String} (hi : i < world.sites.length)
    (hheld : IsMemo (world.site i).held) {artifact : Artifact} {code : String}
    (hcode : artifact.code = .text code) (scope : Scope) (caller : Option Value) :
    ∃ held, IsMemo held ∧ on (execute render i artifact scope caller) world
      = on (runCode render i artifact.template scope caller code) (world.withHeld i held) := by
  obtain ⟨kept, hkept, -, hrun⟩ := (recalls_reuse hi artifact.template code).run _ hheld
  rw [World.withHeld_self] at hrun
  have hscript : on (scriptOf i artifact) world
      = ((Substrate.build code).mapError (.unrenderable artifact.template),
        world.withHeld i kept) := by
    rw [scriptOf_eq, codeOf, hcode]
    exact hrun
  refine ⟨kept, hkept, ?_⟩
  rw [execute_eq_bind, runCode]
  cases hcases : Substrate.build code with
  | error cause =>
      rw [hcases] at hscript
      exact on_bind_error hscript
  | ok script =>
      rw [hcases] at hscript
      exact on_bind_ok hscript

/-! ## Executions -/

/-- What an evaluator is called with. -/
structure Execution where
  artifact : Artifact
  scope : Scope
  caller : Option Value

namespace Execution

/-- A call of the evaluator of a site, with at most `depth` fragments rendered inside one
    another. -/
def run (execution : Execution) (depth i : Nat) : Engine String :=
  execute (renderUpTo depth) i execution.artifact execution.scope execution.caller

/-- Whether the code of a call's artifact can be built. -/
def IsProper (execution : Execution) : Prop :=
  ∃ code script, execution.artifact.code.text? = some code ∧ Substrate.build code = .ok script

/-- The templates that a call builds, by itself or through what it renders: those that a fresh
    evaluator holds after it. -/
def builds (execution : Execution) (depth i : Nat) (world : World) : List TemplateId :=
  ((on (execution.run depth i) (world.refreshed i)).2.site i).held.keys

/-- Whatever an evaluator holds, a call comes to the same, and builds its own template exactly if
    its code can be. -/
theorem exists_recalls (execution : Execution) (depth : Nat) (hi : i < world.sites.length) :
    ∃ outcome next built, Recalls i (execution.run depth i) world outcome next built
      ∧ (execution.artifact.template ∈ built ↔ execution.IsProper) := by
  rw [run, execute_eq_bind, scriptOf_eq, codeOf]
  cases hcode : execution.artifact.code.text? with
  | none =>
      have hfail : Recalls i (fail .noMember : Engine String) world _ world [] :=
        .of_forall hi fun held => rfl
      refine ⟨_, _, _, hfail.bind_error.bind_error, ?_⟩
      simp [IsProper, hcode]
  | some code =>
      have hread : Recalls i (Pure.pure code) world (.ok code) world [] :=
        .of_forall hi fun held => rfl
      have hrecall := hread.bind_ok (recalls_reuse hi execution.artifact.template code)
      cases hscript : Substrate.build code with
      | error cause =>
          rw [hscript] at hrecall
          refine ⟨_, _, _, hrecall.bind_error, ?_⟩
          simp [IsProper, hcode, hscript, Except.isOk, Except.toBool]
      | ok script =>
          rw [hscript] at hrecall
          have hbody := recalling_within execution.artifact.template
            (Law.Keeps.runFor (K := Law.recalling i) (Law.Keeps.renderUpTo depth) i execution.scope
              execution.caller fun strict vars => .any (script strict vars))
          obtain ⟨outcome, next, built, hrest⟩ := hbody world hi
          refine ⟨_, _, _, hrecall.bind_ok hrest, ?_⟩
          simp [IsProper, hcode, hscript, Except.isOk, Except.toBool]

/-- What a fresh evaluator holds after a call is what the call builds on every evaluator. -/
theorem recalls_builds (execution : Execution) (depth : Nat) (hi : i < world.sites.length) :
    (∃ outcome next,
        Recalls i (execution.run depth i) world outcome next (execution.builds depth i world))
      ∧ (execution.artifact.template ∈ execution.builds depth i world ↔ execution.IsProper) := by
  obtain ⟨outcome, next, built, hrun, hproper⟩ := execution.exists_recalls depth hi
  obtain ⟨fresh, -, hfresh, hrefreshed⟩ := hrun.run _ .empty
  have hbuilds : ∀ template, template ∈ execution.builds depth i world ↔ template ∈ built := by
    intro template
    rw [builds, World.refreshed, hrefreshed, World.site_withHeld hrun.site, hfresh]
    exact or_iff_left List.not_mem_nil
  refine ⟨⟨outcome, next, hrun.site, fun held hheld => ?_⟩, by rw [hbuilds, hproper]⟩
  obtain ⟨kept, hkept, hkeys, heq⟩ := hrun.run held hheld
  exact ⟨kept, hkept, fun template => by rw [hkeys, hbuilds], heq⟩

end Execution

/-! ## Histories -/

/-- The histories of the evaluator of a site, which holds nothing at first, with the templates that
    its calls have built and the worlds they lead to.  Between calls anything else may change. -/
inductive Executions (i : Nat) : List TemplateId → World → Prop
  | start {world : World} (hsite : i < world.sites.length)
      (hheld : (world.site i).held = .empty) : Executions i [] world
  | change {built : List TemplateId} {world next : World} (hsite : i < next.sites.length)
      (hheld : (next.site i).held = (world.site i).held) (h : Executions i built world) :
      Executions i built next
  | execute {built : List TemplateId} {world : World} (depth : Nat) (execution : Execution)
      (h : Executions i built world) :
      Executions i (execution.builds depth i world ++ built) (on (execution.run depth i) world).2

/-- After every history an evaluator holds, each under its own code, the scripts of the templates
    that were built. -/
theorem Executions.isMemo {built : List TemplateId} (h : Executions i built world) :
    i < world.sites.length ∧ IsMemo (world.site i).held
      ∧ ∀ template, template ∈ (world.site i).held.keys ↔ template ∈ built := by
  induction h with
  | start hsite hheld =>
      rw [hheld]
      exact ⟨hsite, .empty, fun template => Iff.rfl⟩
  | change hsite hheld _ ih =>
      rw [hheld]
      exact ⟨hsite, ih.2⟩
  | @execute built world depth execution _ ih =>
      obtain ⟨hi, hheld, hkeys⟩ := ih
      obtain ⟨⟨outcome, next, hrecalls⟩, -⟩ := execution.recalls_builds depth hi
      obtain ⟨kept, hkept, hmem, hrun⟩ := hrecalls.run _ hheld
      rw [World.withHeld_self] at hrun
      rw [hrun, World.site_withHeld hrecalls.site, World.length_withHeld]
      refine ⟨hrecalls.site, hkept, fun template => ?_⟩
      rw [hmem, hkeys, List.mem_append]

end Theory

section Witness

attribute [local instance] Native.usual FileSystem.plain

/-- A call with a code, always for the same template. -/
def Execution.plain (code : String) : Execution :=
  ⟨⟨⟨.component, "a"⟩, .text code, .zero false, 0⟩, [], none⟩

/-- A world with one site and no file. -/
def oneEngine : World :=
  ⟨⟨.empty, .zero false, 0, 0⟩, none, [default], [], [], []⟩

end Witness

end Engine

end Stencil
