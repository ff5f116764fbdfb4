import Stencil.Proofs.Cache.Failure
import Stencil.Proofs.Engine.Nesting

/-! # Typing — with which faults executions and renders end

    In custody every artifact that a site answers has a text for its code, and no
    store is troubled, so a resolve only fails for a source that is missing, is
    refused, is no text or cannot be looked for.  A script that cannot be built, and
    all that goes wrong inside it, is the fault of the template.  What remains are
    troubles without a template: the source of the template itself is no text in
    UTF-8 and neither the memory nor the store has a fresh entry, or the path to it
    is none for the system.  Inside another template these become that one's fault
    too.

    Headline: `render_typed`. -/

namespace Stencil

open Engine

section Theory

variable [Substrate] [FileSystem]

variable {dirs : List Location} {kept : List TemplateId} {world : World} {i : Nat}
  {template : TemplateId} {artifact : Artifact} {fault : Fault}

/-- Whether a fault is one of a template or a variable: a template is missing, does not compile or
    does not render, or a variable is not there. -/
def Fault.isOfTemplate : Fault → Bool
  | .notFound _ _ => true
  | .uncompilable _ _ => true
  | .unrenderable _ _ => true
  | .noVariable _ _ _ => true
  | _ => false

/-! ## Codes are texts -/

/-- Whether the code of each artifact in a memory is a text. -/
def Cache.IsTextual (cache : Cache) : Prop :=
  ∀ entry ∈ cache.memory.entries, ∃ code, entry.2.artifact.code = .text code

omit [Substrate] [FileSystem] in
theorem Cache.IsTextual.remember {cache : Cache} (h : cache.IsTextual) (host : Host)
    {code : String} (hcode : artifact.code = .text code) :
    (cache.remember host template artifact).1.IsTextual := by
  intro entry hentry
  rcases Table.mem_put hentry with rfl | hold
  · exact ⟨code, hcode⟩
  · exact h entry hold

omit [Substrate] [FileSystem] in
/-- In custody what a store finds has a text for its code. -/
theorem Host.Tended.text_of_find {host : Host} (h : host.Tended dirs kept) {store : Store}
    (hdir : store.dir ∈ dirs) {found : Stored}
    (hfind : store.find host.files template = .ok (some found)) :
    ∃ code, found.code = .text code := by
  rcases h.find hdir template with hnone | ⟨_, -, code, _, -, hfound⟩
  · cases hfind.symm.trans hnone
  · cases hfind.symm.trans hfound
    exact ⟨code, rfl⟩

omit [Substrate] in
/-- A resolve in custody answers with a text and keeps texts only. -/
theorem Cache.Resolution.textual {sources : Sources} {ns : List Char} {cache : Cache} {host : Host}
    {result : Cache.Resolved} (h : Cache.Resolution sources ns template cache host result)
    (hhost : host.Tended dirs kept) (hcache : cache.Tended dirs kept)
    (htextual : cache.IsTextual) :
    (∀ artifact, result.1 = .ok artifact → ∃ code, artifact.code = .text code)
      ∧ result.2.1.IsTextual := by
  cases h with
  | missing => exact ⟨fun _ hok => (by cases hok), htextual⟩
  | troubled => exact ⟨fun _ hok => (by cases hok), htextual⟩
  | unreadable => exact ⟨fun _ hok => (by cases hok), htextual⟩
  | refused => exact ⟨fun _ hok => (by cases hok), htextual⟩
  | fresh hfile hentry hfresh =>
      refine ⟨fun artifact hok => ?_, htextual⟩
      cases hok
      exact htextual _ (Table.mem_of_get? hentry)
  | stored hfile hstale hstore hfind hfresh =>
      obtain ⟨code, hcode⟩ := hhost.text_of_find (hcache.store _ hstore) hfind
      refine ⟨fun artifact hok => ?_, htextual.remember host hcode⟩
      cases hok
      exact ⟨code, hcode⟩
  | compiled =>
      refine ⟨fun artifact hok => ?_, htextual.remember host rfl⟩
      cases hok
      exact ⟨_, rfl⟩

namespace World

/-- Whether the memory of every site holds artifacts with texts for their codes only. -/
def IsTextual (world : World) : Prop :=
  ∀ site ∈ world.sites, site.cache.IsTextual

omit [Substrate] [FileSystem] in
theorem IsTextual.cache (h : world.IsTextual) (i : Nat) : (world.site i).cache.IsTextual := by
  rcases world.site_cases i with ⟨-, hmem⟩ | ⟨hdefault, -⟩
  · exact h _ hmem
  · rw [hdefault]
    intro entry hentry
    cases hentry

omit [Substrate] in
theorem IsTextual.resolve (h : world.IsTextual) (htended : world.Tended dirs kept) (i : Nat)
    (template : TemplateId) : (on (Engine.resolve i template) world).2.IsTextual := by
  obtain ⟨result, hresult, hrun⟩ := on_resolve i template world
  rw [hrun]
  exact forall_setSite h fun _ =>
    (hresult.textual htended.host (htended.cache i) (h.cache i)).2

theorem IsTextual.trail (h : world.IsTextual) (htended : world.Tended dirs kept) {refused : Bool}
    {next : World} (htrail : Trail world refused next) : next.IsTextual := by
  induction htrail with
  | refl => exact h
  | arrange components views streams _ ih => exact ih
  | @hold middle site _ _ _ _ _ ih => exact forall_setSite ih fun _ => ih.cache site
  | resolve site template htrail ih => exact ih.resolve (htended.trail htrail) site template

omit [Substrate] in
/-- A site that is opened remembers nothing. -/
theorem IsTextual.construct (h : world.IsTextual) (setup : Setup) :
    (on (openSite setup) world).2.IsTextual := by
  obtain ⟨files, -, hrun | ⟨store, -, -, hrun⟩⟩ := on_openSite setup world
  · rw [hrun]
    exact h
  · rw [hrun]
    intro site hsite
    rcases List.mem_append.mp hsite with hold | hnew
    · exact h site hold
    · rw [List.mem_singleton.mp hnew]
      intro entry hentry
      cases hentry

omit [Substrate] [FileSystem] in
theorem IsTextual.purge (h : world.IsTextual) (i : Nat) :
    (on (Engine.purge i) world).2.IsTextual := by
  obtain ⟨host, memory, -, hmemory, -, hrun⟩ := on_purge i world
  rw [hrun]
  refine forall_setSite h fun _ entry hentry => ?_
  rw [hmemory] at hentry
  cases hentry

theorem IsTextual.step (h : world.IsTextual) (htended : world.Tended dirs kept) {next : World}
    (hstep : world.Step dirs next) : next.IsTextual := by
  cases hstep with
  | edit => exact h
  | tick => exact h
  | turn => exact h
  | arrange => exact h
  | construct => exact h.construct _
  | resolve site template => exact h.resolve htended site template
  | render handle => exact h.trail htended (render_follows handle world)
  | part htrail => exact h.trail htended htrail

/-- In every world that is reached the memories hold texts. -/
theorem Reached.isTextual (reached : World.Reached dirs kept world) : world.IsTextual := by
  induction reached with
  | start hsites =>
      intro site hsite
      rw [hsites] at hsite
      cases hsite
  | step hstep reached ih => exact ih.step reached.tended hstep
  | purge site _ ih => exact ih.purge site

end World

/-- In every world that is reached the code of an artifact that is answered is a text. -/
theorem World.Reached.text_of_resolve (reached : World.Reached dirs kept world)
    (hok : (on (resolve i template) world).1 = .ok artifact) :
    ∃ code, artifact.code = .text code := by
  obtain ⟨result, hresult, hrun⟩ := on_resolve i template world
  rw [hrun] at hok
  exact (hresult.textual reached.tended.host (reached.tended.cache i)
    (reached.isTextual.cache i)).1 _ hok

/-! ## Sources of which there is no text -/

/-- The troubles that arise where a site has to read the source of a template: the source is no
    text, and neither the memory nor the store has an entry that was stored no earlier than the
    source has changed; or the path to it is none for the system. -/
inductive World.Illegible (world : World) (i : Nat) (template : TemplateId) : Trouble → Prop
  | garbled {file : File} (hfile : world.sourceAt i template = .ok file)
      (hbytes : decodeText? file.bytes = none)
      (hstale : ¬ (world.site i).cache.HasFresh world.host.files template file.changed) :
      Illegible world i template .undecodable
  | astray {defect : PathDefect}
      (hfile : world.sourceAt i template = .error (.trouble (.path defect))) :
      Illegible world i template (.path defect)

namespace World

variable {cause : Trouble}

omit [Substrate] in
/-- Without a source it is the path that can be at fault. -/
theorem illegible_iff_of_error (hfile : world.sourceAt i template = .error fault) :
    world.Illegible i template cause ↔ fault = .trouble cause := by
  constructor
  · rintro (⟨hfound, -, -⟩ | hastray)
    · cases hfile.symm.trans hfound
    · exact Except.error.inj (hfile.symm.trans hastray)
  · rintro rfl
    cases Sources.lacks_of_sourceFile hfile with
    | defect defect => exact .astray hfile

omit [Substrate] in
/-- Of a source that is there it is the bytes that can be at fault. -/
theorem illegible_iff_of_ok {file : File} (hfile : world.sourceAt i template = .ok file) :
    world.Illegible i template cause ↔ cause = .undecodable ∧ decodeText? file.bytes = none
      ∧ ¬ (world.site i).cache.HasFresh world.host.files template file.changed := by
  constructor
  · rintro (⟨hfound, hbytes, hstale⟩ | hastray)
    · cases hfile.symm.trans hfound
      exact ⟨rfl, hbytes, hstale⟩
    · cases hfile.symm.trans hastray
  · rintro ⟨rfl, hbytes, hstale⟩
    exact .garbled hfile hbytes hstale

omit [Substrate] in
/-- What the sources make is the same whatever the fragments are. -/
theorem illegible_arrange (world : World) (components : List Component) (views : List View)
    (streams : List (List Value)) (cause : Trouble) :
    Illegible { world with components, views, streams } i template cause
      ↔ world.Illegible i template cause := by
  cases hfile : world.sourceAt i template with
  | error fault => rw [illegible_iff_of_error hfile, illegible_iff_of_error (by exact hfile)]
  | ok file =>
      rw [illegible_iff_of_ok hfile, illegible_iff_of_ok (by exact hfile)]
      rfl

end World

omit [Substrate] [FileSystem] in
theorem Sources.textOf_eq_error_iff {file : File} :
    textOf file = .error fault ↔ fault = .trouble .undecodable
      ∧ decodeText? file.bytes = none := by
  rw [textOf]
  cases decodeText? file.bytes with
  | none => exact ⟨fun h => ⟨(Except.error.inj h).symm, rfl⟩, fun h => by rw [h.1]⟩
  | some text =>
      constructor
      · intro h
        cases h
      · rintro ⟨-, h⟩
        cases h

omit [Substrate] in
/-- A build fails with a trouble exactly where the source is no text. -/
theorem Cache.build_trouble_iff {sources : Sources} {ns : List Char} {cache : Cache} {host : Host}
    {file : File} (hfile : sources.sourceFile host.files template = .ok file) {cause : Trouble} :
    (Cache.build sources ns template cache host).1 = .error (.trouble cause)
      ↔ cause = .undecodable ∧ decodeText? file.bytes = none := by
  cases htext : Sources.textOf file with
  | error unread =>
      obtain ⟨rfl, hbytes⟩ := Sources.textOf_eq_error_iff.mp htext
      rw [build_of_unreadable hfile htext]
      refine ⟨fun herror => ?_, fun hcause => by rw [hcause.1]⟩
      cases herror
      exact ⟨rfl, hbytes⟩
  | ok text =>
      have hlegible : decodeText? file.bytes ≠ none := fun hbytes => by
        cases (Sources.textOf_eq_error_iff.mpr ⟨rfl, hbytes⟩).symm.trans htext
      refine ⟨fun herror => ?_, fun hcause => absurd hcause.2 hlegible⟩
      cases hcompile : Directive.compile ns Directive.standardRules text with
      | error error =>
          rw [build_of_refused hfile htext hcompile] at herror
          cases herror
      | ok code =>
          rw [build_of_compile hfile htext hcompile] at herror
          cases herror

omit [Substrate] in
/-- A resolve fails with a fault of the template or with a trouble. -/
theorem Cache.Resolution.fault_cases {sources : Sources} {ns : List Char} {cache : Cache}
    {host : Host} {result : Cache.Resolved}
    (h : Cache.Resolution sources ns template cache host result)
    (herror : result.1 = .error fault) :
    fault.isOfTemplate = true ∨ (∃ cause, fault = .trouble cause) := by
  cases h with
  | missing hfile =>
      cases herror
      cases Sources.lacks_of_sourceFile hfile with
      | notFound path => exact .inl rfl
      | defect defect => exact .inr ⟨_, rfl⟩
  | troubled hfile hstale hstore hfind =>
      cases herror
      exact .inr ⟨_, rfl⟩
  | unreadable hfile hstale htext =>
      cases herror
      exact .inr ⟨_, (Sources.textOf_eq_error_iff.mp htext).1⟩
  | refused =>
      cases herror
      exact .inl rfl
  | fresh => cases herror
  | stored => cases herror
  | compiled => cases herror

namespace World.Tended

variable (h : world.Tended dirs kept)
include h

omit [Substrate] [FileSystem] in
/-- In custody no store is troubled. -/
theorem exists_find (i : Nat) (template : TemplateId) :
    ∀ store ∈ (world.site i).cache.store,
      ∃ found, store.find world.host.files template = .ok found := by
  intro store hstore
  rcases h.host.find ((h.cache i).store store hstore) template with
    hnone | ⟨_, -, _, _, -, hfound⟩
  · exact ⟨none, hnone⟩
  · exact ⟨_, hfound⟩

omit [Substrate] in
/-- In custody a resolve fails with a trouble exactly where there is no text of the source to
    read. -/
theorem resolve_trouble_iff (cause : Trouble) :
    (on (Engine.resolve i template) world).1 = .error (.trouble cause)
      ↔ world.Illegible i template cause := by
  rw [on_resolve_eq]
  change (Cache.resolve _ _ _ _ _).1 = _ ↔ _
  cases hfile : world.sourceAt i template with
  | error missing =>
      rw [Cache.resolve_of_missing hfile, World.illegible_iff_of_error hfile]
      exact ⟨fun herror => Except.error.inj herror, fun hmissing => congrArg Except.error hmissing⟩
  | ok file =>
      rw [World.illegible_iff_of_ok hfile]
      by_cases hfresh : (world.site i).cache.HasFresh world.host.files template file.changed
      · obtain ⟨artifact, next, stamps, hanswer⟩ :=
          @Cache.resolve_of_hasFresh _ _ _ (world.site i).ns.toList _ _ _ hfile hfresh
        rw [hanswer]
        refine ⟨fun herror => ?_, fun hillegible => absurd hfresh hillegible.2.2⟩
        cases herror
      · rw [Cache.resolve_of_not_hasFresh hfile (h.exists_find i template) hfresh,
          Cache.build_trouble_iff hfile]
        exact ⟨fun hbytes => ⟨hbytes.1, hbytes.2, hfresh⟩,
          fun hillegible => ⟨hillegible.1, hillegible.2.1⟩⟩

end World.Tended

namespace Engine

/-! ## Faults inside a template -/

/-- The passage along which runs end with faults of templates or with troubles only. -/
def Rising : Passage :=
  fun _ fault? _ => ∀ fault, fault? = some fault →
    fault.isOfTemplate = true ∨ ∃ cause, fault = .trouble cause

instance : Walk Rising where
  refl _ _ h := by cases h
  trans _ h := h
  trouble cause _ _ h := .inr ⟨cause, (Option.some.inj h).symm⟩
  noVariable _ _ _ _ _ h := .inl (Option.some.inj h ▸ rfl)

omit [Substrate] [FileSystem] in
theorem rising_of_ok {α : Type} {x : Engine α} (h : ∀ world, ∃ a, (on x world).1 = .ok a) :
    Respects Rising x := by
  intro world fault hfault
  obtain ⟨a, ha⟩ := h world
  rw [ha] at hfault
  cases hfault

omit [Substrate] [FileSystem] in
theorem rising_changeVars (handle : Handle) (change : Scope → Scope) :
    Respects Rising (changeVars handle change) := by
  cases handle with
  | component i => exact rising_of_ok fun _ => ⟨_, rfl⟩
  | view i => exact rising_of_ok fun _ => ⟨_, rfl⟩

instance : (Law.along Rising).Asking where
  drain _ := rising_of_ok fun _ => ⟨_, rfl⟩
  next id := rising_of_ok fun world => by
    rw [next, on_bind_ok (on_get world)]
    split <;> exact ⟨_, rfl⟩
  newComponent _ _ := rising_of_ok fun _ => ⟨_, rfl⟩
  setGate _ _ := rising_of_ok fun _ => ⟨_, rfl⟩
  setCount _ _ _ := rising_of_ok fun _ => ⟨_, rfl⟩
  setItems _ _ _ := rising_of_ok fun _ => ⟨_, rfl⟩
  setLength _ _ := rising_of_ok fun _ => ⟨_, rfl⟩
  setBinds _ {_ _} _ := rising_of_ok fun _ => ⟨_, rfl⟩
  alterData _ _ := rising_of_ok fun _ => ⟨_, rfl⟩
  redirect _ _ _ := rising_of_ok fun _ => ⟨_, rfl⟩
  setLayout _ _ := rising_of_ok fun _ => ⟨_, rfl⟩
  bindValue handle name value := Respects.bindIn (rising_changeVars handle) name value
  alterScope := rising_changeVars
  files := rising_of_ok fun world => ⟨world.host.files, rfl⟩

omit [Substrate] [FileSystem] in
/-- What a fault becomes inside a template is a fault of a template. -/
theorem isOfTemplate_within (template : TemplateId)
    (h : fault.isOfTemplate = true ∨ ∃ cause, fault = .trouble cause) :
    (fault.within template).isOfTemplate = true := by
  rcases h with htemplate | ⟨cause, rfl⟩
  · cases fault with
    | trouble cause => rfl
    | _ => exact htemplate
  · rfl

omit [Substrate] in
/-- A resolve ends with a fault of the template or a trouble also outside custody. -/
theorem rising_resolve (site : Nat) (template : TemplateId) :
    Respects Rising (resolve site template) := by
  intro world fault hfault
  obtain ⟨result, hresult, hrun⟩ := on_resolve site template world
  have herror := error_of_faultOf hfault
  rw [hrun] at herror
  exact hresult.fault_cases herror

instance : Course Rising where
  fallBack {_ _ _} _ _ _ _ h := by cases h
  prepare _ index := (Respects.prepare (rising_changeVars _) _ index).respectsFrom _
  resolve := rising_resolve
  hold {_} _ _ {_ _} _ _ h := by cases h
  unrenderable _ _ _ _ h := .inl (Option.some.inj h ▸ rfl)
  within template {_ _ _} h _ hfault :=
    .inl (Option.some.inj hfault ▸ isOfTemplate_within template (h _ rfl))

/-! ## Executions -/

omit [FileSystem] in
/-- A script that cannot be built from a text is the fault of the template. -/
theorem isOfTemplate_of_scriptOf {site : Nat} {code : String} (hcode : artifact.code = .text code)
    (herror : (on (scriptOf site artifact) world).1 = .error fault) :
    fault.isOfTemplate = true := by
  have hpure : codeOf artifact = pure code := by
    rw [codeOf, hcode]
    rfl
  rw [scriptOf, hpure, pure_bind, on_bind_ok (on_get world)] at herror
  simp only at herror
  split at herror
  case h_1 => cases herror
  case h_2 =>
    split at herror
    · cases herror
      rfl
    · cases herror

/-- An execution of an artifact with a text for its code ends with a fault of a template. -/
theorem isOfTemplate_of_execute {render : Handle → Engine String}
    (hrender : RendersRespect Rising render) {site : Nat} {scope : Scope} {caller : Option Value}
    {code : String} (hcode : artifact.code = .text code)
    (herror : (on (execute render site artifact scope caller) world).1 = .error fault) :
    fault.isOfTemplate = true := by
  rw [execute_eq_bind] at herror
  rcases hbuild : on (scriptOf site artifact) world with ⟨unbuilt | script, ready⟩
  · rw [on_bind_error hbuild] at herror
    cases herror
    exact isOfTemplate_of_scriptOf hcode (congrArg Prod.fst hbuild)
  · rw [on_bind_ok hbuild, on_within] at herror
    have hrun : Respects Rising (runFor render site scope caller script) :=
      Law.Keeps.runFor (K := Law.along Rising) hrender site scope caller fun _ _ => .any _
    rcases hbody : on (runFor render site scope caller script) ready with ⟨raised | out, last⟩
    · rw [hbody] at herror
      cases herror
      have hraised := hrun ready
      rw [hbody] at hraised
      exact isOfTemplate_within artifact.template (hraised raised rfl)
    · rw [hbody] at herror
      cases herror

/-- Whether a fault with which something ends is one of a template, or else one of the troubles that
    are named, and all of these arise. -/
def EndsTyped (outcome : Except Fault String) (escapes : Trouble → Prop) : Prop :=
  (∀ fault, outcome = .error fault → fault.isOfTemplate = true ∨ ∃ cause, fault = .trouble cause)
    ∧ ∀ cause, outcome = .error (.trouble cause) ↔ escapes cause

omit [Substrate] [FileSystem] in
/-- An output is no fault. -/
theorem EndsTyped.of_ok (out : String) {escapes : Trouble → Prop} (h : ∀ cause, ¬ escapes cause) :
    EndsTyped (.ok out) escapes := by
  refine ⟨fun fault hfault => ?_, fun cause => ⟨fun hfault => ?_, fun hnot => absurd hnot (h _)⟩⟩
  · cases hfault
  · cases hfault

omit [Substrate] [FileSystem] in
theorem EndsTyped.congr {outcome : Except Fault String} {escapes other : Trouble → Prop}
    (h : EndsTyped outcome escapes) (hsame : ∀ cause, escapes cause ↔ other cause) :
    EndsTyped outcome other :=
  ⟨h.1, fun cause => (h.2 cause).trans (hsame cause)⟩

/-- A template that is resolved and executed. -/
theorem endsTyped_execution (reached : World.Reached dirs kept world) (depth site : Nat)
    (template : TemplateId) (scope : Scope) (caller : Option Value) :
    EndsTyped (on (resolve site template >>= fun artifact =>
      execute (renderUpTo depth) site artifact scope caller) world).1
      (world.Illegible site template) := by
  have htended := reached.tended
  rcases hresolve : on (resolve site template) world with ⟨unresolved | artifact, resolved⟩
  · rw [on_bind_error hresolve]
    refine ⟨fun fault hfault => ?_, fun cause => ?_⟩
    · cases hfault
      have hrising := rising_resolve site template world
      rw [hresolve] at hrising
      exact hrising unresolved rfl
    · rw [← htended.resolve_trouble_iff cause, hresolve]
      exact ⟨fun hfault => by cases hfault; rfl, fun hfault => by cases hfault; rfl⟩
  · rw [on_bind_ok hresolve]
    obtain ⟨code, hcode⟩ := reached.text_of_resolve (congrArg Prod.fst hresolve)
    have htyped : ∀ fault, (on (execute (renderUpTo depth) site artifact scope caller) resolved).1
        = .error fault → fault.isOfTemplate = true := fun _ =>
      isOfTemplate_of_execute (Respects.renderUpTo depth) hcode
    refine ⟨fun fault hfault => .inl (htyped fault hfault), fun cause => ?_⟩
    rw [← htended.resolve_trouble_iff cause, hresolve]
    constructor
    · intro hfault
      cases htyped _ hfault
    · intro hfault
      cases hfault

theorem endsTyped_executeFor (reached : World.Reached dirs kept world) (depth : Nat)
    (handle : Handle) (role : Role) (name : String) (scope : Scope) :
    EndsTyped (on (executeFor (renderUpTo depth) handle role name scope) world).1
      (world.Illegible (world.siteOf handle) ⟨role, name⟩) := by
  rw [executeFor, on_bind_ok (on_get world)]
  exact endsTyped_execution reached depth _ _ scope _

/-! ## Renders -/

/-- The troubles that the sources of a view make: that of its own template, and that of its layout
    when its own template has given an output. -/
def ViewIllegible (render : Handle → Engine String) (world : World) (i : Nat) (cause : Trouble) :
    Prop :=
  world.Illegible (world.view i).site ⟨.view, (world.view i).template⟩ cause
    ∨ ∃ content next layout, on (executeFor render (.view i) .view (world.view i).template
        (world.view i).vars) world = (.ok content, next)
      ∧ (next.view i).layout = some layout
      ∧ next.Illegible (next.view i).site ⟨.layout, layout⟩ cause

/-- The template that a component without passes executes, if it executes one. -/
def once? (c : Component) : Option String :=
  if c.gate = some false then none
  else
    match c.fallback? with
    | some other => some other
    | none => if c.closure.isSome then none else some c.template

theorem endsTyped_renderView (reached : World.Reached dirs kept world) (depth i : Nat) :
    EndsTyped (on (renderView (renderUpTo depth) i) world).1
      (ViewIllegible (renderUpTo depth) world i) := by
  have hown := endsTyped_executeFor reached depth (.view i) .view (world.view i).template
    (world.view i).vars
  rcases hcontent : on (executeFor (renderUpTo depth) (.view i) .view (world.view i).template
    (world.view i).vars) world with ⟨failed | content, after⟩
  · rw [hcontent] at hown
    rw [on_renderView_error hcontent]
    refine hown.congr fun cause => ⟨.inl, ?_⟩
    rintro (hillegible | ⟨content, next, layout, hok, -⟩)
    · exact hillegible
    · cases hcontent.symm.trans hok
  · rw [hcontent] at hown
    have hlegible : ∀ cause,
        ¬ world.Illegible (world.view i).site ⟨.view, (world.view i).template⟩ cause := by
      intro cause hillegible
      cases (hown.2 cause).mpr hillegible
    rw [on_renderView_ok hcontent]
    cases hlayout : (after.view i).layout with
    | none =>
        refine .of_ok content fun cause => ?_
        rintro (hillegible | ⟨_, _, layout, hok, hother, -⟩)
        · exact hlegible cause hillegible
        · cases hcontent.symm.trans hok
          cases hlayout.symm.trans hother
    | some layout =>
        -- the layout is executed in a world that the execution of the view has reached
        have houter := endsTyped_executeFor (reached.step (.part (trail_of_executeFor hcontent)))
          depth (.view i) .layout layout
          (Value.setEntry (.text contentName) (.text content) (after.view i).vars)
        refine houter.congr fun cause => ⟨fun h => .inr ⟨_, _, _, hcontent, hlayout, h⟩, ?_⟩
        rintro (hillegible | ⟨_, _, other, hok, hother, hlast⟩)
        · exact absurd hillegible (hlegible cause)
        · cases hcontent.symm.trans hok
          cases hlayout.symm.trans hother
          exact hlast

theorem endsTyped_executeComponent (reached : World.Reached dirs kept world) (depth i : Nat) :
    EndsTyped (on (executeComponent (renderUpTo depth) i) world).1
      (world.Illegible (world.component i).site
        ⟨.component, (world.component i).template⟩) := by
  rw [on_executeComponent_for]
  exact endsTyped_executeFor reached depth _ _ _ _

/-- The troubles that the source of a component without passes makes. -/
def OnceIllegible (world : World) (i : Nat) (cause : Trouble) : Prop :=
  ∃ name, once? (world.component i) = some name
    ∧ world.Illegible (world.component i).site ⟨.component, name⟩ cause

omit [Substrate] in
theorem onceIllegible_iff {name : String} (h : once? (world.component i) = some name)
    (cause : Trouble) : OnceIllegible world i cause
      ↔ world.Illegible (world.component i).site ⟨.component, name⟩ cause := by
  rw [OnceIllegible, h]
  exact ⟨fun ⟨_, hsome, hname⟩ => Option.some.inj hsome ▸ hname, fun hname => ⟨name, rfl, hname⟩⟩

omit [Substrate] in
theorem not_onceIllegible (h : once? (world.component i) = none) (cause : Trouble) :
    ¬ OnceIllegible world i cause := by
  rintro ⟨name, hname, -⟩
  cases h.symm.trans hname

theorem endsTyped_renderComponent (reached : World.Reached dirs kept world) (depth i : Nat)
    (hcount : (world.component i).count = 0) :
    EndsTyped (on (renderComponent (renderUpTo depth) i) world).1 (OnceIllegible world i) := by
  by_cases hgate : (world.component i).gate = some false
  · rw [on_renderComponent_shut hgate]
    exact .of_ok "" (not_onceIllegible (if_pos hgate))
  cases hother : (world.component i).fallback? with
  | some other =>
      have honce : once? (world.component i) = some other := by
        rw [once?, if_neg hgate, hother]
      have hlength : i < world.components.length := by
        by_contra hbeyond
        rw [World.component, List.getElem?_eq_none (Nat.le_of_not_lt hbeyond)] at hother
        cases hother
      rw [on_renderComponent_fallBack hgate hcount hother]
      -- the component has fallen back, and sites and sources are as they were
      have hrun := endsTyped_executeComponent (reached.step (.arrange (world.components.set i
        { world.component i with template := other }) world.views world.streams)) depth i
      refine hrun.congr fun cause => ?_
      have hfallen : World.component (world.setComponent i
          { world.component i with template := other }) i
          = { world.component i with template := other } :=
        World.component_setComponent_self hlength _
      rw [onceIllegible_iff honce]
      change World.Illegible _ (World.component (world.setComponent i _) i).site
        ⟨_, (World.component (world.setComponent i _) i).template⟩ _ ↔ _
      rw [hfallen]
      exact world.illegible_arrange _ _ _ cause
  | none =>
      rw [on_renderComponent_plain hgate hcount hother]
      have honce : once? (world.component i) = if (world.component i).closure.isSome then none
          else some (world.component i).template := by
        rw [once?, if_neg hgate, hother]
      split
      case isTrue hclosure =>
        exact .of_ok "" (not_onceIllegible (honce.trans (if_pos hclosure)))
      case isFalse hclosure =>
        exact (endsTyped_executeComponent reached depth i).congr
          fun cause =>
          (onceIllegible_iff (honce.trans (if_neg hclosure)) cause).symm

end Engine

end Theory

section Witness

attribute [local instance] Native.usual FileSystem.plain

namespace Engine

/-- A world with a source that is no text, an engine over it, and two components: one of that source
    and one whose name holds the null character. -/
def garbled : World :=
  let opened := (on (openSite Setup.small) ((World.single "").withFiles
    ((World.single "").host.files.put ["site", "a.html"] (.file ⟨[0xff], .zero false⟩)))).2
  { opened with components := [.new 0 "a", .new 0 "a\x00"] }

end Engine

end Witness

end Stencil
