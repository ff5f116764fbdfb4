import Stencil.Proofs.Cache.Resolve
import Stencil.Proofs.Directive.Document

/-! # Damage — what the file of an entry can do to a resolve

    The file of an entry can hold any bytes.  If they are a document of an entry
    that is fresh, the entry is served; if they are none, or an old one, the
    source is compiled and the entry written anew.  Three kinds of documents end a
    resolve with a trouble: one that holds something but is no object, one whose
    template is a collection, and one whose time is too large an integer.

    Headline: `resolve_damaged`. -/

namespace Stencil

/-! ## Documents of entries -/

namespace Stored

/-- Whether a document is a time, and which: a number that is not too large, or a text that writes
    one. -/
def IsTime (doc : Json) (time : Binary64) : Prop :=
  match doc with
  | .int i => Binary64.ofInt i = time ∧ ∀ negative, time ≠ .infinite negative
  | .bool b => Binary64.ofInt (if b then 1 else 0) = time
  | .real x => x = time
  | .text s => Numeral.readReal? s.toList = some time
  | _ => False

/-- Whether a document says that it is of the current version. -/
def IsVersioned (doc : Json) : Prop :=
  ∃ v, doc.member? "v" = some v ∧ Value.same (.int Entry.version) (Entry.valueOf v) = true

/-- Whether a document names a template. -/
def Names (doc : Json) (template : TemplateId) : Prop :=
  ∃ s, doc.member? "template" = some (.text s) ∧ TemplateId.parse s .view = .ok template

/-- Whether a document is an entry of the current version, and what it says. -/
structure IsEntry (doc : Json) (found : Stored) : Prop where
  object : ∃ members, doc = .object members
  version : IsVersioned doc
  template : Names doc found.template
  code : ∃ code, doc.member? "code" = some code ∧ Entry.valueOf code = found.code
  storedAt : ∃ time, doc.member? "stored_at" = some time ∧ IsTime time found.storedAt

/-- The documents that end a resolve, and the trouble it ends with. -/
inductive IsFatal (doc : Json) : Trouble → Prop
  | kind (htrue : (Entry.valueOf doc).isTrue = true) (hkind : ∀ members, doc ≠ .object members) :
      IsFatal doc (.failure .noMember)
  | template (hversion : IsVersioned doc)
      (htemplate : (∃ items, doc.member? "template" = some (.array items))
        ∨ ∃ members, doc.member? "template" = some (.object members)) :
      IsFatal doc (.failure .noMember)
  | time {template : TemplateId} {code : Json} {i : Int} {negative : Bool}
      (hversion : IsVersioned doc) (htemplate : Names doc template)
      (hcode : doc.member? "code" = some code) (htime : doc.member? "stored_at" = some (.int i))
      (hlarge : Binary64.ofInt i = .infinite negative) : IsFatal doc (.failure .overflow)

variable {doc : Json} {found : Stored} {template : TemplateId} {cause : Trouble}

theorem isCurrent_iff : isCurrent doc = true ↔ IsVersioned doc := by
  rw [isCurrent, IsVersioned, Option.any_map]
  cases doc.member? "v" <;> simp

/-- What has a member is an object that holds something. -/
theorem object_of_member? {key : String} {value : Json} (h : doc.member? key = some value) :
    (∃ members, doc = .object members) ∧ isVoid doc = false := by
  cases doc with
  | object members =>
      refine ⟨⟨members, rfl⟩, ?_⟩
      cases members with
      | nil => cases h
      | cons member members => rfl
  | _ => cases h

theorem templateOf_eq_ok_some_iff :
    templateOf doc = .ok (some template) ↔ Names doc template := by
  rw [templateOf, Names]
  cases doc.member? "template" with
  | none => simp
  | some t =>
      cases t with
      | text s =>
          simp only [Option.some.injEq, Json.text.injEq, exists_eq_left']
          cases TemplateId.parse s .view <;> simp
      | _ => simp

theorem templateOf_eq_error_iff : templateOf doc = .error cause
    ↔ cause = .failure .noMember ∧ ((∃ items, doc.member? "template" = some (.array items))
      ∨ ∃ members, doc.member? "template" = some (.object members)) := by
  rw [templateOf]
  cases doc.member? "template" with
  | none => simp
  | some t =>
      cases t with
      | text s =>
          simp only
          cases TemplateId.parse s .view <;> simp
      | _ => simp [eq_comm]

/-- A truth value is never too large for a time. -/
theorem ofInt_bool (b : Bool) :
    ∀ negative, Binary64.ofInt (if b then 1 else 0) ≠ .infinite negative := by
  cases b <;> decide +kernel

theorem timeOf_eq_ok_some_iff {time : Binary64} : timeOf doc = .ok (some time)
    ↔ ∃ t, doc.member? "stored_at" = some t ∧ IsTime t time := by
  rw [timeOf]
  cases doc.member? "stored_at" with
  | none => simp
  | some t =>
      simp only [Option.some.injEq, exists_eq_left', IsTime]
      cases t with
      | int i =>
          simp only
          generalize Binary64.ofInt i = x
          cases x with
          | infinite negative =>
              simp only [reduceCtorEq, false_iff, not_and, not_forall, not_not]
              exact fun htime => ⟨negative, htime.symm⟩
          | _ =>
              simp only [Except.ok.injEq, Option.some.injEq]
              exact ⟨fun htime => ⟨htime, fun _ => by simp [← htime]⟩, And.left⟩
      | bool b =>
          have hfinite := ofInt_bool b
          cases hi : Binary64.ofInt (if b then 1 else 0) with
          | infinite negative => exact absurd hi (hfinite negative)
          | _ => simp
      | _ => simp

theorem timeOf_eq_error_iff : timeOf doc = .error cause
    ↔ cause = .failure .overflow ∧ ∃ i negative, doc.member? "stored_at" = some (.int i)
      ∧ Binary64.ofInt i = .infinite negative := by
  rw [timeOf]
  cases doc.member? "stored_at" with
  | none => simp
  | some t =>
      cases t with
      | int i =>
          simp only [Option.some.injEq, Json.int.injEq, exists_and_left, exists_eq_left']
          cases Binary64.ofInt i <;> simp [eq_comm]
      | bool b =>
          have hfinite := ofInt_bool b
          cases hi : Binary64.ofInt (if b then 1 else 0) with
          | infinite negative => exact absurd hi (hfinite negative)
          | _ => simp
      | _ => simp

/-- What an object of the current version says is read member by member. -/
theorem ofJson_of_isVersioned (h : IsVersioned doc) : ofJson doc = (do
    match ← templateOf doc, doc.member? "code" with
    | some template, some code =>
      return (← timeOf doc).map fun storedAt => ⟨template, Entry.valueOf code, storedAt⟩
    | _, _ => return none) := by
  have hcurrent := isCurrent_iff.mpr h
  obtain ⟨v, hv, _⟩ := h
  obtain ⟨⟨members, rfl⟩, hvoid⟩ := object_of_member? hv
  rw [ofJson, hvoid, if_neg Bool.false_ne_true]
  simp only [hcurrent]
  rfl

/-- Reading a document comes to an entry, to a trouble, or to nothing. -/
theorem ofJson_cases (doc : Json) :
    (∃ found, ofJson doc = .ok (some found) ∧ IsEntry doc found)
      ∨ (∃ cause, ofJson doc = .error cause ∧ IsFatal doc cause) ∨ ofJson doc = .ok none := by
  by_cases hversion : IsVersioned doc
  · rw [ofJson_of_isVersioned hversion]
    cases htemplate : templateOf doc with
    | error cause =>
        obtain ⟨rfl, hkind⟩ := templateOf_eq_error_iff.mp htemplate
        exact .inr (.inl ⟨_, rfl, .template hversion hkind⟩)
    | ok name =>
        rcases name with _ | template
        · exact .inr (.inr rfl)
        · rw [templateOf_eq_ok_some_iff] at htemplate
          cases hcode : doc.member? "code" with
          | none => exact .inr (.inr rfl)
          | some code =>
              cases htime : timeOf doc with
              | error cause =>
                  obtain ⟨rfl, i, negative, hmember, hlarge⟩ := timeOf_eq_error_iff.mp htime
                  exact .inr (.inl ⟨_, rfl, .time hversion htemplate hcode hmember hlarge⟩)
              | ok time =>
                  rcases time with _ | time
                  · exact .inr (.inr rfl)
                  · obtain ⟨v, hv, _⟩ := id hversion
                    exact .inl ⟨_, rfl, (object_of_member? hv).1, hversion, htemplate,
                      ⟨code, hcode, rfl⟩, timeOf_eq_ok_some_iff.mp htime⟩
  · -- only the kind of the document counts, and whether it counts as nothing
    have hcurrent : isCurrent doc = false := by
      rw [← Bool.not_eq_true, isCurrent_iff]
      exact hversion
    unfold ofJson
    split
    case isTrue => exact .inr (.inr rfl)
    case isFalse hvoid =>
      rw [isVoid, Bool.not_eq_true, Bool.not_eq_false'] at hvoid
      split
      case h_1 members =>
        rw [hcurrent]
        exact .inr (.inr rfl)
      case h_2 hkind => exact .inr (.inl ⟨_, rfl, .kind hvoid hkind⟩)

/-- An entry is found exactly where a document is one. -/
theorem ofJson_eq_ok_some_iff : ofJson doc = .ok (some found) ↔ IsEntry doc found := by
  constructor
  · intro h
    rcases ofJson_cases doc with ⟨other, hfound, hentry⟩ | ⟨cause, herror, _⟩ | hnone
    · cases h.symm.trans hfound
      exact hentry
    · cases h.symm.trans herror
    · cases h.symm.trans hnone
  · rintro ⟨_, hversion, htemplate, ⟨code, hcode, hvalue⟩, htime⟩
    rw [ofJson_of_isVersioned hversion, templateOf_eq_ok_some_iff.mpr htemplate, hcode,
      timeOf_eq_ok_some_iff.mpr htime]
    show Except.ok (some (Stored.mk found.template (Entry.valueOf code) found.storedAt)) = _
    rw [hvalue]

/-- A document ends a resolve exactly if it is fatal. -/
theorem ofJson_eq_error_iff : ofJson doc = .error cause ↔ IsFatal doc cause := by
  constructor
  · intro h
    rcases ofJson_cases doc with ⟨found, hfound, _⟩ | ⟨other, herror, hfatal⟩ | hnone
    · cases h.symm.trans hfound
    · cases h.symm.trans herror
      exact hfatal
    · cases h.symm.trans hnone
  · intro h
    cases h with
    | kind htrue hkind =>
        have hvoid : isVoid doc = false := by rw [isVoid, htrue]; rfl
        unfold ofJson
        rw [hvoid, if_neg Bool.false_ne_true]
        split
        case h_1 members => exact absurd rfl (hkind members)
        case h_2 => rfl
    | template hversion hkind =>
        rw [ofJson_of_isVersioned hversion, templateOf_eq_error_iff.mpr ⟨rfl, hkind⟩]
        rfl
    | time hversion htemplate hcode htime hlarge =>
        rw [ofJson_of_isVersioned hversion, templateOf_eq_ok_some_iff.mpr htemplate, hcode,
          timeOf_eq_error_iff.mpr ⟨rfl, _, _, htime, hlarge⟩]
        rfl

end Stored

/-! ## Entry files -/

namespace Store

/-- The file of an entry holds an entry that is fresh. -/
def Serves (store : Store) (tree : FileTree) (template : TemplateId) (changed : Binary64)
    (found : Stored) : Prop :=
  ∃ doc, store.document? tree template = some doc ∧ Stored.IsEntry doc found
    ∧ changed.le found.storedAt = true

/-- The file of an entry holds a document that ends a resolve. -/
def Fails (store : Store) (tree : FileTree) (template : TemplateId) (cause : Trouble) : Prop :=
  ∃ doc, store.document? tree template = some doc ∧ Stored.IsFatal doc cause

variable {store : Store} {tree : FileTree} {template : TemplateId}

theorem find_eq_ok_some_iff {found : Stored} : store.find tree template = .ok (some found)
    ↔ ∃ doc, store.document? tree template = some doc ∧ Stored.IsEntry doc found := by
  rw [find]
  cases store.document? tree template with
  | none => simp
  | some doc => simp [Stored.ofJson_eq_ok_some_iff]

theorem find_eq_error_iff {cause : Trouble} :
    store.find tree template = .error cause ↔ store.Fails tree template cause := by
  rw [find, Fails]
  cases store.document? tree template with
  | none => simp
  | some doc => simp [Stored.ofJson_eq_error_iff]

/-- An entry whose file is there is written anew, whatever the file held. -/
theorem file?_keep_of_file? {old : File} (henabled : store.enabled = true)
    (hway : ∀ above ∈ FileTree.wayTo (store.place template).dropLast, tree.file? above = none)
    (hold : tree.file? (store.place template) = some old) (code : String)
    (storedAt now : Binary64) (there : Location) :
    (store.keep tree template code storedAt now).file? there
      = if there = store.place template then some ⟨Entry.bytes template code storedAt now, now⟩
        else tree.file? there := by
  obtain ⟨written, hwritten⟩ :=
    FileTree.exists_write? hway hold ⟨Entry.bytes template code storedAt now, now⟩
  rw [keep_eq, if_pos henabled, hwritten, Option.getD_some, FileTree.file?_write? hwritten]

end Store

/-! ## Resolving over an entry file -/

namespace Cache

section Damage

variable [FileSystem] {sources : Sources} {ns : List Char} {template : TemplateId} {cache : Cache}
  {host : Host}
  {store : Store} {file entry : File} {text code : List Char}

/-- **Damaged entries**: over an entry file with any bytes, a template whose source compiles
    resolves to the entry if the bytes are one that is fresh; it ends with a trouble if they are one
    of the fatal documents; and in every other case the source is compiled, and the entry file holds
    the new entry. -/
theorem resolve_damaged (hfile : sources.sourceFile host.files template = .ok file)
    (htext : Sources.textOf file = .ok text)
    (hcompile : Directive.compile ns Directive.standardRules text = .ok code)
    (hstale : cache.fresh? template file.changed = none) (hstore : cache.store = some store)
    (henabled : store.enabled = true)
    (hentry : host.files.file? (store.place template) = some entry)
    (hway : ∀ above ∈ FileTree.wayTo (store.place template).dropLast,
      host.files.file? above = none) :
    (∀ found, store.Serves host.files template file.changed found →
      resolve sources ns template cache host = (.ok (found.artifact host.stamps),
        cache.remember host template (found.artifact host.stamps)))
    ∧ (∀ cause, store.Fails host.files template cause →
      resolve sources ns template cache host = (.error (.trouble cause), cache, host))
    ∧ ((∀ found, ¬ store.Serves host.files template file.changed found) →
      (∀ cause, ¬ store.Fails host.files template cause) →
      ∃ artifact files,
        artifact = compiledArtifact template code (host.clock.largest file.changed) host.stamps
        ∧ resolve sources ns template cache host
          = (.ok artifact, (cache.remember host template artifact).1,
            ⟨files, host.clock, host.compiles + 1, host.stamps + 1⟩)
        ∧ ∀ there, files.file? there = if there = store.place template
          then some ⟨Entry.bytes template (String.ofList code) artifact.compiledAt host.clock,
            host.clock⟩
          else host.files.file? there) := by
  have hstored : cache.stored host.files template file.changed = (do
      return (← store.find host.files template).filter fun stored =>
        file.changed.le stored.storedAt) := by
    rw [stored, hstore]
  rw [resolve_of_stale hfile hstale, hstored]
  refine ⟨?_, ?_, ?_⟩
  · rintro found ⟨doc, hdocument, hdoc, hfresh⟩
    rw [Store.find_eq_ok_some_iff.mpr ⟨doc, hdocument, hdoc⟩]
    simp [bind, Except.bind, pure, Except.pure, Option.filter_some, hfresh]
  · intro cause hcause
    rw [Store.find_eq_error_iff.mpr hcause]
    rfl
  · intro hserves hfails
    -- the store finds nothing, or an entry that is older than the source
    have hnone : (do return (← store.find host.files template).filter fun stored =>
        file.changed.le stored.storedAt) = Except.ok (ε := Trouble) none := by
      cases hfind : store.find host.files template with
      | error cause => exact absurd (Store.find_eq_error_iff.mp hfind) (hfails cause)
      | ok found =>
          refine congrArg Except.ok (Option.filter_eq_none_iff.mpr ?_)
          intro found hfound hfresh
          cases hfound
          obtain ⟨doc, hdocument, hdoc⟩ := Store.find_eq_ok_some_iff.mp hfind
          exact hserves found ⟨doc, hdocument, hdoc, hfresh⟩
    have hbuild : build sources ns template cache host = _ :=
      build_of_compile hfile htext hcompile
    simp only [filesWith, hstore] at hbuild
    rw [hnone]
    exact ⟨_, _, rfl, hbuild, Store.file?_keep_of_file? henabled hway hentry _ _ _⟩

end Damage

section Listed

attribute [local instance] FileSystem.plain

/-- A tree with a source and, at a place, a list. -/
def listed (place : Location) : FileTree :=
  (FileTree.empty.put ["site", "a.html"] (.file ⟨encodeText "new", .zero false⟩)).put place
    (.file ⟨encodeText "[1]", .zero false⟩)

theorem file?_listed {place : Location} (h : place ≠ []) (there : Location) :
    (listed place).file? there
      = if there = place then some ⟨encodeText "[1]", .zero false⟩
        else if there = ["site", "a.html"] then some ⟨encodeText "new", .zero false⟩ else none := by
  rw [listed, FileTree.file?_put_file _ h, FileTree.file?_put_file _ (by decide)]
  cases there <;> rfl

/-- With a list where an entry belongs, resolving ends with a trouble, though the source
    compiles. -/
theorem resolve_damaged_list : ∃ (store : Store) (sources : Sources) (template : TemplateId)
    (source : File),
    sources.sourceFile (listed (store.place template)) template = .ok source
      ∧ Sources.textOf source = .ok "new".toList
      ∧ Directive.compile "mky".toList Directive.standardRules "new".toList = .ok "new".toList
      ∧ ∀ clock, resolve sources "mky".toList template ⟨.empty, some store⟩
          ⟨listed (store.place template), clock, 0, 0⟩
        = (.error (.trouble (.failure .noMember)), ⟨.empty, some store⟩,
          ⟨listed (store.place template), clock, 0, 0⟩) := by
  refine ⟨.upon ["cache"], ⟨[(.component, ["site"])], ".html"⟩, ⟨.component, "a"⟩,
    ⟨encodeText "new", .zero false⟩, ?_⟩
  generalize hstore : Store.upon ["cache"] = store
  generalize htemplate : TemplateId.mk .component "a" = template
  obtain ⟨x, y, z, hplace⟩ : ∃ x y z, store.place template = ["cache", "views", x, y, z] := by
    rw [← hstore]
    exact ⟨_, _, _, rfl⟩
  have hlisted := file?_listed (hplace ▸ List.cons_ne_nil _ _)
  have hentry : (listed (store.place template)).file? (store.place template)
      = some ⟨encodeText "[1]", .zero false⟩ := by
    rw [hlisted, if_pos rfl]
  have hfile : Sources.sourceFile ⟨[(.component, ["site"])], ".html"⟩
      (listed (store.place template)) template = .ok ⟨encodeText "new", .zero false⟩ := by
    refine Sources.sourceFile_eq_ok_iff.mpr ⟨["site", "a.html"], ?_, ?_⟩
    · rw [← htemplate]
      decide +kernel
    · rw [hlisted, hplace]
      rfl
  have hway : ∀ above ∈ FileTree.wayTo (store.place template).dropLast,
      (listed (store.place template)).file? above = none := by
    rw [hplace]
    intro above habove
    change above ∈ [["cache"], ["cache", "views"], ["cache", "views", x],
      ["cache", "views", x, y]] at habove
    simp only [List.mem_cons, List.not_mem_nil, or_false] at habove
    rw [file?_listed (List.cons_ne_nil _ _)]
    rcases habove with rfl | rfl | rfl | rfl <;> simp
  have hfits : (Directive.Document.text "new".toList).Fits "mky".toList
      Directive.standardRules := by decide
  have hcompile : Directive.compile "mky".toList Directive.standardRules "new".toList
      = .ok "new".toList :=
    Directive.compile_of_reads (Directive.pieces_source (by decide) (by decide) hfits)
      (Directive.reads_parts (by decide) hfits) (Directive.balanced_brackets _)
  have htext := Sources.textOf_encodeText "new" (.zero false)
  have hdocument : store.document? (listed (store.place template)) template
      = some (.array [.int 1]) := by
    rw [Store.document?, hentry, ← hstore]
    show (do Json.read? (← decodeText? (encodeText "[1]")).toList) = _
    rw [decodeText?_encodeText]
    rfl
  refine ⟨hfile, htext, hcompile, fun clock => ?_⟩
  exact (resolve_damaged hfile htext hcompile rfl rfl (hstore ▸ rfl) hentry hway).2.1 _
    ⟨_, hdocument, .kind rfl fun members h => by cases h⟩

end Listed

end Cache

end Stencil
