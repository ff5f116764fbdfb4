import Stencil.Cache.Store
import Stencil.Proofs.Files.Tree
import Stencil.Proofs.Json.ReadBack

/-! # Entry files — what a store keeps is what it finds

    The key of a template has its role before the first colon, so it names one
    template, and reads back as that template with the blanks around its name
    dropped.  The document of an entry reads back from its line, its time
    included, so an entry file gives the code and the time it was written with.
    Where entries lie depends on the digests of their keys only.

    Headline: `find_of_bytes`. -/

namespace Stencil

open Text

/-! ## Keys -/

theorem cutAt?_append {separator : Char} {before : List Char} (h : separator ∉ before)
    (after : List Char) :
    cutAt? separator (before ++ separator :: after) = some (before, after) := by
  induction before with
  | nil => simp [cutAt?]
  | cons c before ih =>
      rw [List.mem_cons, not_or] at h
      have hc : (c == separator) = false := beq_eq_false_iff_ne.mpr (Ne.symm h.1)
      rw [List.cons_append, cutAt?, hc, if_neg Bool.false_ne_true, ih h.2]
      rfl

namespace TemplateId

/-- A template as its key reads back: the blanks around its name are dropped. -/
def reread (t : TemplateId) : TemplateId :=
  ⟨t.role, String.ofList (strip t.name.toList)⟩

theorem cutAt?_key (t : TemplateId) :
    cutAt? ':' t.key.toList = some (t.role.name.toList, t.name.toList) := by
  have hcolon : ':' ∉ t.role.name.toList := by
    cases t.role <;> decide
  have hkey : t.key.toList = t.role.name.toList ++ ':' :: t.name.toList := by
    rw [key, String.toList_append, String.toList_append, List.append_assoc]
    rfl
  rw [hkey, cutAt?_append hcolon]

theorem parse_key (t : TemplateId) (role : Role) : parse t.key role = .ok t.reread := by
  have hrole : Role.parse (String.ofList t.role.name.toList) = .ok t.role := by
    cases t.role <;> rfl
  rw [parse, cutAt?_key]
  simp only [hrole]
  rfl

/-- Two templates of one key are one template. -/
theorem key_injective {t u : TemplateId} (h : t.key = u.key) : t = u := by
  have hcut := cutAt?_key t
  rw [h, cutAt?_key u, Option.some.injEq, Prod.mk.injEq] at hcut
  obtain ⟨hrole, hname⟩ := hcut
  -- the names of roles are distinct
  have hroles : u.role = t.role := by
    revert hrole
    cases u.role <;> cases t.role <;> decide
  cases t
  cases u
  rw [TemplateId.mk.injEq]
  exact ⟨hroles.symm, (String.toList_inj.mp hname).symm⟩

end TemplateId

/-! ## Documents of entries -/

namespace Entry

/-- The bytes of the file of an entry. -/
def bytes (template : TemplateId) (code : String) (storedAt now : Binary64) : List UInt8 :=
  encodeText (toJson template code storedAt now).line

/-- The document of an entry is read back from its line. -/
theorem read?_line (template : TemplateId) (code : String) {storedAt : Binary64}
    (h : storedAt.IsCanonical) (now : Binary64) :
    Json.read? (toJson template code storedAt now).line.toList
      = some (toJson template code storedAt now) := by
  have hkeys : (["v", "template", "code", "stored_at", "created_at"] : List String).Nodup := by
    decide
  refine Json.read?_line_object (List.cons_ne_nil _ _) ?_ hkeys
  intro member hmember
  simp only [List.mem_cons, List.not_mem_nil, or_false] at hmember
  rcases hmember with rfl | rfl | rfl | rfl | rfl
  · exact @Json.readsBack_nat 1 (by decide)
  · exact Json.readsBack_text _
  · exact Json.readsBack_text _
  · exact Json.readsBack_real h
  · exact Json.readsBack_text _

/-- The document of an entry says what was stored. -/
theorem ofJson_toJson (template : TemplateId) (code : String) (storedAt now : Binary64) :
    Stored.ofJson (toJson template code storedAt now)
      = .ok (some ⟨template.reread, .text code, storedAt⟩) := by
  have htemplate : Stored.templateOf (toJson template code storedAt now)
      = .ok (some template.reread) := by
    have hmember : (toJson template code storedAt now).member? "template"
        = some (.text template.key) := rfl
    rw [Stored.templateOf, hmember]
    simp only [TemplateId.parse_key]
  have hvoid : Stored.isVoid (toJson template code storedAt now) = false := rfl
  have hversion : (toJson template code storedAt now).member? "v" = some (.int version) := rfl
  have hcurrent : Stored.isCurrent (toJson template code storedAt now) = true := by
    rw [Stored.isCurrent, hversion]
    show Value.same (.int version) (.int version) = true
    rw [Value.same, beq_self_eq_true]
  have hcode : (toJson template code storedAt now).member? "code" = some (.text code) := rfl
  have htime : Stored.timeOf (toJson template code storedAt now) = .ok (some storedAt) := rfl
  unfold Stored.ofJson
  rw [hvoid, hcurrent, htemplate, hcode, htime]
  rfl

end Entry

/-! ## Stores -/

namespace Store

/-- An enabled store in a folder for which no link stands. -/
abbrev upon (dir : Location) : Store := ⟨dir, true, dir, false⟩

theorem place_isWithin (store : Store) (template : TemplateId) :
    store.dir.isWithin (store.place template) := by
  rw [Location.isWithin, List.isPrefixOf_iff_prefix]
  exact List.prefix_append _ _

/-- Entries lie at one place only if the digests of their keys are the same. -/
theorem cacheKey_eq_of_place_eq {store other : Store} {t u : TemplateId}
    (h : store.place t = other.place u) : t.cacheKey = u.cacheKey := by
  rw [place, place] at h
  have hnames := (List.append_inj' h (by simp only [List.length_cons, List.length_nil])).2
  simp only [List.cons.injEq, and_true, String.ofList_toList] at hnames
  have htext := congrArg String.toList hnames.2.2.2
  rw [String.toList_append, String.toList_append] at htext
  exact String.toList_inj.mp (List.append_cancel_right htext)

theorem place_eq_of_cacheKey_eq {store : Store} {t u : TemplateId}
    (h : t.cacheKey = u.cacheKey) : store.place t = store.place u := by
  rw [place, place, h]

theorem length_place (store : Store) (template : TemplateId) :
    (store.place template).length = store.dir.length + 4 :=
  List.length_append

/-- Nothing is found where no file lies. -/
theorem find_of_none {store : Store} {tree : FileTree} {template : TemplateId}
    (h : tree.file? (store.place template) = none) : store.find tree template = .ok none := by
  have hdocument : store.document? tree template = none := by
    rw [document?, h]
    cases store.enabled <;> rfl
  rw [find, hdocument]

theorem find_of_disabled {store : Store} (h : store.enabled = false) (tree : FileTree)
    (template : TemplateId) : store.find tree template = .ok none := by
  have hdocument : store.document? tree template = none := by
    rw [document?, h]
    rfl
  rw [find, hdocument]

/-- What the file of an entry gives when it is asked for a template. -/
theorem find_of_bytes {store : Store} {tree : FileTree} {asked written : TemplateId}
    {code : String} {storedAt now changed : Binary64} (henabled : store.enabled = true)
    (hcanonical : storedAt.IsCanonical)
    (hfile : tree.file? (store.place asked)
      = some ⟨Entry.bytes written code storedAt now, changed⟩) :
    store.find tree asked = .ok (some ⟨written.reread, .text code, storedAt⟩) := by
  have hdocument : store.document? tree asked
      = some (Entry.toJson written code storedAt now) := by
    rw [document?, hfile, henabled]
    show (do Json.read? (← decodeText? (Entry.bytes written code storedAt now)).toList) = _
    rw [Entry.bytes, decodeText?_encodeText, Option.bind_eq_bind, Option.bind_some]
    exact Entry.read?_line written code hcanonical now
  rw [find, hdocument]
  exact Entry.ofJson_toJson written code storedAt now

end Store

end Stencil
