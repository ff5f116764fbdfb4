import Stencil.Proofs.Cache.Permanence

/-! # Naming — which template an artifact says it is for

    An artifact that is compiled says it is for the template that was asked for.
    One that is read from a folder says what the key in its entry reads back as,
    which drops the blanks around the template's name.  A memory keeps what it got,
    so an engine answers with the template itself or without those blanks, as the
    artifact came to it, and always with the template if there are none.

    Headline: `resolve_template`. -/

namespace Stencil

open Engine

/-- A template reads back from its key if and only if there are no blanks around its name. -/
theorem TemplateId.reread_eq_iff {t : TemplateId} :
    t.reread = t ↔ Text.strip t.name.toList = t.name.toList := by
  obtain ⟨role, name⟩ := t
  rw [reread, mk.injEq, ← String.toList_inj, String.toList_ofList]
  exact and_iff_right rfl

variable {dirs : List Location} {kept : List TemplateId} {world : World} {i : Nat}
  {template : TemplateId} {artifact : Artifact}

/-- What an entry in a memory says is the template, or what its key reads back as, if no two
    templates have one digest. -/
theorem Entry.Tended.template_cases {entry : Entry} (h : entry.Tended kept template)
    (hcollision : Sha1.CollisionFree ((template :: kept).map TemplateId.key)) :
    entry.artifact.template = template ∨ entry.artifact.template = template.reread := by
  refine h.template.imp_right ?_
  rintro ⟨written, hwritten, hkey, hread⟩
  rw [hread, hcollision.eq List.mem_cons_self (List.mem_cons_of_mem _ hwritten) hkey]

/-- **Naming**: in every world that is reached, the artifact of a template says that it is for the
    template or for what the template's key reads back as, which is the same if there are no blanks
    around the name.  If the template has to be compiled it is the former; if it has not and the
    artifact was not in memory, it is the latter. -/
theorem resolve_template [Substrate] [FileSystem] (reached : World.Reached dirs kept world)
    (hcollision : Sha1.CollisionFree ((template :: kept).map TemplateId.key))
    (hok : (on (resolve i template) world).1 = .ok artifact) :
    (artifact.template = template ∨ artifact.template = template.reread)
      ∧ (Text.strip template.name.toList = template.name.toList → artifact.template = template)
      ∧ (world.MustCompile i template → artifact.template = template)
      ∧ (¬ world.MustCompile i template → ¬ world.Remembers i template artifact →
        artifact.template = template.reread) := by
  have htended := reached.tended
  obtain ⟨hmust, hmustNot⟩ := htended.compiles i template
  obtain ⟨result, hresult, hrun⟩ := on_resolve i template world
  rw [hrun] at hok hmust hmustNot
  have hblank : (artifact.template = template ∨ artifact.template = template.reread) →
      Text.strip template.name.toList = template.name.toList → artifact.template = template := by
    rintro (hsame | hread) hname
    · exact hsame
    · rw [hread, TemplateId.reread_eq_iff.mpr hname]
  cases hresult with
  | @fresh file entry hfile hentry hfresh =>
      obtain rfl := Except.ok.inj hok
      have hheld := (htended.cache i).memory _ (Table.mem_of_get? hentry)
      have hremembers : world.Remembers i template entry.artifact := by
        rw [World.Remembers, hentry, ← hheld.time]
      have htemplate := hheld.template_cases hcollision
      exact ⟨htemplate, hblank htemplate, fun h => absurd (hmust h) (Nat.ne_add_one _),
        fun _ h => absurd hremembers h⟩
  | @stored file store found hfile hstale hsome hfind hfresh =>
      obtain rfl := Except.ok.inj hok
      have hread : found.template = template.reread := by
        rcases htended.host.find ((htended.cache i).store _ hsome) template with hnone
          | ⟨written, hwritten, code, storedAt, hkey, hfound⟩
        · cases hfind.symm.trans hnone
        · cases hfind.symm.trans hfound
          rw [hcollision.eq List.mem_cons_self (List.mem_cons_of_mem _ hwritten) hkey]
      exact ⟨.inr hread, hblank (.inr hread), fun h => absurd (hmust h) (Nat.ne_add_one _),
        fun _ _ => hread⟩
  | compiled =>
      obtain rfl := Except.ok.inj hok
      exact ⟨.inl rfl, fun _ => rfl, fun _ => rfl,
        fun h => absurd (hmustNot h) (Nat.succ_ne_self _)⟩
  | _ => cases hok

section Witness

attribute [local instance] Native.usual FileSystem.plain

/-- A template with blanks around its name. -/
def padded : TemplateId :=
  ⟨.component, " a "⟩

/-- An engine over a folder in which another one has kept its artifact of a template with blanks
    around its name. -/
def World.handed : World :=
  (on (openSite Setup.small) (on (resolve 0 padded)
    (on (openSite Setup.small) (World.single "new")).2).2).2

/-- The first engine answers with the template that it was asked for, the second without the
    blanks. -/
theorem resolve_template_padded : ∃ kept artifact, World.Reached [["cache"]] kept World.handed
    ∧ (on (resolve 0 padded) World.handed).1.toOption.map Artifact.template = some padded
    ∧ (on (resolve 1 padded) World.handed).1 = .ok artifact
    ∧ artifact.template ≠ padded ∧ artifact.template = padded.reread := by
  have hcache : ∀ path ∈ Setup.small.cache, Store.folder path ∈ [["cache"]] := by decide
  have hreached := (((World.Reached.single "new").step (.construct hcache)).step
    (.resolve 0 padded)).step (.construct hcache)
  obtain ⟨artifact, hok, htemplate⟩ := exists_of_toOption_map
    (by decide +kernel : (on (resolve 1 padded) World.handed).1.toOption.map Artifact.template
      = some lone)
  have hother : artifact.template ≠ padded := by
    rw [htemplate]
    decide
  have hnamed := resolve_template hreached
    (@Sha1.CollisionFree.of_forall_eq _ padded (by decide +kernel)) hok
  exact ⟨_, artifact, hreached, by decide +kernel, hok, hother, hnamed.1.resolve_left hother⟩

end Witness

end Stencil
