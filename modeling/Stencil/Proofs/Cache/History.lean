import Stencil.Proofs.Engine.Sites

/-! # Histories — what may happen to sources, caches and clocks

    A history is any run of source changes, clock changes, resolves, renders,
    purges and new engines of one configuration over one cache folder, in which
    the time of a source never goes back and a change of its text is later than
    all that the clock and the file have shown so far. -/

namespace Stencil

open Engine

/-! ## Digests without collisions -/

/-- No two of some texts have one digest. -/
def Sha1.CollisionFree (texts : List String) : Prop :=
  ∀ text ∈ texts, ∀ other ∈ texts, Sha1.hex text = Sha1.hex other → text = other

theorem Sha1.CollisionFree.mono {texts others : List String} (h : CollisionFree others)
    (hsubset : texts ⊆ others) : CollisionFree texts :=
  fun text htext other hother => h text (hsubset htext) other (hsubset hother)

/-- One template alone has no collisions. -/
theorem Sha1.CollisionFree.of_forall_eq {templates : List TemplateId} {template : TemplateId}
    (h : ∀ other ∈ templates, other = template) :
    CollisionFree (templates.map TemplateId.key) := by
  intro text htext other hother _
  obtain ⟨first, hfirst, rfl⟩ := List.mem_map.mp htext
  obtain ⟨second, hsecond, rfl⟩ := List.mem_map.mp hother
  rw [h first hfirst, h second hsecond]

/-- Of templates whose keys have no collisions, two of one digest are one. -/
theorem Sha1.CollisionFree.eq {templates : List TemplateId}
    (h : CollisionFree (templates.map TemplateId.key)) {template other : TemplateId}
    (htemplate : template ∈ templates) (hother : other ∈ templates)
    (hkey : other.cacheKey = template.cacheKey) : other = template :=
  TemplateId.key_injective
    (h _ (List.mem_map_of_mem hother) _ (List.mem_map_of_mem htemplate) hkey)

/-! ## Histories -/

/-- What a history has shown: the versions of each file with the latest first, also after it was
    removed, all that was read off the clock, and the templates that were ever in a memory. -/
structure Past where
  versions : Location → List File
  readings : List Binary64
  kept : List TemplateId

namespace Past

/-- The past of a world in which nothing has happened. -/
def start (world : World) : Past where
  versions place := (world.host.files.file? place).toList
  readings := []
  kept := []

/-- The times that a file has had. -/
def times (past : Past) (place : Location) : List Binary64 :=
  (past.versions place).map File.changed

/-- Whether a file may be written now: not earlier than it was, and if its text changes, later than
    every reading of the clock and every time it has had. -/
def Admits (past : Past) (place : Location) (file : File) : Prop :=
  ∀ last ∈ (past.versions place).head?, last.changed.le file.changed = true
    ∧ (Sources.textOf last ≠ Sources.textOf file →
      ∀ moment ∈ past.readings ++ past.times place, file.changed.le moment = false)

/-- The past with one more version of a file. -/
def wrote (past : Past) (place : Location) (file : File) : Past :=
  { past with versions := fun other =>
      if other = place then file :: past.versions other else past.versions other }

theorem versions_wrote (past : Past) (place : Location) (file : File) :
    (past.wrote place file).versions place = file :: past.versions place :=
  if_pos rfl

/-- Whether the clock was read between two worlds: something was compiled, and not only the source
    that did not compile. -/
def readsClock (world next : World) (refused : Bool) : Bool :=
  world.host.compiles + refused.toNat < next.host.compiles

/-- The past after a computation that led from one world to another. -/
def after (past : Past) (world next : World) (refused : Bool) : Past where
  versions := past.versions
  readings := if readsClock world next refused then world.host.clock :: past.readings
    else past.readings
  kept := next.kept ++ past.kept

/-- The past after a computation in a world. -/
def run {α : Type} (past : Past) (x : Engine α) (world : World) : Past :=
  past.after world (on x world).2 (isRefused (on x world).1)

end Past

/-- The histories of one configuration over a cache folder, with what they have shown and the
    worlds they lead to.  A touch writes the bytes that are there. -/
inductive History [Substrate] [FileSystem] (setup : Setup) (dir : Location) : Past → World → Prop
  | start {world : World} (hsites : world.sites = [])
      (hempty : ∀ place, dir.isWithin place → world.host.files.file? place = none)
      (htimes : ∀ place file, world.host.files.file? place = some file → file.changed.IsCanonical)
      (hclock : world.host.clock.IsCanonical) : History setup dir (.start world) world
  | write {past : Past} {world : World} (place : Location) (file : File) {files : FileTree}
      (hplace : dir.isWithin place = false) (hadmits : past.Admits place file)
      (htime : file.changed.IsCanonical)
      (hfiles : ∀ there, files.file? there
        = if there = place then some file else world.host.files.file? there)
      (h : History setup dir past world) :
      History setup dir (past.wrote place file) (world.withFiles files)
  | remove {past : Past} {world : World} (place : Location) (h : History setup dir past world) :
      History setup dir past (world.withFiles (world.host.files.remove place))
  | tick {past : Past} {world : World} (clock : Binary64) (hclock : clock.IsCanonical)
      (h : History setup dir past world) :
      History setup dir past { world with host := { world.host with clock } }
  | resolve {past : Past} {world : World} (site : Nat) (template : TemplateId)
      (h : History setup dir past world) :
      History setup dir (past.run (resolve site template) world)
        (on (resolve site template) world).2
  | render {past : Past} {world : World} (handle : Handle) (h : History setup dir past world) :
      History setup dir (past.run (render handle) world) (on (render handle) world).2
  | purge {past : Past} {world : World} (site : Nat) (h : History setup dir past world) :
      History setup dir past (on (purge site) world).2
  | construct {past : Past} {world : World} (h : History setup dir past world) :
      History setup dir past (on (openSite setup) world).2
  | arrange {past : Past} {world : World} (components : List Component) (views : List View)
      (streams : List (List Value)) (h : History setup dir past world) :
      History setup dir past { world with components, views, streams }

/-! ## Roots apart from the cache folder -/

/-- Whether the roots of sources and a folder do not contain one another. -/
def Sources.Apart (sources : Sources) (dir : Location) : Prop :=
  ∀ entry ∈ sources.roots, entry.2.isWithin dir = false ∧ dir.isWithin entry.2 = false

/-- A place below a root never lies in a folder that is apart from the roots. -/
theorem Sources.Apart.isWithin_eq_false {sources : Sources} {dir : Location}
    (h : sources.Apart dir) {role : Role} {root place : Location}
    (hroot : sources.root? role = some root) (hwithin : root.isWithin place = true) :
    dir.isWithin place = false := by
  obtain ⟨houter, hinner⟩ := h _ (mem_of_lookup hroot)
  by_contra hdir
  rw [Bool.not_eq_false] at hdir
  -- of two folders that one place lies in, one lies in the other
  have hroot := List.isPrefixOf_iff_prefix.mp hwithin
  have hfolder := List.isPrefixOf_iff_prefix.mp hdir
  rcases List.prefix_or_prefix_of_prefix hroot hfolder with hprefix | hprefix
  · exact Bool.false_ne_true (houter.symm.trans (List.isPrefixOf_iff_prefix.mpr hprefix))
  · exact Bool.false_ne_true (hinner.symm.trans (List.isPrefixOf_iff_prefix.mpr hprefix))

/-- A source never lies in a folder that is apart from the roots. -/
theorem Sources.Apart.locate [FileSystem] {sources : Sources} {dir : Location}
    (h : sources.Apart dir) {template : TemplateId} {place : Location}
    (hlocate : sources.locate template = .ok place) : dir.isWithin place = false := by
  obtain ⟨root, hroot, hwithin⟩ := Sources.root_of_locate hlocate
  exact h.isWithin_eq_false hroot hwithin

/-- What is the same beside a folder apart from the roots is the same below every root. -/
theorem Sources.Apart.agreeFor {sources : Sources} {dir : Location} (h : sources.Apart dir)
    {tree other : FileTree} (hbeside : tree.AgreeBeside dir other) (template : TemplateId) :
    sources.AgreeFor template tree other := by
  intro root hroot place hwithin
  refine hbeside place (h.isWithin_eq_false hroot hwithin) ?_
  -- a root that has the place above the folder would have the folder too
  by_contra hbelow
  rw [Bool.not_eq_false] at hbelow
  have hprefix :=
    (List.isPrefixOf_iff_prefix.mp hwithin).trans (List.isPrefixOf_iff_prefix.mp hbelow)
  exact Bool.false_ne_true
    ((h _ (mem_of_lookup hroot)).1.symm.trans (List.isPrefixOf_iff_prefix.mpr hprefix))

/-- Whether the roots of a configuration and a folder do not contain one another. -/
def Setup.Apart (setup : Setup) (dir : Location) : Prop :=
  setup.sources.Apart dir

/-- A configuration with one root and a cache folder apart from it. -/
def Setup.small : Setup := ⟨[(.component, ["site"])], ".html", "mky", some ["cache"], false⟩

theorem Setup.small_apart : small.Apart ["cache"] := by
  rw [Apart, Sources.Apart]
  decide

/-- A machine with one link, which leads to a folder at the top. -/
@[reducible] def FileSystem.shortcut : FileSystem where
  links := [(["link"], "cache")]
  nodup := List.nodup_singleton _

/-- A tree with that folder, and nothing in it. -/
def FileTree.bare : FileTree := ⟨[(["cache"], .folder)]⟩

/-- A world with nothing in it. -/
def World.blank : World := ⟨⟨.empty, .zero false, 0, 0⟩, none, [], [], [], []⟩

theorem World.file?_blank (place : Location) : blank.host.files.file? place = none := by
  cases place <;> rfl

end Stencil
