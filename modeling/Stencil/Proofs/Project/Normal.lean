import Stencil.Proofs.Files.Links
import Stencil.Proofs.Project.Settings

/-! # Normal settings — a configuration written out and read again

    Settings may leave out what has a default, write paths from where they stand
    and with detours, and write an extension without its dot.  The configuration
    they come to keeps none of these freedoms: its directories are places of the
    file system, which are written out from the root, and its extension has its
    dot (`isNormal_of_ofValue`).  Settings that say just what a normal
    configuration says are read as that configuration, from whatever directory
    their paths are walked (`ofValue_toValue`).  Paths are taken without links.

    Headline: `ofValue_normalises`. -/

namespace Stencil.Config

open Directive (bind_eq_ok_iff)
open Location (IsPlace IsDirect)

/-- The directories that a configuration names. -/
def places (config : Config) : List Location :=
  Role.all.map config.directory ++ config.cache.toList

/-- A configuration of places of the file system and of an extension with its dot. -/
structure IsNormal (config : Config) : Prop where
  places : ∀ place ∈ config.places, IsPlace place
  extension : config.extension.toList.head? = some '.'

section Theory

variable [FileSystem] {entries : List (Value × Value)} {base : Location} {config : Config}

/-! ## What settings come to -/

/-- The settings of a configuration are read one by one. -/
theorem ofValue_eq_ok_iff {data : Value} :
    ofValue data base = .ok config
      ↔ ∃ entries, entriesOf data = .ok entries
        ∧ (∀ role, directoryOf entries base role = .ok (config.directory role))
        ∧ extensionOf entries = .ok config.extension
        ∧ cacheOf entries base = .ok config.cache
        ∧ strictOf entries = .ok config.strict
        ∧ namespaceOf entries = .ok config.ns := by
  constructor
  · intro h
    obtain ⟨entries, hentries, h⟩ := bind_eq_ok_iff.mp h
    obtain ⟨layouts, hlayouts, h⟩ := bind_eq_ok_iff.mp h
    obtain ⟨views, hviews, h⟩ := bind_eq_ok_iff.mp h
    obtain ⟨components, hcomponents, h⟩ := bind_eq_ok_iff.mp h
    obtain ⟨extension, hextension, h⟩ := bind_eq_ok_iff.mp h
    obtain ⟨cache, hcache, h⟩ := bind_eq_ok_iff.mp h
    obtain ⟨strict, hstrict, h⟩ := bind_eq_ok_iff.mp h
    obtain ⟨ns, hns, h⟩ := bind_eq_ok_iff.mp h
    obtain rfl := Except.ok.inj h
    refine ⟨entries, hentries, fun role => ?_, hextension, hcache, hstrict, hns⟩
    cases role with
    | layout => exact hlayouts
    | view => exact hviews
    | component => exact hcomponents
  · rintro ⟨entries, hentries, hdirectories, hextension, hcache, hstrict, hns⟩
    exact bind_eq_ok_iff.mpr ⟨_, hentries,
      bind_eq_ok_iff.mpr ⟨_, hdirectories .layout,
      bind_eq_ok_iff.mpr ⟨_, hdirectories .view,
      bind_eq_ok_iff.mpr ⟨_, hdirectories .component,
      bind_eq_ok_iff.mpr ⟨_, hextension,
      bind_eq_ok_iff.mpr ⟨_, hcache,
      bind_eq_ok_iff.mpr ⟨_, hstrict,
      bind_eq_ok_iff.mpr ⟨_, hns, rfl⟩⟩⟩⟩⟩⟩⟩⟩

/-- Without links a path leads where it is walked. -/
theorem placeOf_eq_ok_iff (hlinks : FileSystem.links = []) {path : String} {place : Location} :
    placeOf base path = .ok place ↔ '\x00' ∉ path.toList ∧ place = base.walk path := by
  rw [placeOf, Location.follow?_of_links_eq_nil hlinks]
  by_cases hnull : '\x00' ∈ path.toList
  · simp [hnull]
  · simp [hnull, eq_comm]

/-- A directory of a role is walked to from the base. -/
theorem isPlace_of_directoryOf (hlinks : FileSystem.links = []) (hbase : IsPlace base) {role : Role}
    {place : Location}
    (h : directoryOf entries base role = .ok place) : IsPlace place := by
  simp only [directoryOf] at h
  split at h
  · split at h
    · cases h
    · obtain ⟨hnull, rfl⟩ := (placeOf_eq_ok_iff hlinks).mp h
      exact Location.isPlace_walk hbase hnull
  · cases h

/-- The cache directory, if there is one, is walked to from the base. -/
theorem isPlace_of_cacheOf (hlinks : FileSystem.links = []) (hbase : IsPlace base)
    {place : Location}
    (h : cacheOf entries base = .ok (some place)) : IsPlace place := by
  simp only [cacheOf] at h
  split at h
  · obtain ⟨path, -, h⟩ := bind_eq_ok_iff.mp h
    obtain ⟨found, hfound, h⟩ := bind_eq_ok_iff.mp h
    obtain rfl : found = place := Option.some.inj (Except.ok.inj h)
    obtain ⟨hnull, rfl⟩ := (placeOf_eq_ok_iff hlinks).mp hfound
    exact Location.isPlace_walk hbase hnull
  · cases h

omit [FileSystem] in
/-- An extension gets its dot. -/
theorem head?_dotted (extension : String) : (dotted extension).toList.head? = some '.' := by
  rw [dotted]
  split
  · next hdot => exact beq_iff_eq.mp hdot
  · rw [String.toList_append]
    rfl

/-- What settings come to is normal. -/
theorem isNormal_of_ofValue (hlinks : FileSystem.links = []) {data : Value}
    (hbase : IsPlace base) (h : ofValue data base = .ok config) : config.IsNormal := by
  obtain ⟨entries, -, hdirectories, hextension, hcache, -, -⟩ := ofValue_eq_ok_iff.mp h
  constructor
  case places =>
    intro place hplace
    rcases List.mem_append.mp hplace with hrole | hmem
    · obtain ⟨role, -, rfl⟩ := List.mem_map.mp hrole
      exact isPlace_of_directoryOf hlinks hbase (hdirectories role)
    · rw [Option.mem_toList] at hmem
      exact isPlace_of_cacheOf hlinks hbase (hcache.trans (congrArg Except.ok hmem))
  case extension =>
    obtain ⟨written, -, hdotted⟩ := bind_eq_ok_iff.mp hextension
    rw [← Except.ok.inj hdotted]
    exact head?_dotted written

/-! ## What a normal configuration is read as -/

omit [FileSystem] in
/-- An extension that has its dot stays. -/
theorem dotted_of_head? {extension : String} (h : extension.toList.head? = some '.') :
    dotted extension = extension := by
  rw [dotted, h, if_pos (beq_self_eq_true _)]

/-- A place that was written out is found from every base. -/
theorem placeOf_text (hlinks : FileSystem.links = []) {place : Location} (h : IsPlace place)
    (base : Location) : placeOf base place.text = .ok place := by
  refine (placeOf_eq_ok_iff hlinks).mpr ⟨Location.null_notMem_text h, ?_⟩
  exact (Location.walk_text (fun name hname => (h name hname).1) base).symm

omit [FileSystem] in
/-- A written location is not blank. -/
theorem allBlank_text (place : Location) : Text.allBlank place.text.toList = false := by
  obtain ⟨rest, hrest⟩ := List.head?_eq_some_iff.mp (Location.head?_text place)
  rw [hrest]
  rfl

omit [FileSystem] in
/-- A written location counts as true. -/
theorem isTrue_text (place : Location) : (Value.text place.text).isTrue = true := by
  obtain ⟨rest, hrest⟩ := List.head?_eq_some_iff.mp (Location.head?_text place)
  have hne : place.text ≠ "" := by
    intro hempty
    rw [hempty] at hrest
    cases hrest
  simpa [Value.isTrue] using hne

/-- Settings that say what a configuration says. -/
structure Says (entries : List (Value × Value)) (config : Config) : Prop where
  known : ∀ entry ∈ entries, ∃ text ∈ knownKeys, entry.1.text? = some text
  directory : ∀ role, setting entries (directoryKey role) (.text (directoryKey role))
    = .text (config.directory role).text
  extension : setting entries "extension" (.text defaultExtension) = .text config.extension
  cache : setting entries "cache" .null
    = (config.cache.map fun place => Value.text place.text).getD .null
  strict : setting entries "strict" (.bool true) = .bool config.strict
  ns : setting entries "namespace" (.text defaultNamespace) = .text config.ns

omit [FileSystem] in
/-- A configuration's own settings say what it says. -/
theorem says_toValue (config : Config) :
    ∃ entries, config.toValue = .map entries ∧ Says entries config := by
  refine ⟨_, rfl, ?_⟩
  constructor
  case known => simp [knownKeys, Role.all, directoryKey, Value.text?]
  case directory =>
    intro role
    cases role <;> simp [setting, directoryKey, directory, Value.entry?, Value.same, Value.text?]
  case cache | extension | strict | ns =>
    simp [setting, Value.entry?, Value.same, Value.text?]

/-- **Normal configurations are fixed points.**  What a normal configuration says is read as that
    configuration, whatever directory its paths are walked from. -/
theorem ofValue_toValue (hlinks : FileSystem.links = []) (h : config.IsNormal)
    (base : Location) : ofValue config.toValue base = .ok config := by
  obtain ⟨entries, hvalue, hsays⟩ := says_toValue config
  have hrole (role : Role) : IsPlace (config.directory role) := by
    refine h.places _ (List.mem_append_left _ (List.mem_map_of_mem ?_))
    cases role <;> decide
  refine ofValue_eq_ok_iff.mpr
    ⟨entries, hvalue ▸ entriesOf_of_known hsays.known, ?_, ?_, ?_, ?_, ?_⟩
  · intro role
    rw [directoryOf, hsays.directory]
    show (if Text.allBlank _ then _ else placeOf base _) = _
    rw [if_neg (by simp [allBlank_text])]
    exact placeOf_text hlinks (hrole role) base
  · rw [extensionOf, hsays.extension]
    exact congrArg Except.ok (dotted_of_head? h.extension)
  · rw [cacheOf, hsays.cache]
    cases hcache : config.cache with
    | none => rfl
    | some place =>
        have hplace : IsPlace place :=
          h.places place (List.mem_append_right _ (by rw [hcache]; exact List.mem_singleton_self _))
        show (if (Value.text place.text).isTrue then _ else _) = _
        rw [if_pos (isTrue_text place)]
        exact bind_eq_ok_iff.mpr
          ⟨_, rfl, bind_eq_ok_iff.mpr ⟨_, placeOf_text hlinks hplace base, rfl⟩⟩
  · rw [strictOf, hsays.strict]
  · rw [namespaceOf, hsays.ns]
    rfl

/-- **Settings are normalised once.**  Where there are no links, whatever settings are accepted, and
    whatever path from the root leads to where their own paths are walked from: the directories of
    the configuration they come to are written from the root and without detours, its extension has
    its dot, and its own settings are read as the same configuration again, from there and from
    everywhere else. -/
theorem ofValue_normalises (hlinks : FileSystem.links = []) {data : Value} {path : String}
    (hpath : '\x00' ∉ path.toList) (h : ofValue data (Location.walk [] path) = .ok config) :
    (∀ place ∈ config.places, IsDirect place.text)
      ∧ config.extension.toList.head? = some '.'
      ∧ ∀ other, ofValue config.toValue other = .ok config := by
  have hroot : IsPlace [] := List.forall_mem_nil _
  have hnormal := isNormal_of_ofValue hlinks (Location.isPlace_walk hroot hpath) h
  exact ⟨fun place hplace => Location.isDirect_text (hnormal.places place hplace),
    hnormal.extension, ofValue_toValue hlinks hnormal⟩

end Theory

section Witness

attribute [local instance] FileSystem.plain

/-- Settings with detours, without a dot, and with a truth value in the place of a path. -/
def roundabout : Value :=
  .map [(.text "views", .text "/pages/old//.."), (.text "layouts", .text "../shared/./frames"),
    (.text "extension", .text "tpl"), (.text "cache", .bool true), (.text "strict", .bool false)]

/-- What the settings come to in a folder. -/
def direct : Config where
  layouts := ["shared", "frames"]
  views := ["pages"]
  components := ["site", "components"]
  extension := ".tpl"
  ns := "mky"
  cache := some ["site", "True"]
  strict := false

/-- What is read in a folder that is reached by a detour, and read again, stays. -/
theorem ofValue_normalises_roundabout :
    '\x00' ∉ "/old/../site".toList
      ∧ ofValue roundabout (Location.walk [] "/old/../site") = .ok direct
      ∧ (∀ place ∈ direct.places, IsDirect place.text)
      ∧ direct.extension.toList.head? = some '.'
      ∧ ∀ other, ofValue direct.toValue other = .ok direct := by
  have hpath : '\x00' ∉ "/old/../site".toList := by decide
  have h : ofValue roundabout (Location.walk [] "/old/../site") = .ok direct := by decide +kernel
  exact ⟨hpath, h, ofValue_normalises rfl hpath h⟩

end Witness

end Stencil.Config
