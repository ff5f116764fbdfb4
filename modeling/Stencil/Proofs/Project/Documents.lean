import Stencil.Project
import Stencil.Proofs.Cache.Resolve
import Stencil.Yaml.Meaning

/-! # Documents — what a configuration or a data file may hold

    Both are read in one way, and what they hold must be a mapping.  An empty
    document counts as an empty mapping.  The default for it stands before the
    test for a mapping and asks only whether a value counts as true, so that every
    other value that counts as false passes as an empty mapping too: a plain
    `false`, a zero, an empty text, an empty list.

    Headline: `loadData_document`. -/

namespace Stencil

/-! ## Values that count as false -/

/-- A value that counts as false and is no mapping. -/
inductive Value.IsVoid : Value → Prop
  | null : IsVoid .null
  | denial : IsVoid (.bool false)
  | zero : IsVoid (.int 0)
  | realZero {x : Binary64} : x.isZero = true → IsVoid (.real x)
  | text : IsVoid (.text "")
  | safe : IsVoid (.safe "")
  | bytes : IsVoid (.bytes [])
  | list : IsVoid (.list [])
  | tuple : IsVoid (.tuple [])
  | row (typeName shown : String) : IsVoid (.row typeName shown none [])
  | set : IsVoid (.set [])
  | absent (absence : Absence) : IsVoid (.absent absence)

namespace Value

/-- Only a void value and the empty mapping count as false. -/
theorem isVoid_or_of_isTrue {v : Value} (h : v.isTrue = false) : v.IsVoid ∨ v = .map [] := by
  cases v with
  | null => exact .inl .null
  | bool b =>
      cases b with
      | false => exact .inl .denial
      | true => cases h
  | int i =>
      obtain rfl : i = 0 := by simpa [isTrue] using h
      exact .inl .zero
  | real x => exact .inl (.realZero (by simpa [isTrue] using h))
  | text s =>
      obtain rfl : s = "" := by simpa [isTrue] using h
      exact .inl .text
  | safe s =>
      obtain rfl : s = "" := by simpa [isTrue] using h
      exact .inl .safe
  | bytes b =>
      obtain rfl : b = [] := by simpa [isTrue] using h
      exact .inl .bytes
  | list items =>
      obtain rfl : items = [] := by simpa [isTrue] using h
      exact .inl .list
  | tuple items =>
      obtain rfl : items = [] := by simpa [isTrue] using h
      exact .inl .tuple
  | set items =>
      obtain rfl : items = [] := by simpa [isTrue] using h
      exact .inl .set
  | row typeName shown refusal items =>
      obtain ⟨rfl, rfl⟩ : refusal = none ∧ items = [] := by simpa [isTrue] using h
      exact .inl (.row typeName shown)
  | map entries =>
      obtain rfl : entries = [] := by simpa [isTrue] using h
      exact .inr rfl
  | absent absence => exact .inl (.absent absence)
  | _ => cases h

theorem IsVoid.isTrue {v : Value} (h : v.IsVoid) : v.isTrue = false := by
  cases h with
  | realZero hzero => simp [Value.isTrue, hzero]
  | _ => rfl

/-- What a document comes to as a mapping: itself, or, if it is void, the empty mapping. -/
inductive CountsAs : Value → Value → Prop
  | mapping (entries : List (Value × Value)) : CountsAs (.map entries) (.map entries)
  | void {v : Value} : v.IsVoid → CountsAs v (.map [])

end Value

/-! ## Documents -/

theorem mappingOf_of_countsAs {v data : Value} (h : v.CountsAs data) (path : String) :
    mappingOf path v = .ok data := by
  cases h with
  | mapping entries => cases entries <;> rfl
  | void hvoid =>
      simp only [mappingOf, hvoid.isTrue]
      rfl

theorem mappingOf_of_not_countsAs {v : Value} (h : ∀ data, ¬ v.CountsAs data) (path : String) :
    mappingOf path v = .error (.config (.notMapping path)) := by
  cases htrue : v.isTrue with
  | false =>
      rcases Value.isVoid_or_of_isTrue htrue with hvoid | rfl
      · exact absurd (.void hvoid) (h _)
      · exact absurd (.mapping []) (h _)
  | true =>
      simp only [mappingOf, htrue]
      cases v with
      | map entries => exact absurd (.mapping entries) (h _)
      | _ => rfl

/-- A document is taken for what it counts as, and for nothing else. -/
theorem mappingOf_eq_ok_iff {v data : Value} {path : String} :
    mappingOf path v = .ok data ↔ v.CountsAs data := by
  constructor
  · intro h
    by_cases hcounts : ∃ other, v.CountsAs other
    · obtain ⟨other, hother⟩ := hcounts
      rw [mappingOf_of_countsAs hother] at h
      exact Except.ok.inj h ▸ hother
    · rw [mappingOf_of_not_countsAs (not_exists.mp hcounts)] at h
      cases h
  · intro h
    exact mappingOf_of_countsAs h path

/-- A document is refused, as no mapping, exactly if it counts as none. -/
theorem mappingOf_eq_error_iff {v : Value} {path : String} {fault : Fault} :
    mappingOf path v = .error fault
      ↔ fault = .config (.notMapping path) ∧ ∀ data, ¬ v.CountsAs data := by
  constructor
  · intro h
    have hnone : ∀ data, ¬ v.CountsAs data := by
      intro data hdata
      rw [mappingOf_of_countsAs hdata] at h
      cases h
    rw [mappingOf_of_not_countsAs hnone] at h
    exact ⟨(Except.error.inj h).symm, hnone⟩
  · rintro ⟨rfl, hnone⟩
    exact mappingOf_of_not_countsAs hnone path

/-! ## Files -/

section Loading

variable [YamlLoader] [FileSystem] {tree : FileTree} {place : Location} {file : File}
  {text : List Char}
  {v : Value}

omit [FileSystem] in
/-- What a file that can be read and parsed holds is asked whether it is a mapping. -/
theorem readMapping_of_read (hfile : tree.file? place = some file)
    (htext : Sources.textOf file = .ok text) (hread : YamlLoader.load text = .ok v)
    (path : String) :
    readMapping tree place path = mappingOf path v := by
  simp only [readMapping, hfile, htext, hread, Except.mapError, bind, Except.bind]

omit [FileSystem] in
theorem loadSettings_of_file (hfile : tree.file? place = some file) :
    loadSettings tree place = readMapping tree place place.text := by
  have hthere : tree.isFile place = true := by rw [FileTree.isFile, hfile]; rfl
  rw [loadSettings, hthere]
  rfl

omit [FileSystem] in
theorem loadData_of_file (hfile : tree.file? place = some file) (path : String) :
    loadData tree place path = readMapping tree place path := by
  rw [loadData, FileTree.isFile, hfile]
  rfl

/-- **Which documents are accepted.**  Whatever a document holds, it is accepted exactly if it is a
    mapping, which is then what is loaded, or counts as false, which is loaded as an empty mapping;
    every other document is refused with the error that it is no mapping.  So it is for the data and
    for the settings of a configuration, in every file that can be read and parsed, whatever parses
    it. -/
theorem loadData_document (hfile : tree.file? place = some file)
    (htext : Sources.textOf file = .ok text) (hread : YamlLoader.load text = .ok v) :
    (∀ path document,
      (∀ data, mappingOf path document = .ok data ↔ document.CountsAs data)
        ∧ ∀ fault, mappingOf path document = .error fault
          ↔ fault = .config (.notMapping path) ∧ ∀ data, ¬ document.CountsAs data)
      ∧ (∀ path,
        (∀ data, loadData tree place path = .ok data ↔ v.CountsAs data)
          ∧ ∀ fault, loadData tree place path = .error fault
            ↔ fault = .config (.notMapping path) ∧ ∀ data, ¬ v.CountsAs data)
      ∧ ∀ dir, settingsPlace dir = .ok place →
        (∀ data, v.CountsAs data → loadConfig tree dir = Config.ofValue data place.dropLast)
          ∧ ((∀ data, ¬ v.CountsAs data) →
            loadConfig tree dir = .error (.config (.notMapping place.text))) := by
  have hmapping : ∀ path, readMapping tree place path = mappingOf path v :=
    readMapping_of_read hfile htext hread
  refine ⟨?_, ?_, ?_⟩
  · intro path document
    exact ⟨fun _ => mappingOf_eq_ok_iff, fun _ => mappingOf_eq_error_iff⟩
  · intro path
    rw [loadData_of_file hfile, hmapping]
    exact ⟨fun _ => mappingOf_eq_ok_iff, fun _ => mappingOf_eq_error_iff⟩
  · intro dir hplace
    have hsettings : loadSettings tree place = mappingOf place.text v :=
      (loadSettings_of_file hfile).trans (hmapping _)
    constructor
    · intro data hcounts
      rw [loadConfig, hplace]
      simp only [bind, Except.bind, hsettings, mappingOf_of_countsAs hcounts]
    · intro hnone
      rw [loadConfig, hplace]
      simp only [bind, Except.bind, hsettings, mappingOf_of_not_countsAs hnone]

end Loading

section Witness

attribute [local instance] Yaml.usual FileSystem.plain

/-- A tree whose configuration is a zero, and whose data file holds a list of a text. -/
def FileTree.misfiled : FileTree :=
  ⟨[(["site", "mky.yaml"], .file ⟨encodeText "0", .zero false⟩),
    (["site", "data.yaml"], .file ⟨encodeText "[\"\"]", .zero false⟩)]⟩

/-- The zero is taken for an empty mapping, so that all settings have their defaults, and the list
    is refused. -/
theorem loadData_document_misfiled :
    loadConfig .misfiled ["site"] = Config.ofValue (.map []) ["site"]
      ∧ loadData .misfiled ["site", "data.yaml"] "data.yaml"
        = .error (.config (.notMapping "data.yaml")) := by
  have hsettings : FileTree.misfiled.file? ["site", "mky.yaml"]
      = some ⟨encodeText "0", .zero false⟩ := rfl
  have hdata : FileTree.misfiled.file? ["site", "data.yaml"]
      = some ⟨encodeText "[\"\"]", .zero false⟩ := rfl
  have hreadZero : YamlLoader.load (Text.unifyLines "0".toList) = .ok (.int 0) := rfl
  have hreadList : YamlLoader.load (Text.unifyLines "[\"\"]".toList) = .ok (.list [.text ""]) := rfl
  have hzero := loadData_document hsettings (Sources.textOf_encodeText "0" _) hreadZero
  have hlist := loadData_document hdata (Sources.textOf_encodeText "[\"\"]" _) hreadList
  refine ⟨(hzero.2.2 ["site"] rfl).1 _ (.void .zero), ((hlist.2.1 _).2 _).mpr ⟨rfl, ?_⟩⟩
  intro data hdata
  cases hdata with
  | void hvoid => cases hvoid

end Witness

end Stencil
