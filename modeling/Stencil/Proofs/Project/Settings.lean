import Stencil.Proofs.Cache.History
import Stencil.Proofs.Directive.Balance
import Stencil.Proofs.Engine.Sites
import Stencil.Proofs.Files.Listing
import Stencil.Proofs.Project.Documents

/-! # Settings — what is wrong with those that make no site

    The settings of a project are checked one after the other: that their keys are
    known, the directories of the three roles, the extension, the cache directory,
    the strictness, and at the end, in the making of the site, the namespace.  What
    the first check that finds something says is what the project fails with.  Some
    of what is found is a fault of the configuration; the rest is a trouble of
    the conversion that the check makes, and of the namespace, and says nothing of
    a configuration.

    Headline: `Engine.openProject_outcome`. -/

namespace Stencil

open Text
open Directive (bind_eq_error_iff)

section Theory

variable [FileSystem]

namespace Config

/-! ## Checks -/

/-- What is checked in settings. -/
inductive Check where
  | keys
  | directory (role : Role)
  | extension
  | cache
  | strict
  | ns

/-- The checks in the order in which they are made. -/
def Check.order : List Check :=
  .keys :: Role.all.map .directory ++ [.extension, .cache, .strict, .ns]

/-- A path that is written from a base cannot be followed. -/
inductive Astray (base : Location) (path : String) : Trouble → Prop
  | null : '\x00' ∈ path.toList → Astray base path (.failure .badValue)
  | endless : '\x00' ∉ path.toList → base.follow? path = none → Astray base path (.path .endless)

variable (entries : List (Value × Value)) (base : Location)

/-- A check refuses settings with a fault of the configuration. -/
inductive Refused : Check → ConfigFault → Prop
  | unknown {texts : List String} :
      (∀ entry ∈ entries, ∃ text, entry.1.text? = some text) →
      texts ≠ [] → texts.Pairwise (· < ·) →
      (∀ text, text ∈ texts
        ↔ text ∉ knownKeys ∧ ∃ entry ∈ entries, entry.1.text? = some text) →
      Refused .keys (.unknownKeys texts)
  | noPath {role : Role} :
      (setting entries (directoryKey role) (.text (directoryKey role))).text? = none →
      Refused (.directory role) (.badPath (directoryKey role))
  | blankPath {role : Role} {path : String} :
      (setting entries (directoryKey role) (.text (directoryKey role))).text? = some path →
      allBlank path.toList = true → Refused (.directory role) (.badPath (directoryKey role))
  | strict :
      (∀ strict, setting entries "strict" (.bool true) ≠ .bool strict) →
      Refused .strict (.notBoolean "strict")

/-- A check lets a trouble of a conversion out, of a path, or of a text that is no namespace. -/
inductive Troubled : Check → Trouble → Prop
  | key {entry : Value × Value} : entry ∈ entries → entry.1.text? = none →
      Troubled .keys (.failure .badType)
  | path {role : Role} {path : String} {trouble : Trouble} :
      (setting entries (directoryKey role) (.text (directoryKey role))).text? = some path →
      allBlank path.toList = false → Astray base path trouble →
      Troubled (.directory role) trouble
  | extension :
      (setting entries "extension" (.text defaultExtension)).isShowable = false →
      Troubled .extension (.failure .badValue)
  | cache : (setting entries "cache" .null).isTrue = true →
      (setting entries "cache" .null).isShowable = false → Troubled .cache (.failure .badValue)
  | cachePath {path : String} {trouble : Trouble} : (setting entries "cache" .null).isTrue = true →
      plainText (setting entries "cache" .null) = .ok path → Astray base path trouble →
      Troubled .cache trouble
  | ns : (setting entries "namespace" (.text defaultNamespace)).isShowable = false →
      Troubled .ns (.failure .badValue)
  | noNamespace {ns : String} :
      plainText (setting entries "namespace" (.text defaultNamespace)) = .ok ns →
      Directive.isNamespace ns.toList = false → Troubled .ns (.badNamespace ns)

/-- What a check finds. -/
inductive Found (check : Check) : Fault → Prop
  | refused {bad : ConfigFault} : Refused entries check bad → Found check (.config bad)
  | troubled {trouble : Trouble} :
      Troubled entries base check trouble → Found check (.trouble trouble)

/-- A check is reached if those before it find nothing. -/
def Reached (check : Check) : Prop :=
  ∃ earlier later, Check.order = earlier ++ check :: later
    ∧ ∀ other ∈ earlier, ∀ fault, ¬ Found entries base other fault

/-- What comes out of a check, with paths followed from a base. -/
def verdict : Check → Except Fault Unit
  | .keys => (entriesOf (.map entries)).map fun _ => ()
  | .directory role => (directoryOf entries base role).map fun _ => ()
  | .extension => (extensionOf entries).map fun _ => ()
  | .cache => (cacheOf entries base).map fun _ => ()
  | .strict => (strictOf entries).map fun _ => ()
  | .ns => do
    let ns ← namespaceOf entries
    if Directive.isNamespace ns.toList then .ok () else .error (.trouble (.badNamespace ns))

variable {entries base}

/-! ## Conversions -/

omit [FileSystem] in
theorem plainText_of_text? {v : Value} {text : String} (h : v.text? = some text) :
    plainText v = .ok text := by
  rw [plainText, h]

omit [FileSystem] in
theorem isShowable_of_text? {v : Value} {text : String} (h : v.text? = some text) :
    v.isShowable = true := by
  cases v with
  | text s => rfl
  | safe s => rfl
  | _ => cases h

omit [FileSystem] in
/-- Only a value that cannot be shown has no text, which is a trouble with the value. -/
theorem plainText_eq_error_iff {v : Value} {fault : Fault} :
    plainText v = .error fault ↔ fault = .badValue ∧ v.isShowable = false := by
  cases htext : v.text? with
  | some text => simp [plainText_of_text? htext, isShowable_of_text? htext]
  | none =>
      rw [plainText, htext]
      cases v.isShowable <;> simp [eq_comm]

/-- Only a path that goes astray leads to no place. -/
theorem placeOf_eq_error_iff {path : String} {fault : Fault} :
    placeOf base path = .error fault
      ↔ ∃ cause, fault = .trouble cause ∧ Astray base path cause := by
  rw [placeOf]
  by_cases hnull : '\x00' ∈ path.toList
  · rw [if_pos (by simpa using hnull)]
    constructor
    · intro h
      cases h
      exact ⟨_, rfl, .null hnull⟩
    · rintro ⟨cause, rfl, _ | ⟨hnone, -⟩⟩
      · rfl
      · exact absurd hnull hnone
  · rw [if_neg (by simpa using hnull)]
    cases hfollow : base.follow? path with
    | none =>
        constructor
        · intro h
          cases h
          exact ⟨_, rfl, .endless hnull hfollow⟩
        · rintro ⟨cause, rfl, hthere | _⟩
          · exact absurd hthere hnull
          · rfl
    | some place =>
        constructor
        · intro h
          cases h
        · rintro ⟨cause, rfl, hthere | ⟨-, hnone⟩⟩
          · exact absurd hthere hnull
          · cases hfollow.symm.trans hnone

omit [FileSystem] in
theorem map_eq_error_iff {α β : Type} {f : α → β} {result : Except Fault α} {fault : Fault} :
    result.map f = .error fault ↔ result = .error fault := by
  cases result <;> simp [Except.map]

/-! ## Keys -/

omit [FileSystem] in
theorem isKnown_iff {key : Value} :
    isKnown key = true ↔ ∃ text ∈ knownKeys, key.text? = some text := by
  simp [isKnown, Value.same]

omit [FileSystem] in
/-- The texts among keys, if all are texts. -/
theorem mapM_text?_of_texts {keys : List Value} (h : ∀ key ∈ keys, ∃ text, key.text? = some text) :
    keys.mapM Value.text? = some (keys.filterMap Value.text?) := by
  induction keys with
  | nil => rfl
  | cons key keys ih =>
      obtain ⟨text, htext⟩ := h key (List.mem_cons_self ..)
      have hrest := ih fun other hother => h other (List.mem_cons_of_mem _ hother)
      rw [List.mapM_cons, htext, hrest, List.filterMap_cons_some htext]
      rfl

omit [FileSystem] in
theorem mapM_text?_of_none {keys : List Value} {key : Value} (hkey : key ∈ keys)
    (h : key.text? = none) : keys.mapM Value.text? = none := by
  induction keys with
  | nil => cases hkey
  | cons other keys ih =>
      rw [List.mapM_cons]
      rcases List.mem_cons.mp hkey with rfl | hmem
      · rw [h]
        rfl
      · rw [ih hmem]
        cases other.text? <;> rfl

omit [FileSystem] in
theorem nodup_eraseDups (names : List String) : names.eraseDups.Nodup :=
  match names with
  | [] => List.nodup_nil
  | name :: names => by
      rw [List.eraseDups_cons, List.nodup_cons, List.mem_eraseDups]
      exact ⟨by simp, nodup_eraseDups _⟩
termination_by names.length
decreasing_by exact Nat.lt_succ_of_le (List.length_filter_le ..)

omit [FileSystem] in
/-- Unknown keys that are texts are told in strict order, each once. -/
theorem unknownTexts?_of_texts {keys : List Value}
    (h : ∀ key ∈ keys, ∃ text, key.text? = some text) :
    ∃ texts, unknownTexts? keys = some texts ∧ texts.Pairwise (· < ·)
      ∧ ∀ text, text ∈ texts ↔ ∃ key ∈ keys, key.text? = some text := by
  refine ⟨_, by rw [unknownTexts?, mapM_text?_of_texts h]; rfl,
    pairwise_lt_mergeSort (nodup_eraseDups _), ?_⟩
  intro text
  rw [(List.mergeSort_perm _ _).mem_iff, List.mem_eraseDups, List.mem_filterMap]

omit [FileSystem] in
theorem unknownTexts?_of_none {keys : List Value} {key : Value} (hkey : key ∈ keys)
    (h : key.text? = none) : unknownTexts? keys = none := by
  rw [unknownTexts?, mapM_text?_of_none hkey h]
  rfl

omit [FileSystem] in
/-- Settings under texts only are taken as they are, or their unknown keys are told. -/
theorem entriesOf_of_texts (h : ∀ entry ∈ entries, ∃ text, entry.1.text? = some text) :
    ∃ texts : List String, texts.Pairwise (· < ·)
      ∧ (∀ text, text ∈ texts
        ↔ text ∉ knownKeys ∧ ∃ entry ∈ entries, entry.1.text? = some text)
      ∧ entriesOf (.map entries)
        = if texts = [] then .ok entries else .error (.config (.unknownKeys texts)) := by
  have hkeys : ∀ key ∈ (entries.map (·.1)).filter (fun key => !isKnown key),
      ∃ text, key.text? = some text := by
    intro key hkey
    obtain ⟨entry, hentry, rfl⟩ := List.mem_map.mp (List.mem_filter.mp hkey).1
    exact h entry hentry
  obtain ⟨texts, htexts, hsorted, hmem⟩ := unknownTexts?_of_texts hkeys
  refine ⟨texts, hsorted, ?_, ?_⟩
  · intro text
    rw [hmem]
    constructor
    · rintro ⟨key, hkey, htext⟩
      obtain ⟨hkey, hunknown⟩ := List.mem_filter.mp hkey
      obtain ⟨entry, hentry, rfl⟩ := List.mem_map.mp hkey
      refine ⟨fun hknown => ?_, entry, hentry, htext⟩
      rw [isKnown_iff.mpr ⟨text, hknown, htext⟩] at hunknown
      cases hunknown
    · rintro ⟨hunknown, entry, hentry, htext⟩
      refine ⟨entry.1, List.mem_filter.mpr ⟨List.mem_map_of_mem hentry, ?_⟩, htext⟩
      rw [Bool.not_eq_true', ← Bool.not_eq_true, isKnown_iff]
      rintro ⟨other, hknown, hother⟩
      rw [htext] at hother
      exact hunknown (Option.some.inj hother ▸ hknown)
  · simp only [entriesOf, keysOf?, Option.elim_some, bind, Except.bind, htexts]
    by_cases hempty : texts = []
    · -- without a text there is no unknown key, since each would have one
      have hnone : (entries.map (·.1)).filter (fun key => !isKnown key) = [] := by
        rw [List.eq_nil_iff_forall_not_mem]
        intro key hkey
        obtain ⟨text, htext⟩ := hkeys key hkey
        exact List.not_mem_nil (hempty ▸ (hmem text).mpr ⟨key, hkey, htext⟩)
      rw [hnone, if_pos hempty]
      rfl
    · have hsome : (entries.map (·.1)).filter (fun key => !isKnown key) ≠ [] := by
        intro hnil
        rw [hnil] at hmem
        exact hempty (List.eq_nil_iff_forall_not_mem.mpr fun text => by simp [hmem text])
      rw [if_neg hempty, if_pos (by simpa [List.isEmpty_iff] using hsome)]

omit [FileSystem] in
/-- Settings under known keys are taken as they are. -/
theorem entriesOf_of_known (h : ∀ entry ∈ entries, ∃ text ∈ knownKeys, entry.1.text? = some text) :
    entriesOf (.map entries) = .ok entries := by
  obtain ⟨texts, -, hmem, heq⟩ := entriesOf_of_texts fun entry hentry =>
    (h entry hentry).imp fun _ => And.right
  have hnone : texts = [] := by
    rw [List.eq_nil_iff_forall_not_mem]
    intro text htext
    obtain ⟨hunknown, entry, hentry, hkey⟩ := (hmem text).mp htext
    obtain ⟨known, hknown, hother⟩ := h entry hentry
    rw [hkey] at hother
    exact hunknown (Option.some.inj hother ▸ hknown)
  rw [heq, if_pos hnone]

omit [FileSystem] in
/-- A key that is no text is a trouble with its type. -/
theorem entriesOf_of_none {entry : Value × Value} (hentry : entry ∈ entries)
    (h : entry.1.text? = none) : entriesOf (.map entries) = .error .badType := by
  have hmem : entry.1 ∈ (entries.map (·.1)).filter fun key => !isKnown key := by
    refine List.mem_filter.mpr ⟨List.mem_map_of_mem hentry, ?_⟩
    rw [Bool.not_eq_true', ← Bool.not_eq_true, isKnown_iff]
    rintro ⟨text, -, htext⟩
    rw [h] at htext
    cases htext
  simp only [entriesOf, keysOf?, Option.elim_some, bind, Except.bind,
    unknownTexts?_of_none hmem h]
  rw [if_pos (by simpa [List.isEmpty_iff] using List.ne_nil_of_mem hmem)]

omit [FileSystem] in
theorem texts_or_none (entries : List (Value × Value)) :
    (∀ entry ∈ entries, ∃ text, entry.1.text? = some text)
      ∨ ∃ entry ∈ entries, entry.1.text? = none := by
  by_cases h : ∃ entry ∈ entries, entry.1.text? = none
  · exact .inr h
  · refine .inl fun entry hentry => Option.ne_none_iff_exists'.mp fun hnone => ?_
    exact h ⟨entry, hentry, hnone⟩

omit [FileSystem] in
/-- Settings whose keys are known are taken as they are. -/
theorem eq_of_entriesOf {data : List (Value × Value)} (h : entriesOf (.map entries) = .ok data) :
    data = entries := by
  rcases texts_or_none entries with htexts | ⟨entry, hentry, hnone⟩
  · obtain ⟨texts, -, -, heq⟩ := entriesOf_of_texts htexts
    rw [heq] at h
    split at h
    · exact (Except.ok.inj h).symm
    · cases h
  · rw [entriesOf_of_none hentry hnone] at h
    cases h

theorem entriesOf_eq_error_iff {fault : Fault} :
    entriesOf (.map entries) = .error fault ↔ Found entries base .keys fault := by
  rcases texts_or_none entries with htexts | ⟨entry, hentry, hnone⟩
  · obtain ⟨texts, hsorted, hmem, heq⟩ := entriesOf_of_texts htexts
    rw [heq]
    constructor
    · intro h
      split at h
      · cases h
      · next hsome =>
          cases h
          exact .refused (.unknown htexts hsome hsorted hmem)
    · intro h
      cases h with
      | refused h =>
          cases h with
          | unknown _ hsome hothers hunknown =>
              obtain rfl : texts = _ :=
                eq_of_pairwise_lt hsorted hothers fun text => (hmem text).trans (hunknown text).symm
              rw [if_neg hsome]
      | troubled h =>
          cases h with
          | key hother hnone =>
              obtain ⟨text, htext⟩ := htexts _ hother
              rw [hnone] at htext
              cases htext
  · rw [entriesOf_of_none hentry hnone]
    constructor
    · intro h
      cases h
      exact .troubled (.key hentry hnone)
    · intro h
      cases h with
      | refused h =>
          cases h with
          | unknown htexts =>
              obtain ⟨text, htext⟩ := htexts entry hentry
              rw [hnone] at htext
              cases htext
      | troubled h =>
          cases h
          rfl

/-! ## Verdicts -/

theorem directoryOf_eq_error_iff {role : Role} {fault : Fault} :
    directoryOf entries base role = .error fault ↔ Found entries base (.directory role) fault := by
  rw [directoryOf]
  constructor
  · intro h
    split at h
    · next path htext =>
        split at h
        · next hblank =>
            cases h
            exact .refused (.blankPath htext hblank)
        · next hblank =>
            obtain ⟨cause, rfl, hastray⟩ := placeOf_eq_error_iff.mp h
            exact .troubled (.path htext (Bool.not_eq_true _ ▸ hblank) hastray)
    · next htext =>
        cases h
        exact .refused (.noPath htext)
  · intro h
    cases h with
    | refused h =>
        cases h with
        | noPath htext => simp only [htext]
        | blankPath htext hblank => simp only [htext, hblank, if_true]
    | troubled h =>
        cases h with
        | path htext hblank hastray =>
            simp only [htext, hblank, Bool.false_eq_true, if_false]
            exact placeOf_eq_error_iff.mpr ⟨_, rfl, hastray⟩

theorem extensionOf_eq_error_iff {fault : Fault} :
    extensionOf entries = .error fault ↔ Found entries base .extension fault := by
  rw [extensionOf, bind_eq_error_iff, plainText_eq_error_iff]
  constructor
  · rintro (⟨rfl, hendless⟩ | ⟨_, -, h⟩)
    · exact .troubled (.extension hendless)
    · cases h
  · intro h
    cases h with
    | refused h => cases h
    | troubled h =>
        cases h with
        | extension hendless => exact .inl ⟨rfl, hendless⟩

theorem cacheOf_eq_error_iff {fault : Fault} :
    cacheOf entries base = .error fault ↔ Found entries base .cache fault := by
  rw [cacheOf]
  constructor
  · intro h
    split at h
    · next htrue =>
        rcases bind_eq_error_iff.mp h with htext | ⟨path, hpath, h⟩
        · obtain ⟨rfl, hendless⟩ := plainText_eq_error_iff.mp htext
          exact .troubled (.cache htrue hendless)
        · rcases bind_eq_error_iff.mp h with hplace | ⟨_, -, h⟩
          · obtain ⟨cause, rfl, hastray⟩ := placeOf_eq_error_iff.mp hplace
            exact .troubled (.cachePath htrue hpath hastray)
          · cases h
    · cases h
  · intro h
    cases h with
    | refused h => cases h
    | troubled h =>
        cases h with
        | cache htrue hendless =>
            rw [if_pos htrue, plainText_eq_error_iff.mpr ⟨rfl, hendless⟩]
            rfl
        | cachePath htrue hpath hastray =>
            rw [if_pos htrue]
            exact bind_eq_error_iff.mpr (.inr ⟨_, hpath, bind_eq_error_iff.mpr
              (.inl (placeOf_eq_error_iff.mpr ⟨_, rfl, hastray⟩))⟩)

theorem strictOf_eq_error_iff {fault : Fault} :
    strictOf entries = .error fault ↔ Found entries base .strict fault := by
  rw [strictOf]
  constructor
  · intro h
    split at h
    · cases h
    · next hother =>
        cases h
        exact .refused (.strict hother)
  · intro h
    cases h with
    | refused h =>
        cases h with
        | strict hother =>
            split
            · next hstrict => exact absurd hstrict (hother _)
            · rfl
    | troubled h => cases h

theorem namespace_eq_error_iff {fault : Fault} :
    verdict entries base .ns = .error fault ↔ Found entries base .ns fault := by
  show namespaceOf entries >>= _ = _ ↔ _
  rw [bind_eq_error_iff, namespaceOf, plainText_eq_error_iff]
  constructor
  · rintro (⟨rfl, hendless⟩ | ⟨ns, hns, h⟩)
    · exact .troubled (.ns hendless)
    · split at h
      · cases h
      · next hnone =>
          cases h
          exact .troubled (.noNamespace hns (Bool.not_eq_true _ ▸ hnone))
  · intro h
    cases h with
    | refused h => cases h
    | troubled h =>
        cases h with
        | ns hendless => exact .inl ⟨rfl, hendless⟩
        | noNamespace hns hnone => exact .inr ⟨_, hns, if_neg (by simp [hnone])⟩

/-- A check comes out with what it finds. -/
theorem verdict_eq_error_iff {check : Check} {fault : Fault} :
    verdict entries base check = .error fault ↔ Found entries base check fault := by
  cases check with
  | keys => exact map_eq_error_iff.trans entriesOf_eq_error_iff
  | directory role => exact map_eq_error_iff.trans directoryOf_eq_error_iff
  | extension => exact map_eq_error_iff.trans extensionOf_eq_error_iff
  | cache => exact map_eq_error_iff.trans cacheOf_eq_error_iff
  | strict => exact map_eq_error_iff.trans strictOf_eq_error_iff
  | ns => exact namespace_eq_error_iff

/-- A check comes out well or with a fault. -/
theorem verdict_eq_ok_iff {check : Check} :
    verdict entries base check = .ok () ↔ ∀ fault, ¬ Found entries base check fault := by
  constructor
  · intro h fault hfound
    rw [verdict_eq_error_iff.mpr hfound] at h
    cases h
  · intro h
    cases hverdict : verdict entries base check with
    | ok => rfl
    | error fault => exact absurd (verdict_eq_error_iff.mp hverdict) (h fault)

omit [FileSystem] in
/-- Checks come out with the fault of the first that has one. -/
theorem forM_eq_error_iff {ι : Type} {check : ι → Except Fault Unit} {checks : List ι}
    {fault : Fault} : checks.forM check = .error fault
      ↔ ∃ earlier first later, checks = earlier ++ first :: later
        ∧ (∀ other ∈ earlier, check other = .ok ()) ∧ check first = .error fault := by
  induction checks with
  | nil => simp [pure, Except.pure]
  | cons item checks ih =>
      show check item >>= (fun _ => checks.forM check) = _ ↔ _
      rw [bind_eq_error_iff]
      constructor
      · rintro (hitem | ⟨⟨⟩, hitem, hrest⟩)
        · exact ⟨[], item, checks, rfl, by simp, hitem⟩
        · obtain ⟨earlier, first, later, rfl, hearlier, hfirst⟩ := ih.mp hrest
          exact ⟨item :: earlier, first, later, rfl, by simpa using ⟨hitem, hearlier⟩, hfirst⟩
      · rintro ⟨_ | ⟨_, earlier⟩, first, later, hsplit, hearlier, hfirst⟩
        · obtain ⟨rfl, rfl⟩ := List.cons.inj hsplit
          exact .inl hfirst
        · obtain ⟨rfl, rfl⟩ := List.cons.inj hsplit
          obtain ⟨hitem, hearlier⟩ := List.forall_mem_cons.mp hearlier
          exact .inr ⟨(), hitem, ih.mpr ⟨earlier, first, later, rfl, hearlier, hfirst⟩⟩

omit [FileSystem] in
/-- Checks come out well if each does. -/
theorem forM_eq_ok_iff {ι : Type} {check : ι → Except Fault Unit} {checks : List ι} :
    checks.forM check = .ok () ↔ ∀ item ∈ checks, check item = .ok () := by
  induction checks with
  | nil => simp [pure, Except.pure]
  | cons item checks ih =>
      show check item >>= (fun _ => checks.forM check) = _ ↔ _
      rw [List.forall_mem_cons, ← ih]
      cases check item <;> simp [bind, Except.bind]

omit [FileSystem] in
theorem mem_order (check : Check) : check ∈ Check.order := by
  rcases check with _ | (_ | _ | _) | _ | _ | _ | _ <;> simp [Check.order, Role.all]

/-- All checks come out well if none finds anything. -/
theorem forM_verdict_eq_ok_iff (base : Location) :
    Check.order.forM (verdict entries base) = .ok ()
      ↔ ∀ check fault, ¬ Found entries base check fault := by
  rw [forM_eq_ok_iff]
  exact ⟨fun h check => verdict_eq_ok_iff.mp (h check (mem_order check)),
    fun h check _ => verdict_eq_ok_iff.mpr (h check)⟩

/-- The fault of the first check that has one is what a check that is reached finds. -/
theorem forM_verdict_eq_error_iff {fault : Fault} :
    Check.order.forM (verdict entries base) = .error fault
      ↔ ∃ check, Reached entries base check ∧ Found entries base check fault := by
  rw [forM_eq_error_iff]
  constructor
  · rintro ⟨earlier, check, later, horder, hearlier, hcheck⟩
    exact ⟨check, ⟨earlier, later, horder, fun other hother =>
      verdict_eq_ok_iff.mp (hearlier other hother)⟩, verdict_eq_error_iff.mp hcheck⟩
  · rintro ⟨check, ⟨earlier, later, horder, hearlier⟩, hfound⟩
    exact ⟨earlier, check, later, horder, fun other hother =>
      verdict_eq_ok_iff.mpr (hearlier other hother), verdict_eq_error_iff.mpr hfound⟩

omit [FileSystem] in
/-- What only comes out well or not can be forgotten before the next step. -/
theorem map_bind_unit {α β : Type} (result : Except Fault α) (next : Except Fault β) :
    ((result.map fun _ => ()) >>= fun _ => next) = result >>= fun _ => next := by
  cases result <;> rfl

/-- A configuration with a namespace that is one is made as the checks come out. -/
theorem forM_verdict (entries : List (Value × Value)) (base : Location) :
    Check.order.forM (verdict entries base)
      = ofValue (.map entries) base >>= fun config =>
        if Directive.isNamespace config.ns.toList then .ok ()
        else .error (.trouble (.badNamespace config.ns)) := by
  show (do
    verdict entries base .keys
    verdict entries base (.directory .layout)
    verdict entries base (.directory .view)
    verdict entries base (.directory .component)
    verdict entries base .extension
    verdict entries base .cache
    verdict entries base .strict
    verdict entries base .ns
    pure ()) = _
  simp only [verdict, map_bind_unit, ofValue]
  cases hkeys : entriesOf (.map entries) with
  | error fault => rfl
  | ok data =>
      obtain rfl := eq_of_entriesOf hkeys
      simp only [bind_assoc, pure_bind, bind_pure_unit]
      rfl

end Config

namespace Engine

open Config

/-- A new site for the settings in a configuration file that lies in a folder. -/
def openSettings (base : Location) (settings : Value) : Engine Nat := do
  let config ← ofFault (Config.ofValue settings base)
  openSite config.setup

/-- A site opens as one more site, or its namespace is none. -/
theorem on_openSite_fst (setup : Setup) (world : World) :
    (on (openSite setup) world).1
      = if Directive.isNamespace setup.ns.toList then .ok world.sites.length
        else .error (.trouble (.badNamespace setup.ns)) := by
  rw [openSite, on_bind_ok (on_openStore setup.cache world)]
  cases Directive.isNamespace setup.ns.toList <;> rfl

/-- Settings open a site as their checks come out. -/
theorem on_openSettings_fst (entries : List (Value × Value)) (base : Location) (world : World) :
    (on (openSettings base (.map entries)) world).1
      = (Check.order.forM (verdict entries base)).map fun _ => world.sites.length := by
  rw [forM_verdict]
  cases hconfig : Config.ofValue (.map entries) base with
  | error fault =>
      rw [openSettings, hconfig]
      rfl
  | ok config =>
      rw [openSettings, hconfig]
      show (on (openSite config.setup) world).1 = _
      rw [on_openSite_fst]
      show (if Directive.isNamespace config.ns.toList then _ else _)
        = Except.map _ (if Directive.isNamespace config.ns.toList then _ else _)
      split <;> rfl

/-- A project opens as the settings in its configuration file do. -/
theorem openProject_of_loadSettings [YamlLoader] {dir place : Location} {world : World}
    {settings : Value} (hplace : settingsPlace dir = .ok place)
    (h : loadSettings world.host.files place = .ok settings) :
    on (openProject dir) world = on (openSettings place.dropLast settings) world := by
  have hconfig : loadConfig world.host.files dir = Config.ofValue settings place.dropLast := by
    rw [loadConfig, hplace]
    show loadSettings world.host.files place >>= _ = _
    rw [h]
    rfl
  rw [openProject, on_bind_ok (on_get world), hconfig]
  rfl

/-- Settings that open a site add it to those there are. -/
theorem sites_openSettings {entries : List (Value × Value)} {base : Location} {world : World}
    {i : Nat} (h : (on (openSettings base (.map entries)) world).1 = .ok i) :
    i = world.sites.length
      ∧ ∃ site, (on (openSettings base (.map entries)) world).2.sites = world.sites ++ [site] := by
  cases hconfig : Config.ofValue (.map entries) base with
  | error fault =>
      rw [openSettings, hconfig] at h
      cases h
  | ok config =>
      rw [openSettings, hconfig] at h ⊢
      change (on (openSite config.setup) world).1 = _ at h
      show _ ∧ ∃ site, (on (openSite config.setup) world).2.sites = _
      rw [on_openSite_fst] at h
      split at h
      · next hns =>
          obtain ⟨files, site, -, -, -, hrun⟩ := on_openSite_concat hns world
          exact ⟨(Except.ok.inj h).symm, site, by rw [hrun]⟩
      · cases h

/-- **What a project opens as.**  Whatever entries its settings have: if no check finds anything,
    there is one more site, and otherwise the project fails with what the first check finds that
    finds something.  So a site is made or the fault is one of the configuration exactly if no
    trouble comes first.  A project whose configuration file holds the settings opens as they do. -/
theorem openProject_outcome [YamlLoader] (entries : List (Value × Value)) (base : Location)
    (world : World) :
    ((∃ site next, on (openSettings base (.map entries)) world = (.ok world.sites.length, next)
        ∧ next.sites = world.sites ++ [site])
      ↔ ∀ check fault, ¬ Found entries base check fault)
      ∧ (∀ fault, (on (openSettings base (.map entries)) world).1 = .error fault
        ↔ ∃ check, Reached entries base check ∧ Found entries base check fault)
      ∧ ((∀ fault, (on (openSettings base (.map entries)) world).1 = .error fault →
          ∃ bad, fault = .config bad)
        ↔ ∀ check trouble, Reached entries base check → ¬ Troubled entries base check trouble)
      ∧ ∀ dir place, settingsPlace dir = .ok place → place.dropLast = base →
        loadSettings world.host.files place = .ok (.map entries) →
        on (openProject dir) world = on (openSettings base (.map entries)) world := by
  have hfault : ∀ fault, (on (openSettings base (.map entries)) world).1 = .error fault
      ↔ ∃ check, Reached entries base check ∧ Found entries base check fault := by
    intro fault
    rw [on_openSettings_fst, map_eq_error_iff, forM_verdict_eq_error_iff]
  refine ⟨?_, hfault, ?_, ?_⟩
  · rw [← forM_verdict_eq_ok_iff base]
    constructor
    · rintro ⟨site, next, hrun, -⟩
      have hok := on_openSettings_fst entries base world
      rw [hrun] at hok
      cases hchecks : Check.order.forM (verdict entries base) with
      | ok => rfl
      | error fault =>
          rw [hchecks] at hok
          cases hok
    · intro hchecks
      have hok := on_openSettings_fst entries base world
      rw [hchecks] at hok
      obtain ⟨-, site, hsites⟩ := sites_openSettings hok
      exact ⟨site, _, Prod.ext hok rfl, hsites⟩
  · constructor
    · intro h check trouble hreached htroubled
      obtain ⟨bad, hbad⟩ := h _ ((hfault _).mpr ⟨check, hreached, .troubled htroubled⟩)
      cases hbad
    · intro h fault houtcome
      obtain ⟨check, hreached, hfound⟩ := (hfault _).mp houtcome
      cases hfound with
      | refused _ => exact ⟨_, rfl⟩
      | troubled htroubled => exact absurd htroubled (h _ _ hreached)
  · rintro dir place hplace rfl hload
    exact openProject_of_loadSettings hplace hload

end Engine

end Theory

section Witness

attribute [local instance] Yaml.usual FileSystem.plain

namespace Engine

/-- A world with a project whose settings have a number as their key. -/
def unkeyed : World :=
  World.blank.withFiles ⟨[(["site", "mky.yaml"], .file ⟨encodeText "0: 0", .zero false⟩)]⟩

/-- The number is no fault of the configuration. -/
theorem openProject_outcome_unkeyed :
    (on (openProject ["site"]) unkeyed).1 = .error .badType := by
  have hfile : unkeyed.host.files.file? ["site", "mky.yaml"]
      = some ⟨encodeText "0: 0", .zero false⟩ := rfl
  have hread : YamlLoader.load (Text.unifyLines "0: 0".toList) = .ok (.map [(.int 0, .int 0)]) :=
    rfl
  have hloaded : loadSettings unkeyed.host.files ["site", "mky.yaml"]
      = .ok (.map [(.int 0, .int 0)]) :=
    ((loadSettings_of_file hfile).trans (readMapping_of_read hfile
      (Sources.textOf_encodeText "0: 0" _) hread _)).trans (mappingOf_of_countsAs (.mapping _) _)
  obtain ⟨-, hfault, -, hopens⟩ := openProject_outcome [(.int 0, .int 0)] ["site"] unkeyed
  rw [hopens ["site"] ["site", "mky.yaml"] rfl rfl hloaded, hfault]
  refine ⟨.keys, ⟨[], _, rfl, fun _ h => absurd h List.not_mem_nil⟩, ?_⟩
  exact .troubled (.key (List.mem_singleton.mpr rfl) rfl)

end Engine

end Witness

end Stencil
