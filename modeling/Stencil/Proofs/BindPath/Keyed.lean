import Stencil.Proofs.BindPath.Composition

/-! # Keyed data — how paths end in maps, lists, tuples and scalars

    A segment writes an integer if it is a row of decimal digits behind at most one
    minus.  In a map it stands for the key that it is, else for the integer that it
    writes; in a list, a tuple or another row for the place that it writes.  In keyed data a path
    therefore leads from item to item up to its end or a scalar, or up to the first
    segment that nothing stands under.  One thing comes in between: wherever a
    segment writes an integer of more than `Digits.most` digits the path fails, even
    in a map that has the segment as a key.

    Headline: `resolve_keyed`. -/

namespace Stencil.BindPath

/-! ## Segments that write integers -/

/-- A row of decimal digits. -/
def IsDigits (digits : List Char) : Prop :=
  digits ≠ [] ∧ ∀ c ∈ digits, c.isDigit

/-- A segment, its digits and the integer that it writes. -/
inductive Writes : String → List Char → Int → Prop
  | natural {digits : List Char} (h : IsDigits digits) :
      Writes (String.ofList digits) digits (Digits.decimal digits)
  | negative {digits : List Char} (h : IsDigits digits) :
      Writes (String.ofList ('-' :: digits)) digits (-(Digits.decimal digits))

/-- A segment that writes an integer of more digits than are read. -/
def IsOverlong (segment : String) : Prop :=
  ∃ digits i, Writes segment digits i ∧ Digits.most < digits.length

theorem IsDigits.minus_ne {digits : List Char} (h : IsDigits digits) (rest : List Char) :
    digits ≠ '-' :: rest := by
  rintro rfl
  exact absurd (h.2 '-' List.mem_cons_self) (by decide)

theorem not_isDigits_iff {digits : List Char} :
    ¬ IsDigits digits ↔ (digits.isEmpty || !digits.all Char.isDigit) = true := by
  rw [← Bool.not_eq_false, not_congr]
  simp [IsDigits]

theorem naturalOf_of_isDigits {digits : List Char} (h : IsDigits digits) : naturalOf digits
    = if Digits.most < digits.length then .error .badValue
      else .ok (some (Digits.decimal digits)) := by
  rw [naturalOf, if_neg fun hreads => not_isDigits_iff.mpr hreads h]

theorem naturalOf_of_not_isDigits {digits : List Char} (h : ¬ IsDigits digits) :
    naturalOf digits = .ok none := by
  rw [naturalOf, if_pos (not_isDigits_iff.mp h)]

theorem indexOf_minus (digits : List Char) : indexOf (String.ofList ('-' :: digits))
    = (naturalOf digits).map fun natural? => natural?.map fun n => -Int.ofNat n := by
  simp only [indexOf, String.toList_ofList]
  rcases naturalOf digits with _ | _ | n <;> rfl

theorem indexOf_plain {chars : List Char} (h : ∀ rest, chars ≠ '-' :: rest) :
    indexOf (String.ofList chars)
      = (naturalOf chars).map fun natural? => natural?.map Int.ofNat := by
  rw [indexOf, String.toList_ofList]
  split
  · next digits => exact absurd rfl (h digits)
  · rcases naturalOf chars with _ | _ | n <;> rfl

/-- A segment writes an integer, which is read unless it has too many digits. -/
theorem Writes.indexOf_eq {segment : String} {digits : List Char} {i : Int}
    (h : Writes segment digits i) : indexOf segment
      = if Digits.most < digits.length then .error .badValue else .ok (some i) := by
  cases h with
  | natural hdigits =>
      rw [indexOf_plain hdigits.minus_ne, naturalOf_of_isDigits hdigits]
      split <;> rfl
  | negative hdigits =>
      rw [indexOf_minus, naturalOf_of_isDigits hdigits]
      split <;> rfl

/-- A segment of at most as many characters as digits are read is not overlong. -/
theorem not_isOverlong_of_length_le {segment : String}
    (h : segment.toList.length ≤ Digits.most) : ¬ IsOverlong segment := by
  rintro ⟨digits, i, hwrites, hmany⟩
  have hlength : digits.length ≤ segment.toList.length := by
    cases hwrites with
    | natural => exact Nat.le_of_eq (congrArg List.length String.toList_ofList.symm)
    | negative =>
        rw [String.toList_ofList]
        exact Nat.le_succ _
  omega

/-- A segment that writes no integer is read as none. -/
theorem indexOf_of_not_writes {segment : String} (h : ∀ digits i, ¬ Writes segment digits i) :
    indexOf segment = .ok none := by
  obtain ⟨chars, rfl⟩ : ∃ chars, segment = String.ofList chars :=
    ⟨segment.toList, String.ofList_toList.symm⟩
  by_cases hminus : ∃ digits, chars = '-' :: digits
  · obtain ⟨digits, rfl⟩ := hminus
    rw [indexOf_minus, naturalOf_of_not_isDigits fun hdigits => h _ _ (.negative hdigits)]
    rfl
  · rw [indexOf_plain (not_exists.mp hminus),
      naturalOf_of_not_isDigits fun hdigits => h _ _ (.natural hdigits)]
    rfl

theorem IsOverlong.indexOf_eq {segment : String} (h : IsOverlong segment) :
    indexOf segment = .error .badValue := by
  obtain ⟨digits, i, hwrites, hmany⟩ := h
  rw [hwrites.indexOf_eq, if_pos hmany]

/-- A segment that is not overlong is read as the integer that it writes. -/
theorem exists_indexOf {segment : String} (h : ¬ IsOverlong segment) :
    ∃ index, indexOf segment = .ok index
      ∧ ∀ i, index = some i ↔ ∃ digits, Writes segment digits i := by
  have hread : ∀ digits i, Writes segment digits i → indexOf segment = .ok (some i) := by
    intro digits i hwrites
    rw [hwrites.indexOf_eq, if_neg fun hmany => h ⟨digits, i, hwrites, hmany⟩]
  by_cases hwrites : ∃ digits i, Writes segment digits i
  · obtain ⟨digits, i, hwrites⟩ := hwrites
    refine ⟨some i, hread digits i hwrites, fun j => ⟨?_, ?_⟩⟩
    · intro hij
      cases hij
      exact ⟨digits, hwrites⟩
    · rintro ⟨others, hothers⟩
      exact Except.ok.inj ((hread digits i hwrites).symm.trans (hread others j hothers))
  · simp only [not_exists] at hwrites
    refine ⟨none, indexOf_of_not_writes hwrites, fun j => ⟨nofun, ?_⟩⟩
    rintro ⟨digits, hdigits⟩
    exact absurd hdigits (hwrites digits j)

/-! ## Items -/

/-- The items of a list, a tuple or another row that tells its length. -/
def sequence? : Value → Option (List Value)
  | .list items => some items
  | .tuple items => some items
  | .row _ _ none items => some items
  | _ => none

/-- What stands under a segment in keyed data: in a map the value of the segment as a key, else of
    the integer that it writes; in a sequence the item at the place that it writes. -/
inductive Item : Value → String → Value → Prop
  | key {entries : List (Value × Value)} {segment : String} {v : Value}
      (h : Value.entry? entries (.text segment) = some v) : Item (.map entries) segment v
  | number {entries : List (Value × Value)} {segment : String} {digits : List Char} {i : Int}
      {v : Value} (hkey : Value.entry? entries (.text segment) = none)
      (hwrites : Writes segment digits i) (h : Value.entry? entries (.int i) = some v) :
      Item (.map entries) segment v
  | place {whole : Value} {items : List Value} {segment : String} {digits : List Char} {n : Nat}
      {v : Value} (hitems : sequence? whole = some items) (hwrites : Writes segment digits n)
      (h : items[n]? = some v) : Item whole segment v

theorem item?_eq_some_iff {items : List Value} {index : Option Int} {v : Value} :
    item? items index = some v ↔ ∃ n : Nat, index = some (n : Int) ∧ items[n]? = some v := by
  constructor
  · intro h
    unfold item? at h
    split at h
    · next n => exact ⟨n, rfl, h⟩
    · exact nomatch h
  · rintro ⟨n, rfl, h⟩
    exact h

theorem entryAt?_eq_some_iff {entries : List (Value × Value)} {segment : String}
    {index : Option Int} {v : Value} : entryAt? entries segment index = some v
      ↔ Value.entry? entries (.text segment) = some v
        ∨ Value.entry? entries (.text segment) = none
          ∧ ∃ i, index = some i ∧ Value.entry? entries (.int i) = some v := by
  rw [entryAt?]
  cases Value.entry? entries (.text segment) with
  | some w => simp
  | none => simp [Option.bind_eq_some_iff]

/-- A map or a sequence: keyed values that always tell what they hold. -/
def IsOpen (v : Value) : Prop :=
  (∃ entries, v = .map entries) ∨ ∃ items, sequence? v = some items

theorem shape?_of_sequence? {v : Value} {items : List Value} (h : sequence? v = some items) :
    shape? v = some .keyed := by
  cases v with
  | list | tuple | row => rfl
  | _ => cases h

theorem IsOpen.shape?_eq {v : Value} (h : IsOpen v) : shape? v = some .keyed := by
  rcases h with ⟨entries, rfl⟩ | ⟨items, hitems⟩
  · rfl
  · exact shape?_of_sequence? hitems

theorem Item.isOpen {v w : Value} {segment : String} (h : Item v segment w) : IsOpen v := by
  cases h with
  | key | number => exact .inl ⟨_, rfl⟩
  | place hitems => exact .inr ⟨_, hitems⟩

variable {surroundings : Surroundings} {template segment : String} {v : Value}

theorem lookup_sequence {items : List Value} (hitems : sequence? v = some items) :
    lookup surroundings v segment = Found.ofKeyed ((indexOf segment).map (item? items)) := by
  cases v with
  | list _ | tuple _ => cases hitems; rfl
  | row _ _ refusal _ =>
      cases refusal with
      | some failure => cases hitems
      | none =>
          cases hitems
          rw [lookup]
          cases indexOf segment with
          | error failure => rfl
          | ok index => exact congrArg Found.ofKeyed (by rcases index with _ | _ | _ <;> rfl)
  | _ => cases hitems

/-- An overlong segment cannot be looked up in keyed data. -/
theorem IsOverlong.lookup_eq (h : IsOverlong segment) (hv : shape? v = some .keyed) :
    lookup surroundings v segment = .error (.failure .badValue) := by
  cases v with
  | map | list | tuple | row => rw [lookup, h.indexOf_eq]; rfl
  | _ => cases hv

theorem IsOverlong.valueAt_eq (h : IsOverlong segment) (hv : shape? v = some .keyed) :
    valueAt surroundings v segment = .error .badValue := by
  rw [valueAt, h.lookup_eq hv]
  rfl

theorem ofKeyed_eq_value_iff {found? : Option Value} {w : Value} :
    Found.ofKeyed (.ok found?) = .ok (.value w) ↔ found? = some w := by
  cases found? with
  | none => exact ⟨nofun, nofun⟩
  | some v => simp [Found.ofKeyed]

variable (surroundings) in
/-- Any other segment is looked up in keyed data as what stands under it. -/
theorem exists_lookup (h : ¬ IsOverlong segment) (hv : IsOpen v) :
    ∃ found?, lookup surroundings v segment = Found.ofKeyed (.ok found?)
      ∧ ∀ w, found? = some w ↔ Item v segment w := by
  obtain ⟨index, hindex, hwrites⟩ := exists_indexOf h
  rcases hv with ⟨entries, rfl⟩ | ⟨items, hitems⟩
  · refine ⟨entryAt? entries segment index, by rw [lookup, hindex]; rfl, fun w => ?_⟩
    rw [entryAt?_eq_some_iff]
    constructor
    · rintro (hkey | ⟨hkey, i, hi, hentry⟩)
      · exact .key hkey
      · obtain ⟨digits, hdigits⟩ := (hwrites i).mp hi
        exact .number hkey hdigits hentry
    · intro hitem
      cases hitem with
      | key hkey => exact .inl hkey
      | number hkey hdigits hentry =>
          exact .inr ⟨hkey, _, (hwrites _).mpr ⟨_, hdigits⟩, hentry⟩
      | place hitems => cases hitems
  · refine ⟨item? items index, by rw [lookup_sequence hitems, hindex]; rfl, fun w => ?_⟩
    rw [item?_eq_some_iff]
    constructor
    · rintro ⟨n, hn, hitem⟩
      obtain ⟨digits, hdigits⟩ := (hwrites n).mp hn
      exact .place hitems hdigits hitem
    · intro hitem
      cases hitem with
      | place hothers hdigits hitem =>
          cases hitems.symm.trans hothers
          exact ⟨_, (hwrites _).mpr ⟨_, hdigits⟩, hitem⟩
      | key => cases hitems
      | number => cases hitems

variable (surroundings) in
/-- The value of such a segment is what stands under it. -/
theorem exists_valueAt (h : ¬ IsOverlong segment) (hv : IsOpen v) :
    ∃ found?, valueAt surroundings v segment = .ok found?
      ∧ ∀ w, found? = some w ↔ Item v segment w := by
  obtain ⟨found?, hlookup, hfound⟩ := exists_lookup surroundings h hv
  refine ⟨found?, ?_, hfound⟩
  rw [valueAt, hlookup]
  cases found? <;> rfl

/-! ## Paths -/

/-- Data of maps, sequences and scalars, to any depth. -/
inductive IsKeyed : Value → Prop
  | scalar {v : Value} (h : shape? v = none) : IsKeyed v
  | sequence {v : Value} {items : List Value} (hitems : sequence? v = some items)
      (h : ∀ w ∈ items, IsKeyed w) : IsKeyed v
  | map {entries : List (Value × Value)} (h : ∀ entry ∈ entries, IsKeyed entry.2) :
      IsKeyed (.map entries)

/-- From one value to another by what stands under one segment after the other, none of them
    overlong. -/
inductive Leads : Value → List String → Value → Prop
  | refl (v : Value) : Leads v [] v
  | step {v found w : Value} {segment : String} {rest : List String}
      (hsegment : ¬ IsOverlong segment) (hitem : Item v segment found)
      (hrest : Leads found rest w) : Leads v (segment :: rest) w

/-- Why a path stops at a segment in keyed data, and with which fault. -/
inductive Stops (template : String) (v : Value) (segment : String) : Fault → Prop
  | overlong (h : IsOverlong segment) : Stops template v segment .badValue
  | missing (h : ¬ IsOverlong segment) (hmissing : ∀ w, ¬ Item v segment w) :
      Stops template v segment (.noVariable .keyed segment template)

/-- Keyed data is a scalar or is looked up by key. -/
theorem IsKeyed.shape_cases (h : IsKeyed v) : shape? v = none ∨ IsOpen v := by
  cases h with
  | scalar h => exact .inl h
  | map => exact .inr (.inl ⟨_, rfl⟩)
  | sequence hitems => exact .inr (.inr ⟨_, hitems⟩)

/-- What stands in keyed data is keyed data. -/
theorem IsKeyed.item {found : Value} (h : IsKeyed v) (hitem : Item v segment found) :
    IsKeyed found := by
  have hentry : ∀ {entries key}, (∀ entry ∈ entries, IsKeyed entry.2) →
      Value.entry? entries key = some found → IsKeyed found := by
    intro entries key hall hfound
    obtain ⟨entry, hfind, rfl⟩ := Option.map_eq_some_iff.mp hfound
    exact hall entry (List.mem_of_find?_eq_some hfind)
  cases h with
  | scalar hscalar => exact nomatch hscalar.symm.trans hitem.isOpen.shape?_eq
  | sequence hitems hall =>
      cases hitem with
      | key | number => exact nomatch hitems
      | place hothers _ hplace =>
          cases hitems.symm.trans hothers
          exact hall found (List.mem_of_getElem? hplace)
  | map hall =>
      cases hitem with
      | key hkey => exact hentry hall hkey
      | number _ _ hnumber => exact hentry hall hnumber
      | place hitems => exact nomatch hitems

theorem follow_found {found : Value} (hsegment : ¬ IsOverlong segment)
    (hitem : Item v segment found) (rest : List String) :
    follow surroundings template v (segment :: rest) = follow surroundings template found rest := by
  obtain ⟨found?, hvalue, hfound⟩ := exists_valueAt surroundings hsegment hitem.isOpen
  rw [follow, hitem.isOpen.shape?_eq, hvalue, (hfound found).mpr hitem]

/-- Segments that lead to a value are followed to it. -/
theorem Leads.follow_eq {w : Value} {front : List String} (h : Leads v front w)
    (back : List String) :
    follow surroundings template v (front ++ back) = follow surroundings template w back := by
  induction h with
  | refl => rfl
  | step hsegment hitem _ ih => rw [List.cons_append, follow_found hsegment hitem, ih]

theorem Stops.follow_eq {fault : Fault} (h : Stops template v segment fault) (hv : IsOpen v)
    (rest : List String) : follow surroundings template v (segment :: rest) = .error fault := by
  cases h with
  | overlong h => rw [follow, hv.shape?_eq, h.valueAt_eq hv.shape?_eq]
  | missing h hmissing =>
      obtain ⟨found?, hvalue, hfound⟩ := exists_valueAt surroundings h hv
      cases found? with
      | none => rw [follow, hv.shape?_eq, hvalue]
      | some found => exact absurd ((hfound found).mp rfl) (hmissing found)

/-- A path whose segments lead up to its end or to a scalar comes to what they lead to. -/
theorem Leads.resolve_eq {root : Value} {path : String} {front back : List String}
    (h : Leads root front v) (hpath : segments path = front ++ back)
    (hend : back = [] ∨ shape? v = none) : resolve surroundings root path template = .ok v := by
  rw [resolve, hpath, h.follow_eq]
  rcases hend with rfl | hscalar
  · rfl
  · exact follow_scalar surroundings template hscalar back

/-- A path whose segments lead to one that stops it fails there. -/
theorem Stops.resolve_eq {root : Value} {path : String} {front back : List String} {fault : Fault}
    (h : Stops template v segment fault) (hpath : segments path = front ++ segment :: back)
    (hleads : Leads root front v) (hv : IsOpen v) :
    resolve surroundings root path template = .error fault := by
  rw [resolve, hpath, hleads.follow_eq]
  exact h.follow_eq hv back

/-- What segments lead to in keyed data is keyed data. -/
theorem IsKeyed.led {root : Value} {front : List String} (h : IsKeyed root)
    (hleads : Leads root front v) : IsKeyed v := by
  induction hleads with
  | refl => exact h
  | step _ hitem _ ih => exact ih (h.item hitem)

/-- In keyed data segments lead to their end or to a scalar, or some of them to keyed data in which
    the next one stops them. -/
theorem IsKeyed.leads (h : IsKeyed v) (template : String) (path : List String) :
    (∃ front back w, path = front ++ back ∧ Leads v front w ∧ (back = [] ∨ shape? w = none))
      ∨ ∃ front segment back w fault, path = front ++ segment :: back ∧ Leads v front w
        ∧ IsOpen w ∧ Stops template w segment fault := by
  induction path generalizing v with
  | nil => exact .inl ⟨[], [], v, rfl, .refl v, .inl rfl⟩
  | cons segment rest ih =>
      rcases h.shape_cases with hscalar | hkeyed
      · exact .inl ⟨[], segment :: rest, v, rfl, .refl v, .inr hscalar⟩
      by_cases hsegment : IsOverlong segment
      · exact .inr ⟨[], segment, rest, v, _, rfl, .refl v, hkeyed, .overlong hsegment⟩
      by_cases hfound : ∃ found, Item v segment found
      · obtain ⟨found, hitem⟩ := hfound
        rcases ih (h.item hitem) with ⟨front, back, w, rfl, hleads, hend⟩
          | ⟨front, next, back, w, fault, rfl, hleads, hstop⟩
        · exact .inl ⟨segment :: front, back, w, rfl, .step hsegment hitem hleads, hend⟩
        · exact .inr ⟨segment :: front, next, back, w, fault, rfl,
            .step hsegment hitem hleads, hstop⟩
      · exact .inr ⟨[], segment, rest, v, _, rfl, .refl v, hkeyed,
          .missing hsegment (not_exists.mp hfound)⟩

/-- What is found in a list or a tuple. -/
theorem lookup_sequence_eq_some_iff {items : List Value} (hitems : sequence? v = some items)
    (w : Value) : lookup surroundings v segment = .ok (.value w) ↔ ¬ IsOverlong segment
      ∧ ∃ digits, ∃ n : Nat, Writes segment digits n ∧ items[n]? = some w := by
  by_cases hsegment : IsOverlong segment
  · rw [hsegment.lookup_eq (shape?_of_sequence? hitems)]
    exact ⟨nofun, fun h => absurd hsegment h.1⟩
  · obtain ⟨found?, hlookup, hfound⟩ := exists_lookup surroundings hsegment (.inr ⟨items, hitems⟩)
    rw [hlookup, ofKeyed_eq_value_iff, hfound]
    constructor
    · intro hitem
      cases hitem with
      | place hothers hdigits hplace =>
          cases hitems.symm.trans hothers
          exact ⟨hsegment, _, _, hdigits, hplace⟩
      | key | number => exact nomatch hitems
    · rintro ⟨-, digits, n, hdigits, hplace⟩
      exact .place hitems hdigits hplace

/-- A key of a map that is the segment itself is found before any number. -/
theorem lookup_key {entries : List (Value × Value)} (hsegment : ¬ IsOverlong segment) {w : Value}
    (hkey : Value.entry? entries (.text segment) = some w) :
    lookup surroundings (.map entries) segment = .ok (.value w) := by
  obtain ⟨found?, hlookup, hfound⟩ :=
    exists_lookup surroundings (v := .map entries) hsegment (.inl ⟨entries, rfl⟩)
  rw [hlookup, (hfound w).mpr (.key hkey)]
  rfl

/-- **Keyed data**: a path comes to a value exactly if its segments lead there up to the end of the
    path or to a scalar.  It fails exactly if they lead to keyed data in which the next one stops
    them: for a variable that is missing if nothing stands under it, for an unfit value if it is
    overlong, and in no other way.  In a list or a tuple only the place that a segment writes is
    looked up, from the start, and in a map a key that is the segment comes before any number. -/
theorem resolve_keyed {root : Value} (hroot : IsKeyed root) (path template : String) :
    (∀ v, resolve surroundings root path template = .ok v ↔ ∃ front back,
        segments path = front ++ back ∧ Leads root front v ∧ (back = [] ∨ shape? v = none))
      ∧ (∀ fault, resolve surroundings root path template = .error fault ↔ ∃ front segment back v,
        segments path = front ++ segment :: back ∧ Leads root front v
          ∧ shape? v = some .keyed ∧ Stops template v segment fault)
      ∧ (∀ whole items segment, sequence? whole = some items → ∀ v,
        lookup surroundings whole segment = .ok (.value v) ↔ ¬ IsOverlong segment
          ∧ ∃ digits, ∃ n : Nat, Writes segment digits n ∧ items[n]? = some v)
      ∧ (∀ entries segment, ¬ IsOverlong segment → ∀ v,
        Value.entry? entries (.text segment) = some v →
        lookup surroundings (.map entries) segment = .ok (.value v)) := by
  -- every path leads to an end or to a stop, and what it comes to says to which
  refine ⟨fun v => ⟨fun hresolve => ?_, ?_⟩, fun fault => ⟨fun hresolve => ?_, ?_⟩,
    fun _ _ _ hitems v => lookup_sequence_eq_some_iff hitems v,
    fun _ _ hsegment v hkey => lookup_key hsegment hkey⟩
  · rcases hroot.leads template (segments path) with ⟨front, back, w, hpath, hleads, hw⟩
      | ⟨front, segment, back, w, fault, hpath, hleads, hw, hstops⟩
    · cases (hleads.resolve_eq hpath hw).symm.trans hresolve
      exact ⟨front, back, hpath, hleads, hw⟩
    · exact nomatch (hstops.resolve_eq hpath hleads hw).symm.trans hresolve
  · rintro ⟨front, back, hpath, hleads, hv⟩
    exact hleads.resolve_eq hpath hv
  · rcases hroot.leads template (segments path) with ⟨front, back, w, hpath, hleads, hw⟩
      | ⟨front, segment, back, w, fault', hpath, hleads, hw, hstops⟩
    · exact nomatch (hleads.resolve_eq hpath hw).symm.trans hresolve
    · cases (hstops.resolve_eq hpath hleads hw).symm.trans hresolve
      exact ⟨front, segment, back, w, hpath, hleads, hw.shape?_eq, hstops⟩
  · rintro ⟨front, segment, back, v, hpath, hleads, hv, hstops⟩
    rcases (hroot.led hleads).shape_cases with hscalar | hopen
    · exact nomatch hscalar.symm.trans hv
    · exact hstops.resolve_eq hpath hleads hopen

/-- A row of one digit more than are read. -/
def overlong : String :=
  String.ofList (List.replicate (Digits.most + 1) '1')

theorem isOverlong_overlong : IsOverlong overlong := by
  have hdigits : IsDigits (List.replicate (Digits.most + 1) '1') := by
    refine ⟨List.cons_ne_nil _ _, fun c hc => ?_⟩
    rw [List.eq_of_mem_replicate hc]
    rfl
  refine ⟨_, _, .natural hdigits, ?_⟩
  rw [List.length_replicate]
  exact Nat.lt_succ_self _

theorem dot_notMem_overlong : '.' ∉ overlong.toList := by
  rw [overlong, String.toList_ofList]
  exact fun hmem => absurd (List.eq_of_mem_replicate hmem) (by decide)

theorem segments_overlong : segments overlong = [overlong] := by
  rw [segments, List.splitOn_eq_singleton dot_notMem_overlong, List.map_singleton,
    String.ofList_toList]

/-- A list in a list. -/
def listed : Value :=
  .list [.list [.text "x", .text "y"]]

/-- In the inner list an overlong segment is not missing as others are: the path fails otherwise. -/
theorem resolve_keyed_overlong : IsKeyed listed
    ∧ resolve .none listed ("0" ++ "." ++ "-1") "card" = .error (.noVariable .keyed "-1" "card")
    ∧ resolve .none listed ("0" ++ "." ++ overlong) "card" = .error .badValue := by
  have hitems : IsKeyed (.list [.text "x", .text "y"]) :=
    .sequence rfl (by simpa using ⟨.scalar rfl, .scalar rfl⟩)
  have hroot : IsKeyed listed := .sequence rfl (by simpa using hitems)
  have hzero : Writes "0" ['0'] 0 :=
    .natural ⟨List.cons_ne_nil _ _, List.forall_mem_singleton.mpr rfl⟩
  have hfirst : Leads listed ["0"] (.list [.text "x", .text "y"]) :=
    .step (not_isOverlong_of_length_le (by decide)) (.place rfl hzero rfl) (.refl _)
  refine ⟨hroot, rfl, ((resolve_keyed hroot _ "card").2.1 _).mpr
    ⟨["0"], overlong, [], _, ?_, hfirst, rfl, .overlong isOverlong_overlong⟩⟩
  rw [segments_dotted, segments_overlong]
  rfl

end Stencil.BindPath
