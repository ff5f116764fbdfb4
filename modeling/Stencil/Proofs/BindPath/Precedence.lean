import Stencil.Proofs.BindPath.Composition

/-! # Precedence — the sources of a member and their order

    A segment of a structured value is asked of four sources in turn: an own field,
    a slot that is set, the accessor that is declared for it, and reading the member
    like any reader.  A source is present or absent, and what is read from the first
    one that is present is the answer, whatever the later ones hold or fail with.
    Only the last source may say that there is no such member; the failure of an
    earlier one is the failure of the lookup.

    An accessor has to be declared by the record or its kind.  But where the declared
    member has no value, as a slot that is not set, what is called is the member that
    the record serves under its name, if it serves one.

    Headline: `lookup_ordered`. -/

namespace Stencil.BindPath

/-! ## Declared members -/

/-- What reading a member that a record or its kind declares comes to by itself. -/
def declared? (r : Record Value) (name : String) : Option (Except Failure Value) :=
  match r.properties.lookup name with
  | some outcome => some (run outcome)
  | none =>
    match r.slots.lookup name with
    | some v => some (.ok v)
    | none =>
      if r.emptySlots.contains name then some (.error .noMember)
      else
        match (r.fields.getD []).lookup name with
        | some v => some (.ok v)
        | none =>
          match r.getters.lookup name with
          | some outcome => some (.ok (.action outcome))
          | none => (r.statics.lookup name).map .ok

theorem declares_eq (r : Record Value) (name : String) :
    declares r name = (declared? r name).isSome := by
  unfold declares declared?
  cases r.properties.lookup name with
  | some outcome => rfl
  | none =>
      cases r.slots.lookup name with
      | some v => rfl
      | none =>
          cases r.emptySlots.contains name with
          | true => rfl
          | false =>
              cases (r.fields.getD []).lookup name with
              | some v => rfl
              | none => cases r.getters.lookup name <;> simp

/-- A member is read as it is declared, and as it is served if it is not declared or is declared
    without a value. -/
theorem read_eq (r : Record Value) (name : String) : read r name
    = match declared? r name with
      | some (.error .noMember) => served r name
      | some own => own
      | none => served r name := by
  unfold read declared?
  cases r.properties.lookup name with
  | some outcome =>
      cases outcome with
      | gives v => rfl
      | fails failure => cases failure <;> rfl
  | none =>
      cases r.slots.lookup name with
      | some v => rfl
      | none =>
          cases r.emptySlots.contains name with
          | true => rfl
          | false =>
              cases (r.fields.getD []).lookup name with
              | some v => rfl
              | none =>
                  cases r.getters.lookup name with
                  | some outcome => rfl
                  | none => cases r.statics.lookup name <;> rfl

/-! ## Sources -/

/-- What there is to call if a member can be called, the failure to read it included; nothing if it
    cannot. -/
def called? : Except Trouble Value → Option (Except Trouble Found)
  | .ok v => if v.isCallable then some (.ok (.calling v)) else none
  | .error cause => some (.error cause)

/-- The sources of a segment. -/
inductive Source where
  | field
  | slot
  | accessor
  | plain
deriving DecidableEq

/-- The sources that are asked before a source. -/
def Source.earlier : Source → List Source
  | field => []
  | slot => [field]
  | accessor => [field, slot]
  | plain => [field, slot, accessor]

/-- What a source of an object comes to; nothing if it is absent, as the last never is. -/
def reading (facets : Facets) (segment : String) : Source → Option (Except Trouble Found)
  | .field => (facets.field? segment).map fun v => .ok (.value v)
  | .slot => (facets.slot? segment).map fun v => .ok (.value v)
  | .accessor => (accessorName? segment).bind fun name =>
    if facets.declares name then called? (facets.read name) else none
  | .plain => some ((facets.read segment).map .value)

/-- The failures that say that there is no such member. -/
def missingFailures : List Failure :=
  [.noMember, .noKey, .noIndex, .noLookup]

theorem isMissing_iff {cause : Trouble} :
    isMissing cause = true ↔ ∃ failure ∈ missingFailures, cause = .failure failure := by
  constructor
  · intro h
    cases cause with
    | failure failure =>
        cases failure with
        | noMember | noKey | noIndex | noLookup => exact ⟨_, by decide, rfl⟩
        | _ => cases h
    | _ => cases h
  · rintro ⟨failure, hmem, rfl⟩
    cases failure with
    | noMember | noKey | noIndex | noLookup => rfl
    | _ => exact absurd hmem (by decide)

/-- The answer of a lookup from what its source comes to: only the last source may lack a member. -/
def Source.answer (source : Source) (outcome : Except Trouble Found) : Except Trouble Found :=
  match source, outcome with
  | plain, .error cause => if isMissing cause then .ok .missing else .error cause
  | _, outcome => outcome

/-! ## The order of the sources -/

/-- The sources in the order in which they are asked. -/
def Source.order : List Source :=
  [field, slot, accessor, plain]

/-- The answer of the first of some sources that is present. -/
def Source.first (found? : Source → Option (Except Trouble Found)) :
    List Source → Except Trouble Found
  | [] => .ok .missing
  | source :: later =>
    match found? source with
    | some outcome => source.answer outcome
    | none => first found? later

theorem Source.first_eq {found? : Source → Option (Except Trouble Found)} {source : Source}
    {outcome : Except Trouble Found} {before : List Source} (later : List Source)
    (habsent : ∀ e ∈ before, found? e = none) (h : found? source = some outcome) :
    first found? (before ++ source :: later) = source.answer outcome := by
  induction before with
  | nil => rw [List.nil_append, first, h]
  | cons e before ih =>
      obtain ⟨he, hrest⟩ := List.forall_mem_cons.mp habsent
      rw [List.cons_append, first, he]
      exact ih hrest

theorem Source.order_eq (source : Source) : ∃ later, order = source.earlier ++ source :: later := by
  cases source <;> exact ⟨_, rfl⟩

theorem accessor?_eq (facets : Facets) (segment : String) : accessor? facets segment
    = match reading facets segment .accessor with
      | some (.ok (.calling callee)) => .ok (some callee)
      | some (.error cause) => .error cause
      | _ => .ok none := by
  unfold accessor? reading
  cases accessorName? segment with
  | none => rfl
  | some name =>
      dsimp only [Option.bind_some]
      cases facets.declares name with
      | false => rfl
      | true =>
          cases facets.read name with
          | error cause => rfl
          | ok v =>
              change Except.ok (if v.isCallable then some v else none) = _
              dsimp only [called?]
              cases v.isCallable <;> rfl

theorem readLast_eq (facets : Facets) (segment : String) :
    readLast facets segment = Source.plain.answer ((facets.read segment).map .value) := by
  rw [readLast]
  cases facets.read segment <;> rfl

/-- What reading an accessor comes to is something to call, or a failure. -/
theorem reading_accessor_cases {facets : Facets} {segment : String} {outcome : Except Trouble Found}
    (h : reading facets segment .accessor = some outcome) :
    (∃ callee, outcome = .ok (.calling callee)) ∨ ∃ cause, outcome = .error cause := by
  obtain ⟨name, -, hname⟩ := Option.bind_eq_some_iff.mp h
  split at hname
  · cases hread : facets.read name with
    | error cause =>
        rw [hread] at hname
        cases hname
        exact .inr ⟨cause, rfl⟩
    | ok v =>
        rw [hread, called?] at hname
        split at hname
        · cases hname
          exact .inl ⟨v, rfl⟩
        · cases hname
  · cases hname

/-- A segment of an object is looked up in its sources in their order. -/
theorem member_eq_first (facets : Facets) (segment : String) :
    member facets segment = Source.first (reading facets segment) Source.order := by
  rw [Source.order]
  simp only [Source.first]
  rw [member]
  cases hfield : facets.field? segment with
  | some v => simp only [reading, hfield]; rfl
  | none =>
      cases hslot : facets.slot? segment with
      | some v => simp only [reading, hfield, hslot]; rfl
      | none =>
          dsimp only
          rw [accessor?_eq]
          have habsent : reading facets segment .field = none
              ∧ reading facets segment .slot = none := by
            simp [reading, hfield, hslot]
          rw [habsent.1, habsent.2]
          cases haccessor : reading facets segment .accessor with
          | none => exact readLast_eq facets segment
          | some outcome =>
              rcases reading_accessor_cases haccessor with ⟨callee, rfl⟩ | ⟨cause, rfl⟩ <;> rfl

/-- Some source is the first one that is present. -/
theorem exists_first (facets : Facets) (segment : String) :
    ∃ source outcome, (∀ e ∈ source.earlier, reading facets segment e = none)
      ∧ reading facets segment source = some outcome := by
  cases hfield : reading facets segment .field with
  | some outcome => exact ⟨.field, outcome, List.forall_mem_nil _, hfield⟩
  | none =>
      cases hslot : reading facets segment .slot with
      | some outcome => exact ⟨.slot, outcome, by simpa [Source.earlier] using hfield, hslot⟩
      | none =>
          cases haccessor : reading facets segment .accessor with
          | some outcome =>
              exact ⟨.accessor, outcome, by simp [Source.earlier, hfield, hslot], haccessor⟩
          | none => exact ⟨.plain, _, by simp [Source.earlier, hfield, hslot, haccessor], rfl⟩

variable {surroundings : Surroundings} {v : Value}

/-- What the first source that is present comes to is the answer. -/
theorem lookup_eq_answer {segment : String} {source : Source} {outcome : Except Trouble Found}
    (hv : shape? v = some .structured)
    (habsent : ∀ e ∈ source.earlier, reading (surroundings.facets v) segment e = none)
    (h : reading (surroundings.facets v) segment source = some outcome) :
    lookup surroundings v segment = source.answer outcome := by
  obtain ⟨later, horder⟩ := source.order_eq
  rw [lookup_structured hv, member_eq_first, horder]
  exact Source.first_eq later habsent h

/-- Only the last source says that there is no such member. -/
theorem answer_eq_missing {facets : Facets} {segment : String} {source : Source}
    {outcome : Except Trouble Found} (h : reading facets segment source = some outcome)
    (hmissing : source.answer outcome = .ok .missing) :
    source = .plain ∧ ∃ failure ∈ missingFailures, outcome = .error (.failure failure) := by
  cases source with
  | plain =>
      cases outcome with
      | ok found =>
          -- plain reading gives a value or fails
          cases hread : facets.read segment with
          | ok w =>
              rw [reading, hread] at h
              cases h
              cases hmissing
          | error cause =>
              rw [reading, hread] at h
              cases h
      | error cause =>
          rw [Source.answer] at hmissing
          split at hmissing
          · next hcause =>
            obtain ⟨failure, hmem, rfl⟩ := isMissing_iff.mp hcause
            exact ⟨rfl, failure, hmem, rfl⟩
          · cases hmissing
  | field | slot =>
      obtain ⟨w, -, rfl⟩ := Option.map_eq_some_iff.mp h
      cases hmissing
  | accessor =>
      rcases reading_accessor_cases h with ⟨callee, rfl⟩ | ⟨cause, rfl⟩ <;> cases hmissing

/-- A segment is missing exactly if plain reading is the first source and does not find it. -/
theorem lookup_eq_missing_iff (hv : shape? v = some .structured) (segment : String) :
    lookup surroundings v segment = .ok .missing
      ↔ (∀ e ∈ Source.plain.earlier, reading (surroundings.facets v) segment e = none)
        ∧ ∃ failure ∈ missingFailures,
          reading (surroundings.facets v) segment .plain = some (.error (.failure failure)) := by
  constructor
  · intro hmissing
    obtain ⟨source, outcome, habsent, h⟩ := exists_first (surroundings.facets v) segment
    rw [lookup_eq_answer hv habsent h] at hmissing
    obtain ⟨rfl, failure, hmem, rfl⟩ := answer_eq_missing h hmissing
    exact ⟨habsent, failure, hmem, h⟩
  · rintro ⟨habsent, failure, hmem, h⟩
    rw [lookup_eq_answer hv habsent h]
    exact if_pos (isMissing_iff.mpr ⟨failure, hmem, rfl⟩)

/-- What is called for an object is the value of its segment, or fails as the call does. -/
theorem valueAt_eq_call {segment : String} {callee : Value} (hv : shape? v = some .structured)
    (habsent : ∀ e ∈ Source.accessor.earlier, reading (surroundings.facets v) segment e = none)
    (h : reading (surroundings.facets v) segment .accessor = some (.ok (.calling callee))) :
    valueAt surroundings v segment = (surroundings.call callee).map some := by
  rw [valueAt, lookup_eq_answer hv habsent h]
  rfl

/-- What a record serves is called only where the record declares a member without a value. -/
theorem reading_accessor_record {segment name : String} (hname : accessorName? segment = some name)
    (r : Record Value) : reading (.ofRecord r) segment .accessor
      = match declared? r name with
        | some (.error .noMember) => called? ((served r name).mapError .failure)
        | some own => called? (own.mapError .failure)
        | none => none := by
  have hread : (Facets.ofRecord r).read name = (read r name).mapError .failure := rfl
  have hdeclares : (Facets.ofRecord r).declares name = (declared? r name).isSome :=
    declares_eq r name
  rw [reading, hname, Option.bind_some, hread, hdeclares, read_eq]
  rcases declared? r name with _ | failure | own
  · rfl
  · cases failure <;> rfl
  · rfl

/-- **Precedence**: a segment of a structured value is looked up in its own fields, its set slots,
    its accessor and by plain reading, in this order.  The first source that is present decides,
    so that two values with the same first source have the same lookup; the segment is missing
    exactly if the last source is the first and fails for a member, a key, an index or a lookup
    that comes to nothing.  The failure to read an accessor is the failure of the lookup, and what
    calling it comes to is the value or its fault.  The accessor of a record is the member that it
    declares, or no source at all if it declares none that can be called; but if the declared one
    has no value, it is the member that the record serves. -/
theorem lookup_ordered {surroundings : Surroundings} {v : Value}
    (hv : shape? v = some .structured) (segment : String) :
    (∀ source outcome,
        (∀ e ∈ source.earlier, reading (surroundings.facets v) segment e = none) →
        reading (surroundings.facets v) segment source = some outcome →
        lookup surroundings v segment = source.answer outcome)
      ∧ (∀ source (surroundings' : Surroundings) w, shape? w = some .structured →
        (∀ e ∈ source.earlier, reading (surroundings.facets v) segment e = none
          ∧ reading (surroundings'.facets w) segment e = none) →
        reading (surroundings.facets v) segment source
          = reading (surroundings'.facets w) segment source →
        reading (surroundings.facets v) segment source ≠ none →
        lookup surroundings v segment = lookup surroundings' w segment)
      ∧ (lookup surroundings v segment = .ok .missing ↔
        (∀ e ∈ Source.plain.earlier, reading (surroundings.facets v) segment e = none)
          ∧ ∃ failure ∈ missingFailures,
            reading (surroundings.facets v) segment .plain = some (.error (.failure failure)))
      ∧ ((∀ e ∈ Source.accessor.earlier, reading (surroundings.facets v) segment e = none) →
        (∀ cause, reading (surroundings.facets v) segment .accessor = some (.error cause) →
          lookup surroundings v segment = .error cause)
        ∧ ∀ callee,
          reading (surroundings.facets v) segment .accessor = some (.ok (.calling callee)) →
          valueAt surroundings v segment = (surroundings.call callee).map some)
      ∧ ∀ r name, surroundings.facets v = .ofRecord r → accessorName? segment = some name →
        (declared? r name = none → reading (surroundings.facets v) segment .accessor = none)
          ∧ (∀ own, declared? r name = some own → own ≠ .error .noMember →
            reading (surroundings.facets v) segment .accessor = called? (own.mapError .failure))
          ∧ (declared? r name = some (.error .noMember) →
            reading (surroundings.facets v) segment .accessor
              = called? ((served r name).mapError .failure)) := by
  refine ⟨fun _ _ => lookup_eq_answer hv, ?_, lookup_eq_missing_iff hv segment,
    fun habsent => ⟨fun _ => lookup_eq_answer hv habsent, fun _ => valueAt_eq_call hv habsent⟩, ?_⟩
  · intro source surroundings' w hw habsent hsame hpresent
    obtain ⟨outcome, h⟩ := Option.ne_none_iff_exists'.mp hpresent
    rw [lookup_eq_answer hv (fun e he => (habsent e he).1) h,
      lookup_eq_answer hw (fun e he => (habsent e he).2) (hsame ▸ h)]
  · intro r name hrecord hname
    rw [hrecord, reading_accessor_record hname]
    refine ⟨fun h => by rw [h], fun own h hown => ?_, fun h => by rw [h]⟩
    rw [h]
    rcases own with failure | found
    · cases failure with
      | noMember => exact absurd rfl hown
      | _ => rfl
    · rfl

/-- A record that declares an accessor without a value, and serves one. -/
def unset : Record Value where
  label := "user"
  fields := none
  slots := []
  emptySlots := ["getAge"]
  statics := []
  getters := []
  properties := []
  dynamic := some ([("age", .int 5), ("getAge", .action (.gives (.int 99)))], .noMember)

/-- The accessor that is served in place of the declared one comes before the member itself. -/
theorem lookup_ordered_served : shape? (.record 0 unset) = some .structured
    ∧ declared? unset "getAge" = some (.error .noMember)
    ∧ read unset "age" = .ok (.int 5)
    ∧ lookup .none (.record 0 unset) "age" = .ok (.calling (.action (.gives (.int 99))))
    ∧ valueAt .none (.record 0 unset) "age" = .ok (some (.int 99)) := by
  obtain ⟨hfirst, -, -, haccessor, hrecord⟩ := @lookup_ordered .none (.record 0 unset) rfl "age"
  have hserved := (hrecord unset "getAge" rfl rfl).2.2 rfl
  have habsent : ∀ e ∈ Source.accessor.earlier, reading (.ofRecord unset) "age" e = none := by
    decide
  exact ⟨rfl, rfl, rfl, hfirst .accessor _ habsent hserved, (haccessor habsent).2 _ hserved⟩

end Stencil.BindPath
