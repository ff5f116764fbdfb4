import Stencil.Native.Reader
import Stencil.Proofs.Native.Segments

/-! # Blocks — how names and conditionals are read

    Through all the levels of operators a name alone is read as that variable,
    and nothing that begins with a per cent sign is read at all.  Parts are read
    from the front: a name that is put in stands for itself, a conditional takes
    its body up to its end, and no expression is passed over unread.

    Headline: `branchCondition?_name`, `output?_name`, `HasParts.conditional`, `parts_consumes`. -/

namespace Stencil.Native.Reader

/-! ## A name alone -/

section Levels

variable {whole next : Reader Expr} {word : Word} {words : List Word} {e : Expr}

theorem level_alone (h : next [word] = some (e, [])) (operator? : Word → Option Value.Operator) :
    level next operator? [word] = some (e, []) := by
  rw [level, h]
  rfl

theorem level_none (h : next words = none) (operator? : Word → Option Value.Operator) :
    level next operator? words = none := by
  rw [level, h]
  rfl

/-- A name is read as a variable below the comparisons. -/
theorem sum_name (name : String) : sum whole [.name name] = some (named name, []) := by
  have hprimary : primary whole [.name name] = some (named name, []) := rfl
  have hoperand : operand whole [.name name] = some (named name, []) := rfl
  have hproduct : product whole [.name name] = some (named name, []) :=
    level_alone (level_alone hoperand _) _
  have hjoin : concatenation whole [.name name] = some (named name, []) := by
    rw [concatenation, hproduct]
    rfl
  exact level_alone hjoin _

/-- A name alone is read as a variable, unless it negates. -/
theorem disjunction_name {name : String} (hname : name ≠ "not") :
    disjunction whole [.name name] = some (named name, []) := by
  have hcompared : compared whole [.name name] = some (named name, []) := by
    rw [compared, sum_name]
    rfl
  have hword : word? "not" [.name name] = none := by
    refine if_neg fun heq => hname ?_
    exact Word.name.inj (beq_iff_eq.mp heq)
  have hnegated : negated whole 2 [.name name] = some (named name, []) := by
    rw [negated, hword]
    exact hcompared
  have hconjunction : conjunction whole [.name name] = some (named name, []) := by
    show (negated whole 2 [.name name]).bind _ = _
    rw [hnegated]
    rfl
  rw [disjunction, hconjunction]
  rfl

/-- Nothing that begins with a per cent sign is read below the comparisons. -/
theorem sum_percent (words : List Word) : sum whole (.mark "%" :: words) = none := by
  have hoperand : operand whole (.mark "%" :: words) = none := rfl
  have hproduct : product whole (.mark "%" :: words) = none :=
    level_none (level_none hoperand _) _
  have hjoin : concatenation whole (.mark "%" :: words) = none := by
    rw [concatenation, hproduct]
    rfl
  exact level_none hjoin _

theorem disjunction_percent (words : List Word) :
    disjunction whole (.mark "%" :: words) = none := by
  have hnegated : negated whole ((Word.mark "%" :: words).length + 1) (.mark "%" :: words)
      = none := by
    show compared whole (.mark "%" :: words) = none
    rw [compared, sum_percent]
    rfl
  have hconjunction : conjunction whole (.mark "%" :: words) = none := by
    rw [conjunction]
    simp only [hnegated]
    rfl
  rw [disjunction, hconjunction]
  rfl

end Levels

/-- A condition that is a name alone is that variable. -/
theorem branchCondition?_name {name : String} (hname : name ≠ "not") (line : Nat) :
    branchCondition? [.name name] line = some (named name) := by
  have hcondition : condition line [.name name] = some (named name, []) := by
    show ((disjunction (whole line [.name name]) [.name name]).bind _).bind _ = _
    rw [disjunction_name hname]
    rfl
  rw [branchCondition?, hcondition]

/-- A tag of an expression that is a name alone is that variable. -/
theorem output?_name {name : String} (hname : name ≠ "not") (line : Nat) :
    output? [.name name] line = some (named name) := by
  have hwhole : whole line [.name name] [.name name] = some (named name, []) := by
    rw [whole, expression, disjunction_name hname]
    rfl
  have htupled : tupled (whole line [.name name]) atEnd false [.name name]
      = some (named name, []) := by
    have hitems : itemsAndRest (whole line [.name name]) atEnd ([Word.name name].length + 1)
        [.name name] = some (([named name], false), []) := by
      rw [itemsAndRest, hwhole]
      rfl
    have hend : atEnd [.name name] = false := rfl
    rw [tupled, hend, hitems]
    rfl
  rw [output?, htupled]

/-- No tag that begins with a per cent sign is an expression. -/
theorem output?_percent (words : List Word) (line : Nat) :
    output? (.mark "%" :: words) line = none := by
  have hwhole : whole line (.mark "%" :: words) (.mark "%" :: words) = none := by
    rw [whole, expression, disjunction_percent]
    rfl
  have htupled : tupled (whole line (.mark "%" :: words)) atEnd false (.mark "%" :: words)
      = none := by
    have hitems : itemsAndRest (whole line (.mark "%" :: words)) atEnd
        ((Word.mark "%" :: words).length + 1) (.mark "%" :: words) = none := by
      rw [itemsAndRest, hwhole]
      rfl
    have hend : atEnd (.mark "%" :: words) = false := rfl
    rw [tupled, hend, hitems]
    rfl
  rw [output?, htupled]

/-! ## Parts that are read -/

/-- Whether segments, read from the front, come to some parts. -/
def HasParts (segments : List Segment) (result : Parts) : Prop :=
  ∀ fuel, segments.length < fuel → parts fuel segments = some result

variable {segments rest : List Segment} {nodes : List Node} {ending : Ending} {line : Nat}

theorem hasParts_nil : HasParts [] ([], .finished, []) := by
  intro fuel hfuel
  cases fuel with
  | zero => cases hfuel
  | succ fuel => rfl

/-- A statement that ends others ends the parts in front of it. -/
theorem hasParts_ending {words : List Word} (hwords : isEnding words = true) (line : Nat)
    (segments : List Segment) :
    HasParts (.statement words line :: segments) ([], .closed words line, segments) := by
  intro fuel hfuel
  cases fuel with
  | zero => cases hfuel
  | succ fuel => exact if_pos hwords

theorem HasParts.text (h : HasParts segments (nodes, ending, rest)) (run : List Char) :
    HasParts (.text run :: segments) (.text (String.ofList run) :: nodes, ending, rest) := by
  intro fuel hfuel
  cases fuel with
  | zero => cases hfuel
  | succ fuel =>
      show (parts fuel segments).bind _ = _
      rw [h fuel (Nat.lt_of_succ_lt_succ hfuel)]
      rfl

theorem HasParts.output (h : HasParts segments (nodes, ending, rest)) {words : List Word} {e : Expr}
    (he : output? words line = some e) :
    HasParts (.expression words line :: segments) (.output e :: nodes, ending, rest) := by
  intro fuel hfuel
  cases fuel with
  | zero => cases hfuel
  | succ fuel =>
      show (output? words line).bind _ = _
      rw [he]
      show (parts fuel segments).bind _ = _
      rw [h fuel (Nat.lt_of_succ_lt_succ hfuel)]
      rfl

/-- A conditional takes the parts up to its end as its body. -/
theorem HasParts.conditional {name : String} (hname : name ≠ "not") {body : List Node}
    {behind : List Segment} (hlength : behind.length < segments.length)
    (hbody : HasParts segments (body, .closed [.name "endif"] line, behind))
    (h : HasParts behind (nodes, ending, rest)) (start : Nat) :
    HasParts (.statement [.name "if", .name name] start :: segments)
      (.branch (named name) body [] :: nodes, ending, rest) := by
  intro fuel hfuel
  cases fuel with
  | zero => cases hfuel
  | succ fuel =>
      have hfuel : segments.length < fuel := Nat.lt_of_succ_lt_succ hfuel
      have hbranch : branchParts (parts fuel) (named name) (segments.length + 1) segments
          = some (.branch (named name) body [], behind) := by
        rw [branchParts, hbody fuel hfuel]
        rfl
      have hstatement : statement (parts fuel) [.name "if", .name name] start segments
          = some (.branch (named name) body [], behind) := by
        show (branchCondition? [.name name] start).bind _ = _
        rw [branchCondition?_name hname]
        exact hbranch
      show (statement (parts fuel) [.name "if", .name name] start segments).bind _ = _
      rw [hstatement]
      show (parts fuel behind).bind _ = _
      rw [h fuel (Nat.lt_trans hlength hfuel)]
      rfl

/-! ## Nothing is passed over -/

/-- Whether a segment, if it is an expression, can be read. -/
def IsReadable : Segment → Prop
  | .expression words line => (output? words line).isSome
  | _ => True

/-- Whether all segments are readable that are not left over. -/
def ReadsUpTo (segments rest : List Segment) : Prop :=
  ∀ segment ∈ segments, IsReadable segment ∨ segment ∈ rest

theorem ReadsUpTo.trans {middle : List Segment} (h : ReadsUpTo segments middle)
    (h' : ReadsUpTo middle rest) : ReadsUpTo segments rest :=
  fun segment hmem => (h segment hmem).elim .inl (h' segment)

theorem ReadsUpTo.cons {segment : Segment} (hsegment : IsReadable segment)
    (h : ReadsUpTo segments rest) : ReadsUpTo (segment :: segments) rest := by
  intro other hmem
  rcases List.mem_cons.mp hmem with rfl | hmem
  · exact .inl hsegment
  · exact h other hmem

/-- Whether a reader of parts passes over no expression, and finishes with nothing left. -/
def Consumes (body : List Segment → Option Parts) : Prop :=
  ∀ segments nodes ending rest, body segments = some (nodes, ending, rest) →
    ReadsUpTo segments rest ∧ (ending = .finished → rest = [])

variable {body : List Segment → Option Parts} {node : Node}

theorem branchParts_consumes (hbody : Consumes body) {condition : Expr} {fuel : Nat}
    (h : branchParts body condition fuel segments = some (node, rest)) :
    ReadsUpTo segments rest := by
  induction fuel generalizing condition node segments rest with
  | zero => cases h
  | succ fuel ih =>
      rw [branchParts] at h
      obtain ⟨⟨yes, ending, behind⟩, hyes, h⟩ := Option.bind_eq_some_iff.mp h
      obtain ⟨hread, _⟩ := hbody _ _ _ _ hyes
      simp only at h
      split at h
      · cases h
      · cases h
        exact hread
      · -- another condition: the branches behind it are read the same way
        obtain ⟨next, _, h⟩ := Option.bind_eq_some_iff.mp h
        obtain ⟨⟨inner, last⟩, hinner, h⟩ := Option.bind_eq_some_iff.mp h
        cases h
        exact hread.trans (ih hinner)
      · split at h
        · obtain ⟨⟨no, ending, last⟩, hno, h⟩ := Option.bind_eq_some_iff.mp h
          obtain ⟨hlast, _⟩ := hbody _ _ _ _ hno
          simp only at h
          split at h
          · cases h
            exact hread.trans hlast
          · cases h
        · cases h

theorem loopParts_consumes (hbody : Consumes body) {head : Target × Expr × Option Expr}
    (h : loopParts body head segments = some (node, rest)) : ReadsUpTo segments rest := by
  rw [loopParts] at h
  obtain ⟨⟨inside, ending, behind⟩, hinside, h⟩ := Option.bind_eq_some_iff.mp h
  obtain ⟨hread, _⟩ := hbody _ _ _ _ hinside
  simp only at h
  split at h
  · cases h
  · cases h
    exact hread
  · split at h
    · obtain ⟨⟨otherwise, ending, last⟩, hotherwise, h⟩ := Option.bind_eq_some_iff.mp h
      obtain ⟨hlast, _⟩ := hbody _ _ _ _ hotherwise
      simp only at h
      split at h
      · cases h
        exact hread.trans hlast
      · cases h
    · cases h

theorem statement_consumes (hbody : Consumes body) {words : List Word}
    (h : statement body words line segments = some (node, rest)) : ReadsUpTo segments rest := by
  unfold statement at h
  split at h
  · obtain ⟨_, _, h⟩ := Option.bind_eq_some_iff.mp h
    exact branchParts_consumes hbody h
  · obtain ⟨_, _, h⟩ := Option.bind_eq_some_iff.mp h
    exact loopParts_consumes hbody h
  · obtain ⟨_, _, h⟩ := Option.bind_eq_some_iff.mp h
    cases h
    exact fun segment hmem => .inr hmem
  · cases h

/-- Reading parts passes over no expression. -/
theorem parts_consumes (fuel : Nat) : Consumes (parts fuel) := by
  induction fuel with
  | zero =>
      intro segments nodes ending rest h
      cases h
  | succ fuel ih =>
      intro segments nodes ending rest h
      cases segments with
      | nil =>
          cases h
          exact ⟨fun segment hmem => (nomatch hmem), fun _ => rfl⟩
      | cons segment segments =>
          cases segment with
          | text run =>
              obtain ⟨⟨nodes, ending, behind⟩, hparts, h⟩ := Option.bind_eq_some_iff.mp h
              cases h
              obtain ⟨hread, hfinished⟩ := ih _ _ _ _ hparts
              exact ⟨hread.cons trivial, hfinished⟩
          | expression words line =>
              obtain ⟨e, houtput, h⟩ := Option.bind_eq_some_iff.mp h
              obtain ⟨⟨nodes, ending, behind⟩, hparts, h⟩ := Option.bind_eq_some_iff.mp h
              cases h
              obtain ⟨hread, hfinished⟩ := ih _ _ _ _ hparts
              exact ⟨hread.cons (Option.isSome_iff_exists.mpr ⟨e, houtput⟩), hfinished⟩
          | statement words line =>
              change (if isEnding words = true then _ else _) = _ at h
              split at h
              · -- an end is given back together with all that is behind it
                cases h
                exact ⟨.cons trivial fun segment hmem => .inr hmem,
                  fun hending => (nomatch hending)⟩
              · obtain ⟨⟨node, middle⟩, hnode, h⟩ := Option.bind_eq_some_iff.mp h
                obtain ⟨⟨nodes, ending, behind⟩, hparts, h⟩ := Option.bind_eq_some_iff.mp h
                cases h
                obtain ⟨hread, hfinished⟩ := ih _ _ _ _ hparts
                exact ⟨.cons trivial ((statement_consumes ih hnode).trans hread), hfinished⟩

end Stencil.Native.Reader

namespace Stencil.Native

/-- A spoiled segment is spoiled under whatever names. -/
theorem Segment.IsSpoiled.rename {segment : Segment} (h : segment.IsSpoiled)
    (rename : String → String) : (segment.rename rename).IsSpoiled := by
  unfold IsSpoiled at h
  split at h
  · trivial
  · cases h

/-- A template with a spoiled segment is no program. -/
theorem read?_eq_none {source : List Char} (h : Spoiled (Text.unifyLines source)) :
    Program.read? source = none := by
  cases hread : Program.read? source with
  | none => rfl
  | some program =>
      rw [Program.read?] at hread
      obtain ⟨segments, hsegments, hread⟩ := Option.bind_eq_some_iff.mp hread
      obtain ⟨segment, hmem, hspoiled⟩ := h _ _ _ segments hsegments
      obtain ⟨renamed, hrenamed, hspoiled⟩ : ∃ renamed ∈ unified segments, renamed.IsSpoiled :=
        ⟨_, List.mem_map_of_mem hmem, hspoiled.rename _⟩
      dsimp only at hread
      split at hread
      · next nodes rest hparts =>
        obtain ⟨hreads, hfinished⟩ := Reader.parts_consumes _ _ _ _ _ hparts
        rcases hreads renamed hrenamed with hreadable | hrest
        · unfold Segment.IsSpoiled at hspoiled
          split at hspoiled
          · next more line =>
            rw [Reader.IsReadable] at hreadable
            simp only [Reader.output?_percent] at hreadable
            cases hreadable
          · cases hspoiled
        · -- a program that is finished leaves nothing over
          rw [hfinished rfl] at hrest
          cases hrest
      · cases hread

end Stencil.Native
