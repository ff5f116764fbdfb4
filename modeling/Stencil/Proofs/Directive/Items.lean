import Mathlib.Data.List.Chain
import Stencil.Proofs.Directive.Document

/-! # Items — sources as rows of runs and tags

    A source can be written item by item: runs of text, opening tags with any
    number of attributes and perhaps a slash at the end, and closing tags.
    However the blanks and the quotes are chosen, the body of a tag ends where it
    was written to end, and it says what was written.

    Headline: `tokenize_source`. -/

namespace Stencil.Directive

open Stencil.Text

/-! ## Items and how they are written -/

/-- An attribute in a layout: a key that can be read, and a value that does not hold its quote. -/
structure Assignment where
  layout : Layout
  key : List Char
  value : List Char
  isKey_key : isKey key = true
  quote_notMem : layout.quote.char ∉ value

namespace Assignment

/-- The attribute of an assignment. -/
def entry (assignment : Assignment) : Attribute :=
  (assignment.key, assignment.value)

/-- The text of an assignment. -/
def write (assignment : Assignment) : List Char :=
  assignment.layout.write assignment.key assignment.value

end Assignment

/-- The end of an opening tag behind its attributes: blanks, or a slash among blanks. -/
inductive Ending where
  | plain (gap : Gap)
  | slashed (before after : Gap)

namespace Ending

/-- The text of an ending. -/
def write : Ending → List Char
  | .plain gap => gap.val
  | .slashed before after => before.val ++ '/' :: after.val

/-- Whether an ending holds a slash. -/
def isSlashed : Ending → Bool
  | .plain _ => false
  | .slashed _ _ => true

end Ending

/-- An item of a source. -/
inductive Item where
  | run (text : List Char)
  | opening (name : List Char) (assignments : List Assignment) (ending : Ending)
  | closing (name : List Char) (gap : Gap)

namespace Item

/-- Whether an item is a run of text. -/
def isRun : Item → Bool
  | .run _ => true
  | _ => false

/-- The piece of a source that an item is. -/
def piece : Item → Piece
  | .run text => .text text
  | .opening name assignments ending =>
      .tag ⟨false, name, assignments.flatMap Assignment.write ++ ending.write⟩
  | .closing name gap => .tag ⟨true, name, gap.val⟩

/-- The text of an item. -/
def source (ns : List Char) (item : Item) : List Char :=
  item.piece.source ns

/-- What an item stands for. -/
def kind : Item → TokenKind
  | .run _ => .text
  | .opening name assignments ending =>
      .opening name (assignments.map Assignment.entry) ending.isSlashed
  | .closing name _ => .closing name

/-- Items that say what they mean to: a run holds something, but no start of a tag; a name can be
    read, and no key stands twice. -/
def Fits (ns : List Char) : Item → Prop
  | .run text => text ≠ [] ∧ IsFree ns text
  | .opening name assignments _ =>
      (∀ c ∈ name, endsName c = false) ∧ (assignments.map Assignment.key).Nodup
  | .closing name _ => ∀ c ∈ name, endsName c = false

-- The characters of a name are tested one by one: that all there are can be tested is no help.
instance (ns : List Char) (item : Item) : Decidable (item.Fits ns) :=
  match item with
  | .run text =>
    inferInstanceAs (Decidable (text ≠ [] ∧ ∀ closing, ¬ tagStart ns closing <:+: text))
  | .opening name _ _ =>
      @instDecidableAnd _ _ (List.decidableBAll (fun c => endsName c = false) name) inferInstance
  | .closing name _ => List.decidableBAll (fun c => endsName c = false) name

end Item

/-! ## Bodies of opening tags -/

/-- The ending of a tag has no attributes, and a slash exactly if it was written with one. -/
theorem readBody_ending (keys : List (List Char)) (ending : Ending) :
    readBody keys ending.write = .ok ([], ending.isSlashed) := by
  cases ending with
  | plain gap => exact readBody_gap keys gap
  | slashed before after =>
      have hstrip : stripStart (before.val ++ '/' :: after.val) = '/' :: after.val := by
        rw [stripStart_gap]
        exact stripStart_cons (by decide) _
      -- what stands behind the blanks is a slash, which starts no key
      have hnone : attributeAndRest? (before.val ++ '/' :: after.val) = none := by
        cases hbefore : before.val with
        | nil => rfl
        | cons c cs =>
            rw [hbefore] at hstrip
            rw [List.cons_append] at hstrip ⊢
            have hslash : isNameStart '/' = false := by decide
            simp only [attributeAndRest?, hstrip, hslash, Bool.false_eq_true, if_false, ite_self]
      have htail : selfClosing? (before.val ++ '/' :: after.val) = some true := by
        simp only [selfClosing?, hstrip, after.property, if_true]
      rw [Ending.write, readBody]
      split
      · next heq => exact absurd (heq.symm.trans hnone) (by simp)
      · rw [htail]
        rfl

/-- The attributes of a body are read in their order, if no key stands twice. -/
theorem readBody_assignments {keys : List (List Char)} {assignments : List Assignment}
    (hkeys : ∀ assignment ∈ assignments, assignment.key ∉ keys)
    (hnodup : (assignments.map Assignment.key).Nodup) (ending : Ending) :
    readBody keys (assignments.flatMap Assignment.write ++ ending.write)
      = .ok (assignments.map Assignment.entry, ending.isSlashed) := by
  induction assignments generalizing keys with
  | nil => exact readBody_ending keys ending
  | cons first rest ih =>
      rw [List.map_cons, List.nodup_cons] at hnodup
      obtain ⟨hfirst, hrest⟩ := hnodup
      -- the key of the first assignment is taken for all that follow
      have hmore : ∀ assignment ∈ rest, assignment.key ∉ first.key :: keys := by
        intro assignment hmem htaken
        rcases List.mem_cons.mp htaken with heq | hold
        · exact hfirst (heq ▸ List.mem_map_of_mem hmem)
        · exact hkeys assignment (List.mem_cons_of_mem _ hmem) hold
      rw [List.flatMap_cons, List.append_assoc, Assignment.write,
        readBody_write first.isKey_key first.quote_notMem (hkeys first List.mem_cons_self),
        ih hmore hrest]
      rfl

/-- The ending of a tag goes up to its `>`. -/
theorem bodyAndRest?_ending (ending : Ending) (rest : List Char) :
    bodyAndRest? none (ending.write ++ '>' :: rest) = some (ending.write, rest) := by
  cases ending with
  | plain gap => exact bodyAndRest?_gap gap rest
  | slashed before after =>
      have hplain : ∀ c ∈ before.val ++ '/' :: after.val, isPlain c = true := by
        intro c hc
        rcases List.mem_append.mp hc with hbefore | hslash
        · exact isPlain_of_isBlank (before.isBlank c hbefore)
        · rcases List.mem_cons.mp hslash with rfl | hafter
          · decide
          · exact isPlain_of_isBlank (after.isBlank c hafter)
      rw [Ending.write, bodyAndRest?_plain hplain, bodyAndRest?_close]
      show some (_ ++ [], rest) = _
      rw [List.append_nil]

/-- The body of a tag ends at the `>` behind its ending, whatever its values hold. -/
theorem bodyAndRest?_assignments (assignments : List Assignment) (ending : Ending)
    (rest : List Char) :
    bodyAndRest? none (assignments.flatMap Assignment.write ++ (ending.write ++ '>' :: rest))
      = some (assignments.flatMap Assignment.write ++ ending.write, rest) := by
  induction assignments with
  | nil => exact bodyAndRest?_ending ending rest
  | cons first more ih =>
      rw [List.flatMap_cons, List.append_assoc, Assignment.write,
        bodyAndRest?_write first.isKey_key first.quote_notMem, ih, Option.map_some,
        List.append_assoc]

/-! ## Names in front of bodies -/

/-- A gap, or what stands behind an empty one, ends a name. -/
theorem endsName_gap_cons (gap : Gap) {c : Char} (hc : endsName c = true) (rest : List Char) :
    EndsName (gap.val ++ c :: rest) := by
  by_cases hgap : gap.val = []
  · exact ⟨c, rest, by rw [hgap]; rfl, hc⟩
  · exact endsName_gap hgap _

/-- The body of an opening tag ends its name. -/
theorem endsName_body (assignments : List Assignment) (ending : Ending) (rest : List Char) :
    EndsName (assignments.flatMap Assignment.write ++ (ending.write ++ '>' :: rest)) := by
  cases assignments with
  | nil =>
      cases ending with
      | plain gap => exact endsName_gap_cons gap (by decide) rest
      | slashed before after =>
          show EndsName (before.val ++ '/' :: after.val ++ '>' :: rest)
          rw [List.append_assoc, List.cons_append]
          exact endsName_gap_cons before (by decide) _
  | cons first more =>
      rw [List.flatMap_cons, List.append_assoc, Assignment.write, Layout.write, List.append_assoc]
      exact endsName_gap first.layout.gap_ne_nil _

/-! ## Pieces and kinds of items -/

section Items

variable {ns : List Char} {items : List Item}

/-- An item that is no run is a tag, which is found where it was written. -/
theorem exists_tag_of_item (hns : isNamespace ns = true) {item : Item} (hitem : item.Fits ns)
    (hrun : item.isRun = false) (rest : List Char) :
    ∃ tag, item.piece = .tag tag ∧ tagAndRest? ns (item.source ns ++ rest) = some (tag, rest) := by
  cases item with
  | run text => cases hrun
  | opening name assignments ending =>
      refine ⟨_, rfl, tagAndRest?_append hns ?_⟩
      simp only [List.append_assoc]
      exact nameBodyAndRest?_append hitem.1 (endsName_body assignments ending rest)
        (bodyAndRest?_assignments assignments ending rest)
  | closing name gap =>
      exact ⟨_, rfl, tagAndRest?_append hns (nameBodyAndRest?_append hitem
        (endsName_gap_cons gap (by decide) rest) (bodyAndRest?_gap gap rest))⟩

/-- Items of which the first is no run begin with a tag, or there are none. -/
theorem beginsTag_source (hns : isNamespace ns = true) (hitems : ∀ item ∈ items, item.Fits ns)
    (hfirst : ∀ item ∈ items.head?, item.isRun = false) :
    BeginsTag ns (items.flatMap (Item.source ns)) := by
  cases items with
  | nil => exact .inl rfl
  | cons item items =>
      obtain ⟨tag, -, htag⟩ := exists_tag_of_item hns (hitems item List.mem_cons_self)
        (hfirst item rfl) (items.flatMap (Item.source ns))
      exact .inr ⟨tag, _, htag⟩

/-- The pieces of a source are its items, if no two runs are neighbours. -/
theorem pieces_flatMap_source (hns : isNamespace ns = true) (hitems : ∀ item ∈ items, item.Fits ns)
    (hapart : items.IsChain fun item next => item.isRun = true → next.isRun = false) :
    pieces ns (items.flatMap (Item.source ns)) = items.map Item.piece := by
  induction items with
  | nil => rw [List.flatMap_nil, pieces, List.map_nil]
  | cons item items ih =>
      have hitem := hitems item List.mem_cons_self
      have hrest : ∀ other ∈ items, other.Fits ns := fun other hmem =>
        hitems other (List.mem_cons_of_mem _ hmem)
      obtain ⟨hnext, hchain⟩ := List.isChain_cons.mp hapart
      rw [List.flatMap_cons, List.map_cons]
      cases hrun : item.isRun with
      | false =>
          obtain ⟨tag, hpiece, htag⟩ := exists_tag_of_item hns hitem hrun
            (items.flatMap (Item.source ns))
          rw [pieces_of_tagAndRest? htag, ih hrest hchain, hpiece]
      | true =>
          -- a run is followed by a tag or by nothing, so it stays one piece
          cases item with
          | run text =>
              have htext : textPieces text = [.text text] :=
                if_neg (by simpa using hitem.1)
              show pieces ns (text ++ _) = _
              rw [pieces_append hns hitem.2 (beginsTag_source hns hrest fun next hmem =>
                hnext next hmem rfl), ih hrest hchain, htext]
              rfl
          | opening => cases hrun
          | closing => cases hrun

/-- The piece of an item stands for what the item does. -/
theorem kind_piece {item : Item} (hitem : item.Fits ns) : item.piece.kind = .ok item.kind := by
  cases item with
  | run text => rfl
  | opening name assignments ending =>
      have hbody : readBody [] (assignments.flatMap Assignment.write ++ ending.write) = _ :=
        readBody_assignments (fun _ _ => List.not_mem_nil) hitem.2 ending
      simp only [Item.piece, Piece.kind, Tag.kind, hbody]
      rfl
  | closing name gap =>
      have hblank : allBlank gap.val = true := gap.property
      simp only [Item.piece, Piece.kind, Tag.kind, hblank]
      rfl

/-- The tokens of the pieces of items are the items and the end. -/
theorem tokensFrom_pieces (hitems : ∀ item ∈ items, item.Fits ns) (offset : Nat) (place : Place) :
    (tokensFrom ns offset place (items.map Item.piece)).map
        (List.map fun token => (token.kind, token.text))
      = .ok (items.map (fun item => (item.kind, item.source ns)) ++ [(.finish, [])]) := by
  induction items generalizing offset place with
  | nil => rfl
  | cons item items ih =>
      have hrest := ih (fun other hmem => hitems other (List.mem_cons_of_mem _ hmem))
        (offset + (item.source ns).length) (place.after (item.source ns))
      rw [List.map_cons, tokensFrom]
      simp only [kind_piece (hitems item List.mem_cons_self)]
      change ((tokensFrom ns (offset + (item.source ns).length)
        (place.after (item.source ns)) (items.map Item.piece)).map _).map _ = _
      cases htokens : tokensFrom ns (offset + (item.source ns).length)
          (place.after (item.source ns)) (items.map Item.piece) with
      | error error =>
          rw [htokens] at hrest
          cases hrest
      | ok tokens =>
          rw [htokens] at hrest
          have htail := Except.ok.inj hrest
          show Except.ok (_ :: tokens.map _) = _
          rw [htail]
          rfl

/-- **Reading undoes writing**: however the items of a source are written, its tokens are the items
    in their order, with the texts they were written with, and the end. -/
theorem tokenize_source (hns : isNamespace ns = true) (hitems : ∀ item ∈ items, item.Fits ns)
    (hapart : items.IsChain fun item next => item.isRun = true → next.isRun = false) :
    (tokenize ns (items.flatMap (Item.source ns))).map
        (List.map fun token => (token.kind, token.text))
      = .ok (items.map (fun item => (item.kind, item.source ns)) ++ [(.finish, [])]) := by
  rw [tokenize, pieces_flatMap_source hns hitems hapart]
  exact tokensFrom_pieces hitems 0 .first

end Items

/-- An attribute among blanks, whose value holds the other quote, the ends of a tag and a line
    feed. -/
def wide : Assignment :=
  ⟨Spelling.loose.layout, "x:y".toList, "it's <a/>\n>".toList, by decide, by decide⟩

/-- An attribute with the one blank that is needed and an empty value. -/
def narrow : Assignment :=
  ⟨Spelling.tight.layout, "z".toList, [], by decide, by decide⟩

/-- A closing tag, a run that ends like the start of a tag, opening tags with names that hold
    quotes, and a slash right behind an attribute. -/
def mixed : List Item :=
  [.closing "o\"f".toList Spelling.loose.closing, .run "a <<my".toList,
    .opening "o\"f".toList [wide, narrow] (.slashed Spelling.tight.closing ⟨['\n'], rfl⟩),
    .opening "<".toList [] (.plain Spelling.loose.layout.afterEquals),
    .opening [] [] (.slashed Spelling.tight.closing Spelling.tight.closing), .run "\" >".toList]

/-- The source of the mixed items. -/
def mixedSource : String :=
  "</my-ns:o\"f >a <<my<my-ns:o\"f\n x:y =\t\"it's <a/>\n>\" z=''/\n><my-ns:<\t><my-ns:/>\" >"

/-- The mixed items are read back from their source. -/
theorem tokenize_source_mixed :
    isNamespace "my-ns".toList = true ∧ (∀ item ∈ mixed, item.Fits "my-ns".toList)
      ∧ mixed.IsChain (fun item next => item.isRun = true → next.isRun = false)
      ∧ (tokenize "my-ns".toList mixedSource.toList).map
          (List.map fun token => (token.kind, token.text))
        = .ok [(.closing "o\"f".toList, "</my-ns:o\"f >".toList), (.text, "a <<my".toList),
          (.opening "o\"f".toList [("x:y".toList, "it's <a/>\n>".toList), ("z".toList, [])] true,
            "<my-ns:o\"f\n x:y =\t\"it's <a/>\n>\" z=''/\n>".toList),
          (.opening "<".toList [] false, "<my-ns:<\t>".toList),
          (.opening [] [] true, "<my-ns:/>".toList), (.text, "\" >".toList), (.finish, [])] := by
  have hfits : ∀ item ∈ mixed, item.Fits "my-ns".toList := by decide +kernel
  have hapart : mixed.IsChain (fun item next => item.isRun = true → next.isRun = false) := by
    decide
  have hsource : mixed.flatMap (Item.source "my-ns".toList) = mixedSource.toList := by
    simp only [mixed, List.flatMap_cons, List.flatMap_nil, mixedSource]
    rfl
  refine ⟨by decide, hfits, hapart, ?_⟩
  have h := tokenize_source (by decide) hfits hapart
  rw [hsource] at h
  exact h

end Stencil.Directive
