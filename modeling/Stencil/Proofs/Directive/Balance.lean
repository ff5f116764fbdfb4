import Mathlib.Data.List.Forall2
import Stencil.Directive.Lowering
import Stencil.Proofs.Directive.Tiling

/-! # Balance — which token sequences are lowered, and to what

    The lowering of tokens keeps a stack of openers; what it accepts is said here
    without one.  A word of brackets is balanced if the grammar
    `S ::= ε | open n  S  close n  S` derives it (`Balanced`).  The invariant that
    carries the induction is `Closes`: with openers still to be closed, the unread
    part of the word must be a balanced word, a closer of the innermost opener, a
    balanced word, and so on outwards.

    The headline is `compile_eq_ok_iff`: a source is lowered exactly if it has
    tokens, each of them lowers on its own, and their brackets are balanced; the
    native text is then what the tokens lower to, in order. -/

namespace Stencil.Directive

open Stencil.Text

/-- A computation that goes on has a result exactly if both its parts have one. -/
theorem bind_eq_ok_iff {ε α β : Type} {x : Except ε α} {f : α → Except ε β} {b : β} :
    (x >>= f) = .ok b ↔ ∃ a, x = .ok a ∧ f a = .ok b := by
  cases x with
  | error e => exact ⟨fun h => (nomatch h), fun ⟨_, h, _⟩ => (nomatch h)⟩
  | ok a => exact ⟨fun h => ⟨a, rfl, h⟩, fun ⟨_, ha, h⟩ => Except.ok.inj ha ▸ h⟩

/-- A computation that goes on fails exactly if one of its parts does. -/
theorem bind_eq_error_iff {ε α β : Type} {x : Except ε α} {f : α → Except ε β} {e : ε} :
    (x >>= f) = .error e ↔ x = .error e ∨ ∃ a, x = .ok a ∧ f a = .error e := by
  cases x with
  | error other =>
      constructor
      · intro h
        cases h
        exact .inl rfl
      · rintro (h | ⟨_, ha, _⟩)
        · cases h
          rfl
        · cases ha
  | ok a =>
      refine ⟨fun h => .inr ⟨a, rfl, h⟩, ?_⟩
      rintro (h | ⟨_, ha, h⟩)
      · cases h
      · cases ha
        exact h

/-! ## What one token lowers to -/

/-- An opener's template with the expression in the place of every mark. -/
def filled (expression : List Char) : List Char → List Char
  | '\x7b' :: 'e' :: 'x' :: 'p' :: 'r' :: '\x7d' :: template =>
      expression ++ filled expression template
  | c :: template => c :: filled expression template
  | [] => []

/-- Putting in an expression fills the places of all marks. -/
theorem openerFor_eq_filled (rule : Rule) (expression : List Char) :
    rule.openerFor expression = filled expression rule.opener := by
  show replaceFrom expressionMark expression 0 rule.opener = filled expression rule.opener
  generalize rule.opener = template
  fun_induction filled expression template with
  | case1 template ih =>
      have hmark : replaceFrom expressionMark expression 0
          ('\x7b' :: 'e' :: 'x' :: 'p' :: 'r' :: '\x7d' :: template)
          = expression ++ replaceFrom expressionMark expression 0 template := by
        simp [replaceFrom, expressionMark, List.isPrefixOf]
      rw [hmark, ih]
  | case2 c template hno ih =>
      have hprefix : expressionMark.isPrefixOf (c :: template) = false := by
        rw [Bool.eq_false_iff, ne_eq, List.isPrefixOf_iff_prefix]
        rintro ⟨more, hmore⟩
        obtain ⟨hc, htemplate⟩ := List.cons.inj hmore
        exact hno more hc.symm htemplate.symm
      simp only [replaceFrom, hprefix, Bool.false_eq_true, if_false, ih]
  | case3 => rfl

/-- What a token of a kind and a source text lowers to, and that it does. -/
inductive Lowers (rules : RuleSet) : TokenKind → List Char → List Char → Prop where
  | text (run : List Char) : Lowers rules .text run run
  | opening {name value source : List Char} {rule : Rule} :
      rules.find? name = some rule → strip value ≠ [] →
      Lowers rules (.opening name [(rule.key, value)] false) source
        (filled (strip value) rule.opener)
  | closing {name source : List Char} {rule : Rule} :
      rules.find? name = some rule → Lowers rules (.closing name) source rule.closer
  | finish (source : List Char) : Lowers rules .finish source []

/-- The rule of a name, as the lowering looks it up. -/
theorem ruleFor_eq_ok_iff {ns name : List Char} {rules : RuleSet} {token : Token} {rule : Rule} :
    ruleFor ns rules token name = .ok rule ↔ rules.find? name = some rule := by
  rw [ruleFor]
  cases rules.find? name with
  | none => exact ⟨fun h => (nomatch h), fun h => (nomatch h)⟩
  | some found =>
      exact ⟨fun h => congrArg some (Except.ok.inj h),
        fun h => congrArg Except.ok (Option.some.inj h)⟩

/-- Distinct keys all of which are one key are that key alone, or none. -/
theorem eq_singleton_of_keys {key : List Char} {attributes : List Attribute}
    (honce : (attributes.map (·.1)).Nodup) (hall : ∀ k ∈ attributes.map (·.1), k = key) :
    attributes = [] ∨ ∃ value, attributes = [(key, value)] := by
  rcases attributes with _ | ⟨⟨first, value⟩, _ | ⟨⟨second, other⟩, attributes⟩⟩
  · exact Or.inl rfl
  · obtain rfl : first = key := hall first (by simp)
    exact Or.inr ⟨value, rfl⟩
  · exfalso
    obtain rfl : first = key := hall first (by simp)
    obtain rfl : second = first := hall second (by simp)
    simp at honce

/-- An opening tag gives an expression exactly if it has a body and the one attribute of its
    directive, whose value is not blank. -/
theorem expressionOf_eq_ok_iff {rule : Rule} {token : Token} {attributes : List Attribute}
    {selfClosing : Bool} {expression : List Char} (honce : (attributes.map (·.1)).Nodup) :
    expressionOf rule token attributes selfClosing = .ok expression
      ↔ selfClosing = false ∧ ∃ value, attributes = [(rule.key, value)] ∧ strip value ≠ []
        ∧ expression = strip value := by
  constructor
  · intro h
    unfold expressionOf at h
    dsimp only at h
    split at h
    · exact nomatch h
    · next hslash =>
        split at h
        · exact nomatch h
        · next hextra =>
            split at h
            · exact nomatch h
            · next hblank =>
                -- no other key was found, so every attribute has the key of the rule
                have hall : ∀ k ∈ attributes.map (·.1), k = rule.key := by
                  intro k hk
                  by_contra hne
                  refine hextra ?_
                  have hmem : k ∈ (attributes.map (·.1)).filter (· != rule.key) :=
                    List.mem_filter.mpr ⟨hk, bne_iff_ne.mpr hne⟩
                  cases hlist : (attributes.map (·.1)).filter (· != rule.key) with
                  | nil => exact absurd (hlist ▸ hmem) List.not_mem_nil
                  | cons d ds => rfl
                rcases eq_singleton_of_keys honce hall with rfl | ⟨value, rfl⟩
                · exact absurd rfl hblank
                · have hlookup : ([(rule.key, value)] : List Attribute).lookup rule.key
                      = some value := by simp
                  rw [hlookup] at h hblank
                  refine ⟨Bool.eq_false_iff.mpr hslash, value, rfl, ?_, (Except.ok.inj h).symm⟩
                  intro hnil
                  exact hblank (List.isEmpty_iff.mpr hnil)
  · rintro ⟨rfl, value, rfl, hblank, rfl⟩
    have hblank' : (strip value).isEmpty = false := by
      rw [Bool.eq_false_iff, ne_eq, List.isEmpty_iff]
      exact hblank
    simp [expressionOf, hblank']

/-! ## Words of brackets -/

/-- What a tag does to nesting. -/
inductive Bracket where
  | opening (name : List Char)
  | closing (name : List Char)
deriving DecidableEq, Repr

/-- The bracket of a kind of token; text and the end have none. -/
def TokenKind.bracket? : TokenKind → Option Bracket
  | .opening name _ _ => some (.opening name)
  | .closing name => some (.closing name)
  | _ => none

/-- The bracket of a token. -/
def Token.bracket? (token : Token) : Option Bracket :=
  token.kind.bracket?

/-- The words of `S ::= ε | open n  S  close n  S`. -/
inductive Balanced : List Bracket → Prop where
  | empty : Balanced []
  | pair {name : List Char} {inner rest : List Bracket} :
      Balanced inner → Balanced rest →
      Balanced (.opening name :: (inner ++ .closing name :: rest))

/-- The words that close openers of given names, the innermost first: one balanced word before
    each closer, and one behind the last. -/
inductive Closes : List (List Char) → List Bracket → Prop where
  | done {word : List Bracket} : Balanced word → Closes [] word
  | close {name : List Char} {names : List (List Char)} {word rest : List Bracket} :
      Balanced word → Closes names rest → Closes (name :: names) (word ++ .closing name :: rest)

/-- A balanced word in front of a closing one leaves it closing. -/
theorem Closes.balanced_append {names : List (List Char)} {name : List Char}
    {inner word : List Bracket} (hinner : Balanced inner) (h : Closes names word) :
    Closes names (.opening name :: (inner ++ .closing name :: word)) := by
  cases h with
  | done hword => exact .done (.pair hinner hword)
  | @close outer names word rest hword hrest =>
      have heq : .opening name :: (inner ++ .closing name :: (word ++ .closing outer :: rest))
          = (Bracket.opening name :: (inner ++ .closing name :: word))
            ++ .closing outer :: rest := by
        simp
      rw [heq]
      exact .close (.pair hinner hword) hrest

/-- An opener that is read is one more opener to be closed. -/
theorem closes_opening_iff {names : List (List Char)} {name : List Char} {word : List Bracket} :
    Closes names (.opening name :: word) ↔ Closes (name :: names) word := by
  constructor
  · intro h
    generalize hall : Bracket.opening name :: word = all at h
    cases h with
    | done hword =>
        cases hword with
        | empty => exact nomatch hall
        | @pair other inner rest hinner hrest =>
            -- the opener and its closer part the word: what is inside, and what is behind
            obtain ⟨hname, rfl⟩ := List.cons.inj hall
            obtain rfl := Bracket.opening.inj hname
            exact .close hinner (.done hrest)
    | @close outer names first rest hfirst hrest =>
        cases hfirst with
        | empty => exact nomatch (List.cons.inj hall).1
        | @pair other inner more hinner hmore =>
            obtain ⟨hname, rfl⟩ := List.cons.inj hall
            obtain rfl := Bracket.opening.inj hname
            rw [List.append_eq, List.append_assoc, List.cons_append]
            exact .close hinner (.close hmore hrest)
  · intro h
    cases h with
    | close hinner hrest => exact Closes.balanced_append hinner hrest

/-- A closer that is read must close the innermost opener. -/
theorem closes_closing_iff {names : List (List Char)} {name : List Char} {word : List Bracket} :
    Closes names (.closing name :: word) ↔ ∃ outer, names = name :: outer ∧ Closes outer word := by
  constructor
  · intro h
    generalize hall : Bracket.closing name :: word = all at h
    cases h with
    | done hword =>
        cases hword with
        | empty => exact nomatch hall
        | pair => exact nomatch (List.cons.inj hall).1
    | @close inner outer first rest hfirst hrest =>
        cases hfirst with
        | empty =>
            obtain ⟨hname, rfl⟩ := List.cons.inj hall
            obtain rfl := Bracket.closing.inj hname
            exact ⟨outer, rfl, hrest⟩
        | pair => exact nomatch (List.cons.inj hall).1
  · rintro ⟨outer, rfl, h⟩
    exact .close .empty h

/-- The empty word closes no opener. -/
theorem closes_nil_iff {names : List (List Char)} : Closes names [] ↔ names = [] := by
  constructor
  · intro h
    generalize hall : ([] : List Bracket) = all at h
    cases h with
    | done => rfl
    | @close _ _ word _ _ _ =>
        cases word with
        | nil => exact nomatch hall
        | cons => exact nomatch hall
  · rintro rfl
    exact .done .empty

/-- With no opener left, the words that close are the balanced ones. -/
theorem closes_iff_balanced {word : List Bracket} : Closes [] word ↔ Balanced word := by
  constructor
  · intro h
    cases h with
    | done hword => exact hword
  · exact .done

/-! ## Tokens of a source -/

/-- An attribute list in which each key stands once; other kinds of tokens have none. -/
def TokenKind.KeysOnce : TokenKind → Prop
  | .opening _ attributes _ => (attributes.map (·.1)).Nodup
  | _ => True

/-- The keys that a body gives are distinct, also from those before it. -/
theorem nodup_of_readBody {keys : List (List Char)} {body : List Char}
    {entries : List Attribute} {slash : Bool} (h : readBody keys body = .ok (entries, slash)) :
    (entries.map (·.1)).Nodup ∧ ∀ k ∈ entries.map (·.1), k ∉ keys := by
  fun_induction readBody keys body generalizing entries slash with
  | case1 keys body entry rest _ hdup => exact nomatch h
  | case2 keys body entry rest _ hnew ih =>
      cases hrest : readBody (entry.1 :: keys) rest with
      | error e => rw [hrest] at h; exact nomatch h
      | ok found =>
          obtain ⟨more, tail⟩ := found
          rw [hrest] at h
          obtain ⟨rfl, rfl⟩ := Prod.mk.inj (Except.ok.inj h)
          obtain ⟨honce, hfresh⟩ := ih hrest
          have hnotin : entry.1 ∉ keys := fun hmem => hnew (List.contains_iff_mem.mpr hmem)
          constructor
          · rw [List.map_cons, List.nodup_cons]
            exact ⟨fun hmem => hfresh entry.1 hmem List.mem_cons_self, honce⟩
          · intro k hk
            rcases List.mem_cons.mp hk with rfl | hmem
            · exact hnotin
            · exact fun hin => hfresh k hmem (List.mem_cons_of_mem _ hin)
  | case3 keys body _ tail htail =>
      obtain ⟨rfl, rfl⟩ := Prod.mk.inj (Except.ok.inj h)
      exact ⟨List.nodup_nil, fun k hk => nomatch hk⟩
  | case4 keys body _ htail => exact nomatch h

/-- In a well-written piece each key stands once. -/
theorem keysOnce_of_kind {piece : Piece} {kind : TokenKind} (h : piece.kind = .ok kind) :
    kind.KeysOnce ∧ kind ≠ .finish := by
  cases piece with
  | text run =>
      obtain rfl := Except.ok.inj h
      exact ⟨trivial, TokenKind.noConfusion⟩
  | tag tag =>
      have htag : tag.kind = .ok kind := h
      rcases Tag.kind_eq_ok_iff.mp htag with ⟨-, -, rfl⟩ | ⟨-, _, _, hbody, rfl⟩
      · exact ⟨trivial, TokenKind.noConfusion⟩
      · exact ⟨(nodup_of_readBody hbody).1, TokenKind.noConfusion⟩

/-- Tokens with distinct keys, of which the last one is the end and no other. -/
inductive Ended : List Token → Prop where
  | finish {token : Token} : token.kind = .finish → Ended [token]
  | cons {token : Token} {tokens : List Token} :
      token.kind.KeysOnce → token.kind ≠ .finish → Ended tokens → Ended (token :: tokens)

/-- The tokens of pieces end once. -/
theorem ended_of_tokensFrom {ns : List Char} {offset : Nat} {place : Place}
    {parts : List Piece} {tokens : List Token}
    (h : tokensFrom ns offset place parts = .ok tokens) : Ended tokens := by
  induction parts generalizing offset place tokens with
  | nil =>
      obtain rfl := Except.ok.inj h
      exact .finish rfl
  | cons piece parts ih =>
      obtain ⟨token, more, hgives, -, -, hmore, rfl⟩ := tokensFrom_cons_iff.mp h
      obtain ⟨honce, hmid⟩ := keysOnce_of_kind hgives.kind
      exact .cons honce hmid (ih hmore)

/-! ## The lowering, step by step -/

section Steps

variable {ns : List Char} {rules : RuleSet} {stack : List Opener} {token : Token}
  {tokens : List Token} {code : List Char}

/-- A run of text is put in front of the rest. -/
theorem lowerFrom_text_iff (hkind : token.kind = .text) :
    lowerFrom ns rules stack (token :: tokens) = .ok code
      ↔ ∃ more, lowerFrom ns rules stack tokens = .ok more ∧ code = token.text ++ more := by
  simp only [lowerFrom, hkind, bind_eq_ok_iff]
  exact exists_congr fun more => and_congr_right fun _ =>
    ⟨fun h => (Except.ok.inj h).symm, fun h => congrArg Except.ok h.symm⟩

/-- An opening tag lowers on its own and becomes the innermost opener. -/
theorem lowerFrom_opening_iff {name : List Char} {attributes : List Attribute}
    {selfClosing : Bool} (hkind : token.kind = .opening name attributes selfClosing)
    (honce : (attributes.map (·.1)).Nodup) :
    lowerFrom ns rules stack (token :: tokens) = .ok code
      ↔ ∃ run, Lowers rules token.kind token.text run ∧ ∃ more,
          lowerFrom ns rules (⟨name, token⟩ :: stack) tokens = .ok more ∧ code = run ++ more := by
  simp only [lowerFrom, hkind, bind_eq_ok_iff, ruleFor_eq_ok_iff, expressionOf_eq_ok_iff honce]
  constructor
  · rintro ⟨rule, hrule, -, ⟨rfl, value, rfl, hvalue, rfl⟩, more, hmore, hcode⟩
    refine ⟨_, .opening hrule hvalue, more, hmore, ?_⟩
    rw [← openerFor_eq_filled]
    exact (Except.ok.inj hcode).symm
  · rintro ⟨run, hrun, more, hmore, rfl⟩
    cases hrun with
    | @opening _ value _ rule hrule hvalue =>
        refine ⟨rule, hrule, strip value, ⟨rfl, value, rfl, hvalue, rfl⟩, more, hmore, ?_⟩
        rw [openerFor_eq_filled]
        rfl

/-- A closing tag lowers on its own and closes the innermost opener. -/
theorem lowerFrom_closing_iff {name : List Char} (hkind : token.kind = .closing name) :
    lowerFrom ns rules stack (token :: tokens) = .ok code
      ↔ ∃ run, Lowers rules token.kind token.text run ∧ ∃ opener openers,
          stack = opener :: openers ∧ opener.name = name ∧ ∃ more,
            lowerFrom ns rules openers tokens = .ok more ∧ code = run ++ more := by
  simp only [lowerFrom, hkind, bind_eq_ok_iff, ruleFor_eq_ok_iff]
  constructor
  · rintro ⟨rule, hrule, openers, hclose, more, hmore, hcode⟩
    cases stack with
    | nil => exact nomatch hclose
    | cons opener outer =>
        simp only [closeLast, beq_iff_eq] at hclose
        split at hclose
        · next hname =>
            obtain rfl := Except.ok.inj hclose
            exact ⟨_, .closing hrule, opener, outer, rfl, hname, more, hmore,
              (Except.ok.inj hcode).symm⟩
        · exact nomatch hclose
  · rintro ⟨run, hrun, opener, openers, rfl, rfl, more, hmore, rfl⟩
    cases hrun with
    | @closing _ _ rule hrule =>
        exact ⟨rule, hrule, openers, by simp [closeLast], more, hmore, rfl⟩

/-- The end closes nothing: no opener may be left. -/
theorem lowerFrom_finish_iff (hkind : token.kind = .finish) :
    lowerFrom ns rules stack [token] = .ok code ↔ stack = [] ∧ code = [] := by
  simp only [lowerFrom, hkind]
  cases stack with
  | nil => exact ⟨fun h => ⟨rfl, (Except.ok.inj h).symm⟩, fun h => congrArg Except.ok h.2.symm⟩
  | cons opener openers => exact ⟨fun h => (nomatch h), fun h => (nomatch h.1)⟩

end Steps

/-- Tokens lower one by one to runs. -/
def LowerTo (rules : RuleSet) (tokens : List Token) (runs : List (List Char)) : Prop :=
  List.Forall₂ (fun token run => Lowers rules token.kind token.text run) tokens runs

/-- Tokens lower behind openers exactly if each lowers on its own and their brackets close the
    openers. -/
theorem lowerFrom_eq_ok_iff {ns : List Char} {rules : RuleSet} {stack : List Opener}
    {tokens : List Token} {code : List Char} (h : Ended tokens) :
    lowerFrom ns rules stack tokens = .ok code
      ↔ ∃ runs, LowerTo rules tokens runs
        ∧ Closes (stack.map Opener.name) (tokens.filterMap Token.bracket?)
        ∧ code = runs.flatten := by
  -- the stack is left free: opening tags push on it, closing tags take from it
  induction h generalizing stack code with
  | @finish token hkind =>
      rw [lowerFrom_finish_iff hkind]
      have hword : [token].filterMap Token.bracket? = [] := by
        simp [Token.bracket?, TokenKind.bracket?, hkind]
      simp only [hword, closes_nil_iff, List.map_eq_nil_iff]
      constructor
      · rintro ⟨rfl, rfl⟩
        exact ⟨[[]], .cons (hkind ▸ .finish token.text) .nil, rfl, rfl⟩
      · rintro ⟨runs, hruns, hstack, rfl⟩
        refine ⟨hstack, ?_⟩
        obtain ⟨run, rest, hrun, hrest, rfl⟩ := List.forall₂_cons_left_iff.mp hruns
        rw [hkind] at hrun
        cases hrun with
        | finish => rw [List.forall₂_nil_left_iff.mp hrest]; rfl
  | @cons token tokens honce hmid _ ih =>
      cases hkind : token.kind with
      | text =>
          have hword : (token :: tokens).filterMap Token.bracket?
              = tokens.filterMap Token.bracket? := by
            simp [Token.bracket?, TokenKind.bracket?, hkind]
          rw [lowerFrom_text_iff hkind, hword]
          constructor
          · rintro ⟨more, hmore, rfl⟩
            obtain ⟨runs, hruns, hcloses, rfl⟩ := ih.mp hmore
            exact ⟨token.text :: runs, .cons (hkind ▸ .text token.text) hruns, hcloses, rfl⟩
          · rintro ⟨runs, hruns, hcloses, rfl⟩
            obtain ⟨run, rest, hrun, hrest, rfl⟩ := List.forall₂_cons_left_iff.mp hruns
            rw [hkind] at hrun
            cases hrun with
            | text => exact ⟨rest.flatten, ih.mpr ⟨rest, hrest, hcloses, rfl⟩, rfl⟩
      | opening name attributes selfClosing =>
          rw [hkind] at honce
          have hword : (token :: tokens).filterMap Token.bracket?
              = .opening name :: tokens.filterMap Token.bracket? := by
            simp [Token.bracket?, TokenKind.bracket?, hkind]
          rw [lowerFrom_opening_iff hkind honce, hword]
          constructor
          · rintro ⟨run, hrun, more, hmore, rfl⟩
            obtain ⟨runs, hruns, hcloses, rfl⟩ := ih.mp hmore
            exact ⟨run :: runs, .cons hrun hruns, closes_opening_iff.mpr hcloses, rfl⟩
          · rintro ⟨runs, hruns, hcloses, rfl⟩
            obtain ⟨run, rest, hrun, hrest, rfl⟩ := List.forall₂_cons_left_iff.mp hruns
            exact ⟨run, hrun, rest.flatten,
              ih.mpr ⟨rest, hrest, closes_opening_iff.mp hcloses, rfl⟩, rfl⟩
      | closing name =>
          have hword : (token :: tokens).filterMap Token.bracket?
              = .closing name :: tokens.filterMap Token.bracket? := by
            simp [Token.bracket?, TokenKind.bracket?, hkind]
          rw [lowerFrom_closing_iff hkind, hword, closes_closing_iff]
          constructor
          · rintro ⟨run, hrun, opener, openers, rfl, rfl, more, hmore, rfl⟩
            obtain ⟨runs, hruns, hcloses, rfl⟩ := ih.mp hmore
            exact ⟨run :: runs, .cons hrun hruns, ⟨openers.map Opener.name, rfl, hcloses⟩, rfl⟩
          · rintro ⟨runs, hruns, ⟨outer, houter, hcloses⟩, rfl⟩
            obtain ⟨run, rest, hrun, hrest, rfl⟩ := List.forall₂_cons_left_iff.mp hruns
            obtain ⟨opener, openers, rfl, hname, rfl⟩ := List.map_eq_cons_iff.mp houter
            exact ⟨run, hrun, opener, openers, rfl, hname, rest.flatten,
              ih.mpr ⟨rest, hrest, hcloses, rfl⟩, rfl⟩
      | finish => exact absurd hkind hmid

/-- **Balanced sources**: a source is lowered exactly if it has tokens, each of which lowers on
    its own, and their brackets are a balanced word; its native text is then what they lower to,
    in order. -/
theorem compile_eq_ok_iff {ns : List Char} {rules : RuleSet} {source code : List Char} :
    compile ns rules source = .ok code
      ↔ ∃ tokens runs, tokenize ns source = .ok tokens
        ∧ List.Forall₂ (fun token run => Lowers rules token.kind token.text run) tokens runs
        ∧ Balanced (tokens.filterMap Token.bracket?)
        ∧ code = runs.flatten := by
  rw [compile, bind_eq_ok_iff]
  constructor
  · rintro ⟨tokens, htokens, hlower⟩
    obtain ⟨runs, hruns, hcloses, hcode⟩ :=
      (lowerFrom_eq_ok_iff (ended_of_tokensFrom htokens)).mp hlower
    exact ⟨tokens, runs, htokens, hruns, closes_iff_balanced.mp hcloses, hcode⟩
  · rintro ⟨tokens, runs, htokens, hruns, hword, hcode⟩
    refine ⟨tokens, htokens, ?_⟩
    exact (lowerFrom_eq_ok_iff (ended_of_tokensFrom htokens)).mpr
      ⟨runs, hruns, closes_iff_balanced.mpr hword, hcode⟩

end Stencil.Directive
