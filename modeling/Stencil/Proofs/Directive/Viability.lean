import Stencil.Proofs.Directive.Balance

/-! # Viability — the token at which lowering stops

    Tokens are viable if others behind them would make a sequence that is lowered.
    What has been read without an error is viable: its openers can still be closed.
    All that the tokens behind it have to do with it is to close these openers
    (`Pending.closes_iff`), so a token at which lowering stops makes what was read
    impossible, and no token before it did.  Otherwise lowering only stops at the
    end, for the opener that was opened last and is not closed.

    Headline: `compile_error_first`. -/

namespace Stencil.Directive

open Stencil.Text

/-- The brackets of tokens, in their order. -/
def brackets (tokens : List Token) : List Bracket :=
  tokens.filterMap Token.bracket?

theorem brackets_append (tokens more : List Token) :
    brackets (tokens ++ more) = brackets tokens ++ brackets more :=
  List.filterMap_append

theorem brackets_cons_of_some {token : Token} {bracket : Bracket}
    (h : token.bracket? = some bracket) (tokens : List Token) :
    brackets (token :: tokens) = bracket :: brackets tokens :=
  List.filterMap_cons_some h

theorem brackets_cons_of_none {token : Token} (h : token.bracket? = none) (tokens : List Token) :
    brackets (token :: tokens) = brackets tokens :=
  List.filterMap_cons_none h

/-- A token lowers on its own. -/
def Token.Lowerable (rules : RuleSet) (token : Token) : Prop :=
  ∃ run, Lowers rules token.kind token.text run

theorem Token.Lowerable.of_kind {rules : RuleSet} {token : Token} {kind : TokenKind}
    {run : List Char} (hkind : token.kind = kind) (h : Lowers rules kind token.text run) :
    token.Lowerable rules :=
  ⟨run, hkind ▸ h⟩

/-- Whole token sequences that are lowered: the end stands behind all other tokens, each token
    lowers on its own, and the brackets are balanced. -/
structure Accepted (rules : RuleSet) (tokens : List Token) : Prop where
  ended : Ended tokens
  lowerable : ∀ token ∈ tokens, token.Lowerable rules
  balanced : Balanced (brackets tokens)

/-- Tokens behind which others would make a sequence that is lowered. -/
def Viable (rules : RuleSet) (tokens : List Token) : Prop :=
  ∃ rest, Accepted rules (tokens ++ rest)

theorem Viable.of_prefix {rules : RuleSet} {first tokens : List Token} (hfirst : first <+: tokens)
    (h : Viable rules tokens) : Viable rules first := by
  obtain ⟨more, rfl⟩ := hfirst
  obtain ⟨rest, hrest⟩ := h
  exact ⟨more ++ rest, List.append_assoc first more rest ▸ hrest⟩

/-! ## What was read -/

/-- A balanced word closes none of the openers before it. -/
theorem closes_balanced_append_iff {inner : List Bracket} (h : Balanced inner)
    {names : List (List Char)} {word : List Bracket} :
    Closes names (inner ++ word) ↔ Closes names word := by
  induction h generalizing names word with
  | empty => exact Iff.rfl
  | @pair name inner rest _ _ ihinner ihrest =>
      rw [List.cons_append, List.append_assoc, List.cons_append, closes_opening_iff, ihinner,
        closes_closing_iff]
      constructor
      · rintro ⟨outer, hnames, h⟩
        obtain ⟨-, rfl⟩ := List.cons.inj hnames
        exact ihrest.mp h
      · exact fun h => ⟨names, rfl, ihrest.mpr h⟩

/-- One balanced word behind another. -/
theorem Balanced.append {word more : List Bracket} (h : Balanced word) (h' : Balanced more) :
    Balanced (word ++ more) :=
  closes_iff_balanced.mp ((closes_balanced_append_iff h).mpr (.done h'))

/-- Tokens leave openers to be closed, the innermost first: the brackets before the outermost one,
    and those between one and the next and behind the innermost, are balanced words. -/
inductive Pending : List Opener → List Token → Prop
  | none {done : List Token} : Balanced (brackets done) → Pending [] done
  | opener {openers : List Opener} {before inner : List Token} {token : Token} {name : List Char} :
      Pending openers before → token.bracket? = some (.opening name) → Balanced (brackets inner) →
      Pending (⟨name, token⟩ :: openers) (before ++ token :: inner)

namespace Pending

variable {stack : List Opener} {opener : Opener} {done : List Token} {token : Token}
  {name : List Char}

/-- What comes behind the tokens has to close their openers. -/
theorem closes_iff (h : Pending stack done) {word : List Bracket} :
    Closes [] (brackets done ++ word) ↔ Closes (stack.map Opener.name) word := by
  induction h generalizing word with
  | none hdone => exact closes_balanced_append_iff hdone
  | @opener openers before inner token name _ htoken hinner ih =>
      rw [brackets_append, brackets_cons_of_some htoken, List.append_assoc, List.cons_append, ih,
        closes_opening_iff, closes_balanced_append_iff hinner]
      exact Iff.rfl

/-- Tokens whose brackets are balanced leave no other openers. -/
theorem append {more : List Token} (h : Pending stack done) (hmore : Balanced (brackets more)) :
    Pending stack (done ++ more) := by
  cases h with
  | none hdone => exact .none (brackets_append _ _ ▸ hdone.append hmore)
  | opener hbefore htoken hinner =>
      rw [List.append_assoc, List.cons_append]
      exact .opener hbefore htoken (brackets_append _ _ ▸ hinner.append hmore)

/-- An opening tag is the innermost opener. -/
theorem push (h : Pending stack done) (htoken : token.bracket? = some (.opening name)) :
    Pending (⟨name, token⟩ :: stack) (done ++ [token]) :=
  .opener h htoken .empty

/-- A closing tag of its name closes the innermost opener. -/
theorem pop (h : Pending (opener :: stack) done)
    (htoken : token.bracket? = some (.closing opener.name)) : Pending stack (done ++ [token]) := by
  cases h with
  | @opener _ before inner opening name hbefore hopening hinner =>
      rw [List.append_assoc]
      refine hbefore.append ?_
      have hpair : brackets (opening :: inner ++ [token])
          = .opening name :: (brackets inner ++ .closing name :: []) := by
        rw [List.cons_append, brackets_cons_of_some hopening, brackets_append,
          brackets_cons_of_some htoken]
        rfl
      rw [hpair]
      exact .pair hinner .empty

/-- The openers that are left are openers that were read. -/
theorem exists_mem (h : Pending stack done) (hmem : opener ∈ stack) :
    opener.token ∈ done ∧ opener.token.bracket? = some (.opening opener.name) := by
  induction h with
  | none => exact nomatch hmem
  | @opener openers before inner token name _ htoken _ ih =>
      rcases List.mem_cons.mp hmem with rfl | hmem
      · exact ⟨List.mem_append_right _ List.mem_cons_self, htoken⟩
      · obtain ⟨hbefore, hopening⟩ := ih hmem
        exact ⟨List.mem_append_left _ hbefore, hopening⟩

end Pending

/-- Tokens that have been read without an error, and the openers that they leave. -/
structure Read (rules : RuleSet) (stack : List Opener) (done : List Token) : Prop where
  pending : Pending stack done
  inside : ∀ token ∈ done, token.kind ≠ .finish
  lowerable : ∀ token ∈ done, token.Lowerable rules

/-! ## Completions -/

/-- A token that lowers has each key once. -/
theorem Token.Lowerable.keysOnce {rules : RuleSet} {token : Token} (h : token.Lowerable rules) :
    token.kind.KeysOnce := by
  obtain ⟨run, hrun⟩ := h
  cases hkind : token.kind with
  | opening name attributes selfClosing =>
      rw [hkind] at hrun
      cases hrun with
      | opening => exact List.nodup_cons.mpr ⟨List.not_mem_nil, List.nodup_nil⟩
  | _ => exact trivial

theorem ended_append {tokens more : List Token}
    (htokens : ∀ token ∈ tokens, token.kind.KeysOnce ∧ token.kind ≠ .finish) (h : Ended more) :
    Ended (tokens ++ more) := by
  induction tokens with
  | nil => exact h
  | cons token tokens ih =>
      obtain ⟨⟨honce, hmid⟩, htokens⟩ := List.forall_mem_cons.mp htokens
      exact .cons honce hmid (ih htokens)

/-- The tokens that close openers and end. -/
def closersOf (stack : List Opener) : List Token :=
  stack.map (fun opener => ⟨.closing opener.name, [], 0, .first⟩) ++ [⟨.finish, [], 0, .first⟩]

theorem closes_closersOf (stack : List Opener) :
    Closes (stack.map Opener.name) (brackets (closersOf stack)) := by
  induction stack with
  | nil => exact .done .empty
  | cons opener stack ih => exact closes_closing_iff.mpr ⟨_, rfl, ih⟩

/-- The name of an opening tag that lowers has a rule. -/
theorem Token.Lowerable.exists_rule {rules : RuleSet} {token : Token} {name : List Char}
    (h : token.Lowerable rules) (htoken : token.bracket? = some (.opening name)) :
    ∃ rule, rules.find? name = some rule := by
  obtain ⟨run, hrun⟩ := h
  rw [Token.bracket?] at htoken
  cases hkind : token.kind with
  | opening other attributes selfClosing =>
      rw [hkind] at hrun htoken
      cases htoken
      cases hrun with
      | opening hrule => exact ⟨_, hrule⟩
  | _ =>
      rw [hkind] at htoken
      cases htoken

namespace Read

variable {rules : RuleSet} {stack : List Opener} {done : List Token} {token : Token}

/-- Tokens that have been read without an error are viable: their openers can be closed. -/
theorem viable (h : Read rules stack done) : Viable rules done := by
  have hclosers : ∀ token ∈ closersOf stack, token.Lowerable rules := by
    intro token hmem
    rcases List.mem_append.mp hmem with hmem | hmem
    · obtain ⟨opener, hopener, rfl⟩ := List.mem_map.mp hmem
      obtain ⟨hdone, hopening⟩ := h.pending.exists_mem hopener
      obtain ⟨rule, hrule⟩ := (h.lowerable _ hdone).exists_rule hopening
      exact ⟨_, .closing hrule⟩
    · rw [List.mem_singleton.mp hmem]
      exact ⟨_, .finish _⟩
  have hended : Ended (closersOf stack) := by
    refine ended_append (fun token hmem => ?_) (.finish rfl)
    obtain ⟨opener, -, rfl⟩ := List.mem_map.mp hmem
    exact ⟨trivial, nofun⟩
  refine ⟨closersOf stack, ?_, ?_, ?_⟩
  · exact ended_append (fun token hmem => ⟨(h.lowerable token hmem).keysOnce, h.inside token hmem⟩)
      hended
  · intro token hmem
    exact (List.mem_append.mp hmem).elim (h.lowerable token) (hclosers token)
  · rw [brackets_append]
    exact closes_iff_balanced.mp (h.pending.closes_iff.mpr (closes_closersOf stack))

/-- A token that does not lower makes any tokens impossible. -/
theorem not_viable_of_not_lowerable (htoken : ¬ token.Lowerable rules) :
    ¬ Viable rules (done ++ [token]) := by
  rintro ⟨rest, hrest⟩
  exact htoken (hrest.lowerable token (by simp))

/-- A closing tag makes the tokens before it impossible if it does not close their innermost
    opener. -/
theorem not_viable_of_closing (h : Read rules stack done) {name : List Char}
    (htoken : token.bracket? = some (.closing name))
    (hstack : ∀ outer, stack.map Opener.name ≠ name :: outer) :
    ¬ Viable rules (done ++ [token]) := by
  rintro ⟨rest, hrest⟩
  have hcloses := closes_iff_balanced.mpr hrest.balanced
  rw [List.append_assoc, List.singleton_append, brackets_append, h.pending.closes_iff,
    brackets_cons_of_some htoken, closes_closing_iff] at hcloses
  obtain ⟨outer, hnames, -⟩ := hcloses
  exact hstack outer hnames

end Read

/-! ## The lowering, step by step -/

/-- An error is about a token: it names the token's source text and its place. -/
structure Error.IsAt (error : Error) (token : Token) : Prop where
  tag : error.tag = token.text
  place : error.place = token.place

theorem isAt_fault (token : Token) (cause : Cause) : (token.fault cause).IsAt token := ⟨rfl, rfl⟩

section Steps

variable {ns : List Char} {rules : RuleSet} {stack : List Opener} {token : Token}
  {tokens : List Token} {error : Error}

theorem isAt_of_ruleFor {name : List Char} (h : ruleFor ns rules token name = .error error) :
    error.IsAt token ∧ rules.find? name = none := by
  rw [ruleFor] at h
  split at h
  · cases h
  · next hnone =>
      cases h
      exact ⟨isAt_fault _ _, hnone⟩

theorem isAt_of_expressionOf {rule : Rule} {attributes : List Attribute} {selfClosing : Bool}
    (h : expressionOf rule token attributes selfClosing = .error error) : error.IsAt token := by
  unfold expressionOf at h
  dsimp only at h
  split at h
  · cases h
    exact isAt_fault _ _
  · split at h
    · cases h
      exact isAt_fault _ _
    · split at h
      · cases h
        exact isAt_fault _ _
      · cases h

theorem isAt_of_closeLast {name : List Char} (h : closeLast stack token name = .error error) :
    error.IsAt token ∧ ∀ outer, stack.map Opener.name ≠ name :: outer := by
  cases stack with
  | nil =>
      cases h
      exact ⟨isAt_fault _ _, nofun⟩
  | cons opener openers =>
      rw [closeLast] at h
      split at h
      · cases h
      · next hname =>
          cases h
          refine ⟨isAt_fault _ _, fun outer hnames => hname ?_⟩
          exact beq_iff_eq.mpr (List.cons.inj hnames).1

/-- An error that comes at an opening tag or behind it: at the tag if that does not lower, and
    otherwise behind it. -/
theorem lowerFrom_opening_error {name : List Char} {attributes : List Attribute}
    {selfClosing : Bool} (hkind : token.kind = .opening name attributes selfClosing)
    (honce : (attributes.map (·.1)).Nodup)
    (h : lowerFrom ns rules stack (token :: tokens) = .error error) :
    (¬ token.Lowerable rules ∧ error.IsAt token)
      ∨ token.Lowerable rules
        ∧ lowerFrom ns rules (⟨name, token⟩ :: stack) tokens = .error error := by
  simp only [lowerFrom, hkind, bind_eq_error_iff] at h
  rcases h with hrule | ⟨rule, hrule, hexpression | ⟨expression, hexpression, hrest | ⟨_, _, h⟩⟩⟩
  · obtain ⟨hat, hnone⟩ := isAt_of_ruleFor hrule
    refine .inl ⟨?_, hat⟩
    rintro ⟨run, hrun⟩
    rw [hkind] at hrun
    cases hrun with
    | opening hsome => cases hnone.symm.trans hsome
  · refine .inl ⟨?_, isAt_of_expressionOf hexpression⟩
    rintro ⟨run, hrun⟩
    rw [hkind] at hrun
    cases hrun with
    | @opening _ value _ other hsome hvalue =>
        cases (ruleFor_eq_ok_iff.mp hrule).symm.trans hsome
        have hok : expressionOf rule token [(rule.key, value)] false = .ok (strip value) :=
          (expressionOf_eq_ok_iff honce).mpr ⟨rfl, value, rfl, hvalue, rfl⟩
        cases hexpression.symm.trans hok
  · obtain ⟨rfl, value, rfl, hvalue, -⟩ := (expressionOf_eq_ok_iff honce).mp hexpression
    exact .inr ⟨.of_kind hkind (.opening (ruleFor_eq_ok_iff.mp hrule) hvalue), hrest⟩
  · cases h

/-- An error that comes at a closing tag or behind it: at the tag if that does not lower or does not
    close the innermost opener, and otherwise behind it. -/
theorem lowerFrom_closing_error {name : List Char} (hkind : token.kind = .closing name)
    (h : lowerFrom ns rules stack (token :: tokens) = .error error) :
    (¬ token.Lowerable rules ∧ error.IsAt token)
      ∨ ((∀ outer, stack.map Opener.name ≠ name :: outer) ∧ error.IsAt token)
      ∨ token.Lowerable rules ∧ ∃ opener openers, stack = opener :: openers ∧ opener.name = name
        ∧ lowerFrom ns rules openers tokens = .error error := by
  simp only [lowerFrom, hkind, bind_eq_error_iff] at h
  rcases h with hrule | ⟨rule, hrule, hclose | ⟨openers, hclose, hrest | ⟨_, _, h⟩⟩⟩
  · obtain ⟨hat, hnone⟩ := isAt_of_ruleFor hrule
    refine .inl ⟨?_, hat⟩
    rintro ⟨run, hrun⟩
    rw [hkind] at hrun
    cases hrun with
    | closing hsome => cases hnone.symm.trans hsome
  · obtain ⟨hat, hnames⟩ := isAt_of_closeLast hclose
    exact .inr (.inl ⟨hnames, hat⟩)
  · refine .inr (.inr ⟨.of_kind hkind (.closing (ruleFor_eq_ok_iff.mp hrule)), ?_⟩)
    cases stack with
    | nil => cases hclose
    | cons opener outer =>
        rw [closeLast] at hclose
        split at hclose
        · next hname =>
            cases hclose
            exact ⟨opener, openers, rfl, beq_iff_eq.mp hname, hrest⟩
        · cases hclose
  · cases h

end Steps

/-! ## Errors -/

/-- Where lowering stops: at a token that makes the viable tokens before it impossible, or at the
    end for the innermost opener that is left. -/
inductive Stops (rules : RuleSet) (tokens : List Token) (error : Error) : Prop
  | token {before after : List Token} {token : Token} (htokens : tokens = before ++ token :: after)
      (hviable : Viable rules before) (himpossible : ¬ Viable rules (before ++ [token]))
      (hinside : token.kind ≠ .finish) (hat : error.IsAt token)
  | finish {body : List Token} {finish : Token} {opener : Opener} {openers : List Opener}
      (htokens : tokens = body ++ [finish]) (hfinish : finish.kind = .finish)
      (hviable : Viable rules body) (hpending : Pending (opener :: openers) body)
      (herror : error = opener.token.fault .unclosed)

/-- Behind tokens that were read, lowering stops at the first token that makes them impossible, or
    at the end. -/
theorem stops_of_lowerFrom {ns : List Char} {rules : RuleSet} {stack : List Opener}
    {done tokens : List Token} {error : Error} (hdone : Read rules stack done)
    (htokens : Ended tokens) (h : lowerFrom ns rules stack tokens = .error error) :
    Stops rules (done ++ tokens) error := by
  -- what was read is left free, and grows by one token with each step
  induction htokens generalizing stack done with
  | @finish token hkind =>
      simp only [lowerFrom, hkind] at h
      cases stack with
      | nil => cases h
      | cons opener openers =>
          cases h
          exact .finish rfl hkind hdone.viable hdone.pending rfl
  | @cons token tokens honce hinside _ ih =>
      have hstep {next : List Opener} (hpending : Pending next (done ++ [token]))
          (hlowerable : token.Lowerable rules) (h : lowerFrom ns rules next tokens = .error error) :
          Stops rules (done ++ token :: tokens) error := by
        have hread : Read rules next (done ++ [token]) := by
          refine ⟨hpending, ?_, ?_⟩
          · simpa [or_imp, forall_and] using ⟨hdone.inside, hinside⟩
          · simpa [or_imp, forall_and] using ⟨hdone.lowerable, hlowerable⟩
        simpa using ih hread h
      have hstop (himpossible : ¬ Viable rules (done ++ [token])) (hat : error.IsAt token) :
          Stops rules (done ++ token :: tokens) error :=
        .token rfl hdone.viable himpossible hinside hat
      cases hkind : token.kind with
      | text =>
          have hbracket : token.bracket? = none := by rw [Token.bracket?, hkind]; rfl
          have hbrackets : Balanced (brackets [token]) := by
            rw [brackets_cons_of_none hbracket]
            exact .empty
          simp only [lowerFrom, hkind, bind_eq_error_iff] at h
          rcases h with hrest | ⟨_, _, h⟩
          · exact hstep (hdone.pending.append hbrackets) (.of_kind hkind (.text _)) hrest
          · cases h
      | opening name attributes selfClosing =>
          have hbracket : token.bracket? = some (.opening name) := by
            rw [Token.bracket?, hkind]
            rfl
          rw [hkind] at honce
          rcases lowerFrom_opening_error hkind honce h with ⟨hnot, hat⟩ | ⟨hlowerable, hrest⟩
          · exact hstop (Read.not_viable_of_not_lowerable hnot) hat
          · exact hstep (hdone.pending.push hbracket) hlowerable hrest
      | closing name =>
          have hbracket : token.bracket? = some (.closing name) := by
            rw [Token.bracket?, hkind]
            rfl
          rcases lowerFrom_closing_error hkind h with
            ⟨hnot, hat⟩ | ⟨hnames, hat⟩ | ⟨hlowerable, opener, openers, rfl, rfl, hrest⟩
          · exact hstop (Read.not_viable_of_not_lowerable hnot) hat
          · exact hstop (hdone.not_viable_of_closing hbracket hnames) hat
          · exact hstep (hdone.pending.pop hbracket) hlowerable hrest
      | finish => exact absurd hkind hinside

/-- **The first impossible token**: an error of lowering is about a token that no token behind it
    can make good, while the tokens before it, and so those before each earlier token, could have
    been completed.  If no token is impossible, some opener is left at the end, and the error is
    about the one that was opened last. -/
theorem compile_error_first {ns : List Char} {rules : RuleSet} {source : List Char}
    {tokens : List Token} {error : Error} (htokens : tokenize ns source = .ok tokens)
    (h : compile ns rules source = .error error) :
    (∃ before token after, tokens = before ++ token :: after ∧ token.kind ≠ .finish
      ∧ (∀ first, first <+: before → Viable rules first) ∧ ¬ Viable rules (before ++ [token])
      ∧ error.tag = token.text ∧ error.place = token.place)
    ∨ ∃ before opener name inner finish, tokens = before ++ opener :: inner ++ [finish]
      ∧ finish.kind = .finish
      ∧ (∀ first, first <+: before ++ opener :: inner → Viable rules first)
      ∧ opener.bracket? = some (.opening name) ∧ Balanced (brackets inner)
      ∧ error = ⟨.unclosed, opener.text, opener.place⟩ := by
  rw [compile, bind_eq_error_iff] at h
  rcases h with hfailed | ⟨found, hfound, hlower⟩
  · cases hfailed.symm.trans htokens
  · cases hfound.symm.trans htokens
    have hnone : Read rules [] [] :=
      ⟨.none .empty, List.forall_mem_nil _, List.forall_mem_nil _⟩
    cases stops_of_lowerFrom hnone (ended_of_tokensFrom htokens) hlower with
    | @token before after token htokens hviable himpossible hinside hat =>
        exact .inl ⟨before, token, after, htokens, hinside, fun first hfirst =>
          hviable.of_prefix hfirst, himpossible, hat.tag, hat.place⟩
    | @finish body finish opener openers htokens hfinish hviable hpending herror =>
        cases hpending with
        | @opener _ before inner token name _ htoken hinner =>
            exact .inr ⟨before, token, name, inner, finish, htokens, hfinish, fun first hfirst =>
              hviable.of_prefix hfirst, htoken, hinner, herror⟩

/-- A source in which a closing tag of no known directive stands inside a directive. -/
def crossed : String :=
  "a<mky:if cond='x'>\n<mky:if cond='y'></mky:if> </mky:for></mky:if>"

/-- The tokens of the source, of which the seventh is faulty. -/
def crossedTokens : List Token :=
  [⟨.text, "a".toList, 0, ⟨1, 1⟩⟩,
    ⟨.opening "if".toList [("cond".toList, "x".toList)] false, "<mky:if cond='x'>".toList, 1,
      ⟨1, 2⟩⟩,
    ⟨.text, "\n".toList, 18, ⟨1, 19⟩⟩,
    ⟨.opening "if".toList [("cond".toList, "y".toList)] false, "<mky:if cond='y'>".toList, 19,
      ⟨2, 1⟩⟩,
    ⟨.closing "if".toList, "</mky:if>".toList, 36, ⟨2, 18⟩⟩, ⟨.text, " ".toList, 45, ⟨2, 27⟩⟩,
    ⟨.closing "for".toList, "</mky:for>".toList, 46, ⟨2, 28⟩⟩,
    ⟨.closing "if".toList, "</mky:if>".toList, 56, ⟨2, 38⟩⟩, ⟨.finish, [], 65, ⟨2, 47⟩⟩]

/-- The tokens before the closing tag can be completed, and those up to it cannot. -/
theorem compile_error_first_crossed :
    tokenize "mky".toList crossed.toList = .ok crossedTokens
      ∧ compile "mky".toList standardRules crossed.toList
        = .error ⟨.unknown "mky:for".toList, "</mky:for>".toList, ⟨2, 28⟩⟩
      ∧ Viable standardRules (crossedTokens.take 6)
      ∧ ¬ Viable standardRules (crossedTokens.take 7) := by
  have htokens : tokenize "mky".toList crossed.toList = .ok crossedTokens := by decide +kernel
  have herror : compile "mky".toList standardRules crossed.toList
      = .error ⟨.unknown "mky:for".toList, "</mky:for>".toList, ⟨2, 28⟩⟩ := by decide +kernel
  refine ⟨htokens, herror, ?_⟩
  -- no two of the tokens have one place
  have hplaces : ∀ index : Fin crossedTokens.length,
      crossedTokens[index].place = ⟨2, 28⟩ → index.val = 6 := by decide
  rcases compile_error_first htokens herror with
    ⟨before, token, after, hall, -, hviable, himpossible, -, hplace⟩
      | ⟨_, _, _, _, _, _, _, _, _, _, h⟩
  · have hlength : before.length < crossedTokens.length := by
      rw [hall, List.length_append, List.length_cons]
      omega
    have hindex : before.length = 6 := by
      refine hplaces ⟨before.length, hlength⟩ ?_
      show crossedTokens[before.length].place = ⟨2, 28⟩
      simp only [hall, List.getElem_append_right (Nat.le_refl _), Nat.sub_self,
        List.getElem_cons_zero]
      exact hplace.symm
    have hbefore : crossedTokens.take 6 = before := by
      rw [hall, ← hindex, List.take_left]
    have htoken : crossedTokens.take 7 = before ++ [token] := by
      have hseven : 7 = before.length + 1 := by rw [hindex]
      rw [hall, hseven, List.take_length_add_append]
      rfl
    rw [hbefore, htoken]
    exact ⟨hviable before List.prefix_rfl, himpossible⟩
  · cases h

end Stencil.Directive
