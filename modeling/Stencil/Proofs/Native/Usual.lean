import Stencil.Native.Usual
import Stencil.Proofs.Native.Blocks

/-! # The usual language — what is documented holds of it

    The text of a template of names or of conditionals splits into its runs and its
    tags, its names are replaced by those that lead their variables, and what is
    then read is one part for each run and each tag.  So run against variables that
    have one value for the names of one variable, it shows what it says.  A text
    that is spoilt has a tag that cannot be read.

    Headline: `usual_interpolates` and `usual_branches`. -/

namespace Stencil.Native

open Stencil.Text

/-! ## Names -/

/-- The names of the usual language, and the plain letters in which those of one variable agree. -/
def usualNaming : Naming where
  isName name := name.all isWord && isVariableName name
  form name := name.flatMap plainLetters
  ascii name hname c hc hascii := by
    rw [Bool.and_eq_true] at hname
    have hword := List.all_eq_true.mp hname.1 c hc
    rw [isWord, if_pos hascii, Bool.or_eq_true, beq_iff_eq] at hword
    exact hword

theorem isName_iff {name : List Char} : usualNaming.isName name = true ↔ IsName name :=
  Bool.and_eq_true_iff

/-- The name that leads a variable is one of the names, and is the same variable. -/
theorem leader_cases (names : List String) (name : String) :
    (leader names name ∈ names ∨ leader names name = name)
      ∧ plainName (leader names name) = plainName name := by
  rw [leader]
  cases hfind : names.eraseDups.reverse.find? fun other => plainName other == plainName name with
  | none => exact ⟨.inr rfl, rfl⟩
  | some found =>
      have hmem := List.mem_eraseDups.mp (List.mem_reverse.mp (List.mem_of_find?_eq_some hfind))
      have hsame := List.find?_some hfind
      exact ⟨.inl hmem, beq_iff_eq.mp hsame⟩

/-- The names of variables in segments. -/
def namesIn (segments : List Segment) : List String :=
  segments.flatMap fun segment => namesFrom false segment.words

/-- The name that takes the place of a name among others. -/
def replaced (names : List String) (name : List Char) : List Char :=
  if keywords.contains (String.ofList name) then name
  else (leader names (String.ofList name)).toList

/-- What takes the place of one of some names is one of them, of the same variable. -/
theorem replaced_mem {names : List String} {others : List (List Char)}
    (hnames : ∀ name ∈ names, name.toList ∈ others) {name : List Char} (hname : name ∈ others) :
    replaced names name ∈ others
      ∧ usualNaming.form (replaced names name) = usualNaming.form name := by
  rw [replaced]
  split
  · exact ⟨hname, rfl⟩
  · obtain ⟨hmem, hform⟩ := leader_cases names (String.ofList name)
    refine ⟨?_, by simpa [plainName, usualNaming, String.ofList_inj] using hform⟩
    rcases hmem with hmem | hsame
    · exact hnames _ hmem
    · rw [hsame, String.toList_ofList]
      exact hname

/-- A tag of a single name after its words are renamed. -/
theorem renameFrom_name (names : List String) (name : List Char) :
    renameFrom (leader names) false [.name (String.ofList name)]
      = [.name (String.ofList (replaced names name))] := by
  rw [renameFrom, renameFrom, replaced, Bool.false_or]
  split
  · rfl
  · rw [String.ofList_toList]

theorem renameFrom_opened (names : List String) (name : List Char) :
    renameFrom (leader names) false [.name "if", .name (String.ofList name)]
      = [.name "if", .name (String.ofList (replaced names name))] := by
  have hword : (false || keywords.contains "if") = true := by decide
  rw [renameFrom, hword, if_pos rfl, renameFrom_name]

theorem renameFrom_closed (names : List String) :
    renameFrom (leader names) false [.name "endif"] = [.name "endif"] := by
  have hword : (false || keywords.contains "endif") = true := by decide
  rw [renameFrom, hword, if_pos rfl, renameFrom]

theorem mem_namesFrom_name {name : List Char} {other : String}
    (h : other ∈ namesFrom false [.name (String.ofList name)]) : other.toList = name := by
  rw [namesFrom] at h
  split at h
  · cases h
  · rw [List.mem_singleton.mp h, String.toList_ofList]

theorem mem_namesFrom_opened {name : List Char} {other : String}
    (h : other ∈ namesFrom false [.name "if", .name (String.ofList name)]) :
    other.toList = name := by
  have hword : (false || keywords.contains "if") = true := by decide
  rw [namesFrom, hword, if_pos rfl] at h
  exact mem_namesFrom_name h

theorem namesFrom_closed : namesFrom false [.name "endif"] = [] := by
  have hword : (false || keywords.contains "endif") = true := by decide
  rw [namesFrom, hword, if_pos rfl, namesFrom]

/-- A text without reserved words is read as a variable. -/
theorem named_of_notMem {name : List Char} (h : name ∉ reservedNames) :
    Reader.named (String.ofList name) = .name (String.ofList name) := by
  have hne (word : String) (hword : word.toList ∈ reservedNames) :
      (String.ofList name == word) = false := by
    refine beq_eq_false_iff_ne.mpr fun heq => h ?_
    rw [← heq, String.toList_ofList] at hword
    exact hword
  rw [Reader.named, hne "true" (by decide), hne "True" (by decide), hne "false" (by decide),
    hne "False" (by decide), hne "none" (by decide), hne "None" (by decide)]
  rfl

theorem ne_not_of_notMem {name : List Char} (h : name ∉ reservedNames) :
    String.ofList name ≠ "not" := by
  intro heq
  refine h ?_
  rw [← String.toList_ofList (l := name), heq]
  decide

/-! ## Runs of text -/

/-- A run in front of parts is one more part, unless it is empty. -/
def runPart (run : List Char) : List Node :=
  if run.isEmpty then [] else [.text (String.ofList run)]

theorem hasParts_textBefore {segments rest : List Segment} {nodes : List Node}
    {ending : Reader.Ending} (h : Reader.HasParts segments (nodes, ending, rest))
    (run : List Char) : Reader.HasParts (textBefore none run.reverse ++ segments)
      (runPart run ++ nodes, ending, rest) := by
  have hbefore : textBefore none run.reverse = if run.isEmpty then [] else [.text run] := by
    show (if run.reverse.reverse.isEmpty then _ else [Segment.text run.reverse.reverse]) = _
    rw [List.reverse_reverse]
  rw [hbefore]
  cases run with
  | nil => exact h
  | cons c cs => exact h.text (c :: cs)

theorem map_textBefore (rename : String → String) (run : List Char) :
    (textBefore none run).map (Segment.rename rename) = textBefore none run := by
  show (if run.reverse.isEmpty then _ else _ : List Segment).map _ = _
  split <;> simp_all [textBefore, Segment.rename]

theorem namesIn_textBefore (run : List Char) (segments : List Segment) :
    namesIn (textBefore none run ++ segments) = namesIn segments := by
  have hnone : namesIn (textBefore none run) = [] := by
    show namesIn (if run.reverse.isEmpty then _ else _ : List Segment) = _
    split <;> simp [namesIn, Segment.words, namesFrom]
  rw [namesIn, List.flatMap_append, ← namesIn, hnone, List.nil_append, namesIn]

section Runs

variable {strict : Bool} {vars : Variables} {nodes : List Node} {out more : String}

theorem runNodes_cons {node : Node} (hnode : runNode strict vars node = .done (out, vars))
    (hnodes : runNodes strict nodes vars = .done (more, vars)) :
    runNodes strict (node :: nodes) vars = .done (out ++ more, vars) := by
  rw [runNodes, hnode]
  show (runNodes strict nodes vars).bind _ = _
  rw [hnodes]
  rfl

theorem runNodes_runPart (run : List Char)
    (h : runNodes strict nodes vars = .done (out, vars)) :
    runNodes strict (runPart run ++ nodes) vars = .done (String.ofList run ++ out, vars) := by
  cases run with
  | nil =>
      rw [show String.ofList [] ++ out = out from String.empty_append]
      exact h
  | cons c cs => exact runNodes_cons rfl h

theorem runNodes_run (run : List Char) :
    runNodes strict (runPart run) vars = .done (String.ofList run, vars) := by
  have h := runNodes_runPart run (show runNodes strict [] vars = .done ("", vars) from rfl)
  rwa [List.append_nil, String.append_empty] at h

/-- A branch over a name runs its body if the name is bound to true. -/
theorem runNode_branch {name : String} {b : Bool} (hname : vars.lookup name = some (.bool b))
    {body : List Node} (hbody : runNodes strict body vars = .done (out, vars)) :
    runNode strict vars (.branch (.name name) body []) = .done (if b then out else "", vars) := by
  have hvalue : evaluate strict vars (.name name) = .done (.bool b) := by
    rw [evaluate, lookUp, hname]
    rfl
  rw [runNode, hvalue]
  cases b with
  | false => rfl
  | true => exact hbody

/-- A name shows the text that is bound under it. -/
theorem runNode_output {name text : String} (hname : vars.lookup name = some (.text text)) :
    runNode strict vars (.output (.name name)) = .done (text, vars) := by
  have hvalue : evaluate strict vars (.name name) = .done (.text text) := by
    rw [evaluate, lookUp, hname]
    rfl
  rw [runNode, hvalue]
  rfl

end Runs

theorem unifyLines_of_notMem {text : List Char} (h : '\r' ∉ text) : unifyLines text = text := by
  induction text with
  | nil => rfl
  | cons c cs ih =>
      rw [List.mem_cons, not_or] at h
      obtain ⟨hc, hcs⟩ := h
      have hne : (c == '\r') = false := beq_eq_false_iff_ne.mpr (Ne.symm hc)
      rw [unifyLines, hne, ih hcs]
      · rfl
      · rintro rest rfl
        exact absurd rfl hc

/-- A text whose segments, under the names that lead their variables, are read as a program with
    known filters only is built to the script that runs the program. -/
theorem build_of_parts {text : List Char} (htext : '\r' ∉ text) {segments : List Segment}
    (hsegments : segmentsFrom? (text.length + 1) 1 [] text = some segments) {program : Program}
    (hparts : Reader.HasParts (unified segments) (program, .finished, []))
    (hknown : areNodesKnown false program = true) : build (String.ofList text)
      = .ok fun strict vars => do return (← runNodes strict program vars).1 := by
  have hread : Program.read? text = some program := by
    rw [Program.read?, segments?, unifyLines_of_notMem htext]
    show (segmentsFrom? _ _ _ _).bind _ = _
    rw [hsegments, Option.bind_some]
    simp only [hparts _ (Nat.lt_succ_self _)]
    rfl
  rw [build, String.toList_ofList, hread]
  exact if_pos hknown

/-! ## Templates of names -/

namespace Interpolated

variable {template : Interpolated}

/-- The segments of a template; the lines of its names may be any. -/
inductive Cut : Interpolated → List Segment → Prop where
  | text (run : List Char) : Cut (.text run) (textBefore none run.reverse)
  | slot {run name : List Char} {rest : Interpolated} {behind : List Segment} (line : Nat)
      (h : Cut rest behind) :
      Cut (.slot run name rest)
        (textBefore none run.reverse ++ .expression [.name (String.ofList name)] line :: behind)

/-- The program of a template. -/
def program : Interpolated → Program
  | .text run => runPart run
  | .slot run name rest => runPart run ++ .output (.name (String.ofList name)) :: rest.program

/-- A template with its names replaced. -/
def rename (f : List Char → List Char) : Interpolated → Interpolated
  | .text run => .text run
  | .slot run name rest => .slot run (f name) (rest.rename f)

theorem hasWords_slot {name : List Char} (hname : IsName name) (rest : List Char) :
    HasWords TagKind.expression.ends (' ' :: (name ++ ' ' :: '\x7d' :: '\x7d' :: rest))
      [.name (String.ofList name)] rest := by
  have hend := hasWords_blank (hasWords_end .expression rest)
  exact hasWords_blank (hasWords_name hname (endsWord_blank _) hend)

/-- The source of a template splits into its segments. -/
theorem splits (h : template.IsLegible usualNaming) : Splits template.source template.Cut := by
  induction template with
  | text run =>
      have hsplits := follows_nil.run (isPassed_of_notMem h.1 [])
      rw [List.append_nil] at hsplits
      intro fuel line hfuel
      obtain ⟨_, hsegments, _, rfl, rfl⟩ := hsplits fuel line hfuel
      rw [List.append_nil] at hsegments
      exact ⟨_, hsegments, .text run⟩
  | slot run name rest ih =>
      obtain ⟨⟨hrun, -⟩, ⟨hname, -⟩, hrest⟩ := h
      have htag := (ih hrest).tag .expression rfl rfl
        (hasWords_slot (isName_iff.mp hname) rest.source) (by
          simp only [List.length_cons, List.length_append]
          omega)
      have hsource : (slot run name rest).source = run
          ++ '\x7b' :: '\x7b' :: ' ' :: (name ++ ' ' :: '\x7d' :: '\x7d' :: rest.source) := by
        simp [source, slotTag]
      rw [hsource]
      intro fuel line hfuel
      obtain ⟨_, hsegments, _, rfl, start, behind, rfl, hcut⟩ :=
        htag.run (isPassed_of_notMem hrun _) fuel line hfuel
      exact ⟨_, hsegments, .slot start hcut⟩

theorem Cut.rename {segments : List Segment} (h : template.Cut segments) (names : List String) :
    (template.rename (replaced names)).Cut (segments.map (Segment.rename (leader names))) := by
  induction h with
  | text run =>
      rw [map_textBefore]
      exact .text run
  | slot line _ ih =>
      rw [List.map_append, map_textBefore, List.map_cons, Segment.rename, renameFrom_name]
      exact .slot line ih

theorem Cut.mem_names {segments : List Segment} (h : template.Cut segments) :
    ∀ name ∈ namesIn segments, name.toList ∈ template.names := by
  induction h with
  | text run =>
      rw [← List.append_nil (textBefore _ _), namesIn_textBefore]
      exact fun name hname => absurd hname List.not_mem_nil
  | slot line _ ih =>
      intro name hname
      rw [namesIn_textBefore] at hname
      rcases List.mem_append.mp hname with hname | hname
      · exact mem_namesFrom_name hname ▸ List.mem_cons_self
      · exact List.mem_cons_of_mem _ (ih name hname)

/-- The segments of a template are read as its program. -/
theorem hasParts (hnames : ∀ name ∈ template.names, name ∉ reservedNames)
    {segments : List Segment} (hcut : template.Cut segments) :
    Reader.HasParts segments (template.program, .finished, []) := by
  induction hcut with
  | text run =>
      have hparts := hasParts_textBefore Reader.hasParts_nil run
      rwa [List.append_nil, List.append_nil] at hparts
  | slot line _ ih =>
      obtain ⟨hname, hrest⟩ := List.forall_mem_cons.mp hnames
      have hvariable := Reader.output?_name (ne_not_of_notMem hname) line
      rw [named_of_notMem hname] at hvariable
      exact hasParts_textBefore ((ih hrest).output hvariable) _

theorem names_rename (f : List Char → List Char) :
    (template.rename f).names = template.names.map f := by
  induction template with
  | text run => rfl
  | slot run name rest ih => rw [rename, names, names, List.map_cons, ih]

theorem areNodesKnown_program (soft : Bool) : areNodesKnown soft template.program = true := by
  induction template with
  | text run => cases run <;> rfl
  | slot run name rest ih =>
      cases run <;>
        simpa [program, runPart, areNodesKnown, Node.isKnown, Expr.isKnown] using ih

/-- The program of a template shows its text with what is written for its names. -/
theorem runNodes_program (strict : Bool) {vars : Variables} {written : List Char → List Char}
    {f : List Char → List Char} (hbound : ∀ name ∈ template.names,
      vars.lookup (String.ofList (f name)) = some (.text (String.ofList (written name)))) :
    runNodes strict (template.rename f).program vars
      = .done (String.ofList (template.output written), vars) := by
  induction template with
  | text run => exact runNodes_run run
  | slot run name rest ih =>
      obtain ⟨hname, hrest⟩ := List.forall_mem_cons.mp hbound
      rw [output, String.ofList_append, String.ofList_append]
      exact runNodes_runPart run (runNodes_cons (runNode_output hname) (ih hrest))

end Interpolated

section

attribute [local instance] usual

/-- **The usual language shows templates of names as documented.** -/
theorem usual_interpolates : Substrate.Interpolates usualNaming := by
  intro template hlegible written hagree
  obtain ⟨segments, hsegments, hcut⟩ := Interpolated.splits hlegible _ 1 (Nat.lt_succ_self _)
  have hnames := hcut.mem_names
  have hkept : ∀ name ∈ (template.rename (replaced (namesIn segments))).names,
      name ∉ reservedNames := by
    rw [Interpolated.names_rename]
    intro other hother
    obtain ⟨name, hname, rfl⟩ := List.mem_map.mp hother
    exact (hlegible.isVariable _ (replaced_mem hnames hname).1).2
  refine ⟨_, build_of_parts (Interpolated.notMem_source hlegible) hsegments
    (Interpolated.hasParts hkept (hcut.rename _)) (Interpolated.areNodesKnown_program false), ?_⟩
  intro strict vars hvars
  have hbound (name : List Char) (hname : name ∈ template.names) :
      vars.lookup (String.ofList (replaced (namesIn segments) name))
        = some (.text (String.ofList (written name))) := by
    obtain ⟨hmem, hform⟩ := replaced_mem hnames hname
    rw [hvars _ hmem, hagree _ hmem _ hname hform]
  show (runNodes strict _ vars).bind _ = _
  rw [Interpolated.runNodes_program strict hbound]
  rfl

end

/-! ## Templates of conditionals -/

namespace Blocks

variable {template : Blocks}

/-- The segments of a template in front of others; the lines of its tags may be any. -/
inductive Cut : Blocks → List Segment → List Segment → Prop where
  | text (run : List Char) (behind : List Segment) :
      Cut (.text run) behind (textBefore none run.reverse ++ behind)
  | block {run name : List Char} {body rest : Blocks} {behind inside after : List Segment}
      (line line' : Nat) (hbody : Cut body (.statement [.name "endif"] line :: after) inside)
      (hrest : Cut rest behind after) :
      Cut (.block run name body rest) behind (textBefore none run.reverse
        ++ .statement [.name "if", .name (String.ofList name)] line' :: inside)

/-- The program of a template. -/
def program : Blocks → Program
  | .text run => runPart run
  | .block run name body rest =>
      runPart run ++ .branch (.name (String.ofList name)) body.program [] :: rest.program

/-- A template with its names replaced. -/
def rename (f : List Char → List Char) : Blocks → Blocks
  | .text run => .text run
  | .block run name body rest => .block run (f name) (body.rename f) (rest.rename f)

theorem openTag_append (name rest : List Char) : openTag name ++ rest
    = '\x7b' :: '%' :: ' ' :: 'i' :: 'f' :: ' ' :: (name ++ ' ' :: '%' :: '\x7d' :: rest) := by
  simp [openTag]

theorem closeTag_append (rest : List Char) : closeTag ++ rest
    = '\x7b' :: '%' :: ' ' :: 'e' :: 'n' :: 'd' :: 'i' :: 'f' :: ' ' :: '%' :: '\x7d' :: rest := rfl

theorem hasWords_opened {name : List Char} (hname : IsName name) (rest : List Char) :
    HasWords TagKind.statement.ends
      (' ' :: 'i' :: 'f' :: ' ' :: (name ++ ' ' :: '%' :: '\x7d' :: rest))
      [.name "if", .name (String.ofList name)] rest := by
  have hword : IsName ['i', 'f'] := by decide
  have hend := hasWords_blank (hasWords_end .statement rest)
  have hcondition := hasWords_blank (hasWords_name hname (endsWord_blank _) hend)
  exact hasWords_blank (hasWords_name hword (endsWord_blank _) hcondition)

theorem hasWords_closed (rest : List Char) :
    HasWords TagKind.statement.ends
      (' ' :: 'e' :: 'n' :: 'd' :: 'i' :: 'f' :: ' ' :: '%' :: '\x7d' :: rest)
      [.name "endif"] rest := by
  have hword : IsName ['e', 'n', 'd', 'i', 'f'] := by decide
  have hend := hasWords_blank (hasWords_end .statement rest)
  exact hasWords_blank (hasWords_name hword (endsWord_blank _) hend)

section Steps

variable {name text : List Char} {kind : List Segment → Prop}

theorem follows_openTag (hname : IsName name) (h : Splits text kind) :
    Follows (openTag name ++ text) fun segments => ∃ line behind, segments
      = .statement [.name "if", .name (String.ofList name)] line :: behind ∧ kind behind := by
  rw [openTag_append]
  refine h.tag .statement rfl rfl (hasWords_opened hname text) ?_
  simp only [List.length_cons, List.length_append]
  omega

theorem follows_closeTag (h : Splits text kind) : Follows (closeTag ++ text)
    fun segments => ∃ line behind, segments = .statement [.name "endif"] line :: behind
      ∧ kind behind := by
  rw [closeTag_append]
  refine h.tag .statement rfl rfl (hasWords_closed text) ?_
  simp only [List.length_cons]
  omega

end Steps

/-- The source of a template that does not fuse splits into its segments. -/
theorem splits (hplain : template.IsPlain usualNaming) {text : List Char}
    {kind : List Segment → Prop} (htext : StartsTag text)
    (hfuses : template.fuses (!text.isEmpty) = false) (h : Follows text kind) :
    Splits (template.source ++ text) fun segments =>
      ∃ behind, Cut template behind segments ∧ kind behind := by
  induction template generalizing text kind with
  | text run =>
      have hlast : run.getLast? ≠ some '\x7b' ∨ text = [] := by
        rcases Bool.and_eq_false_iff.mp hfuses with hnil | hlast
        · exact .inr (by simpa using hnil)
        · exact .inl (beq_eq_false_iff_ne.mp hlast)
      intro fuel line hfuel
      obtain ⟨segments, hsegments, behind, rfl, hkind⟩ :=
        h.run (isPassed_of_isTagFree hplain.2 htext hlast) fuel line hfuel
      exact ⟨_, hsegments, behind, .text run behind, hkind⟩
  | block run name body rest ihbody ihrest =>
      obtain ⟨⟨-, hrun⟩, ⟨hname, -⟩, hbodyPlain, hrestPlain⟩ := hplain
      obtain ⟨hhead, hrestFuses⟩ := Bool.or_eq_false_iff.mp hfuses
      obtain ⟨hlast, hbodyFuses⟩ := Bool.or_eq_false_iff.mp hhead
      -- from behind: the rest, the closing tag, the body, the opening tag, and the run in front
      have hafter := follows_closeTag (ihrest hrestPlain htext hrestFuses h)
      have hinside := follows_openTag (isName_iff.mp hname)
        (ihbody hbodyPlain (startsTag_closeTag _) hbodyFuses hafter)
      have hsplits := hinside.run (isPassed_of_isTagFree hrun (startsTag_openTag _ _)
        (.inl (beq_eq_false_iff_ne.mp hlast)))
      simp only [source, List.append_assoc]
      intro fuel line hfuel
      obtain ⟨_, hsegments, _, rfl, line, _, rfl, _, hbody, line', _, rfl, behind, hrest, hkind⟩ :=
        hsplits fuel line hfuel
      exact ⟨_, hsegments, behind, .block line' line hbody hrest, hkind⟩

theorem Cut.rename {behind segments : List Segment} (h : Cut template behind segments)
    (names : List String) : Cut (template.rename (replaced names))
      (behind.map (Segment.rename (leader names)))
        (segments.map (Segment.rename (leader names))) := by
  induction h with
  | text run behind =>
      rw [List.map_append, map_textBefore]
      exact .text run _
  | block line line' _ _ ihbody ihrest =>
      rw [List.map_cons, Segment.rename, renameFrom_closed] at ihbody
      rw [List.map_append, map_textBefore, List.map_cons, Segment.rename, renameFrom_opened]
      exact .block line line' ihbody ihrest

theorem Cut.mem_names {behind segments : List Segment} (h : Cut template behind segments) :
    ∀ name ∈ namesIn segments, name.toList ∈ template.names ∨ name ∈ namesIn behind := by
  induction h with
  | text run behind =>
      rw [namesIn_textBefore]
      exact fun name => .inr
  | @block run tested body rest behind inside after line line' _ _ ihbody ihrest =>
      intro name hname
      rw [namesIn_textBefore] at hname
      rcases List.mem_append.mp hname with hname | hname
      · exact .inl (mem_namesFrom_opened hname ▸ List.mem_cons_self)
      · have hclosed : namesIn (.statement [.name "endif"] line :: after) = namesIn after := by
          rw [namesIn, List.flatMap_cons, Segment.words, namesFrom_closed]
          rfl
        rcases ihbody name hname with hbody | hafter
        · exact .inl (List.mem_cons_of_mem _ (List.mem_append_left _ hbody))
        · exact (ihrest name (hclosed ▸ hafter)).imp_left fun hrest =>
            List.mem_cons_of_mem _ (List.mem_append_right _ hrest)

theorem Cut.length_le {behind segments : List Segment} (h : Cut template behind segments) :
    behind.length ≤ segments.length := by
  induction h with
  | text run behind =>
      rw [List.length_append]
      exact Nat.le_add_left _ _
  | block line line' _ _ ihbody ihrest =>
      rw [List.length_cons] at ihbody
      rw [List.length_append, List.length_cons]
      omega

/-- The segments of a template are read as its program. -/
theorem hasParts (hnames : ∀ name ∈ template.names, name ∉ reservedNames)
    {behind segments rest : List Segment} (hcut : Cut template behind segments)
    {nodes : List Node} {ending : Reader.Ending}
    (h : Reader.HasParts behind (nodes, ending, rest)) :
    Reader.HasParts segments (template.program ++ nodes, ending, rest) := by
  induction hcut generalizing nodes ending rest with
  | text run behind => exact hasParts_textBefore h run
  | @block run name body rest behind inside after line line' hbody hrest ihbody ihrest =>
      obtain ⟨hname, hnames⟩ := List.forall_mem_cons.mp hnames
      obtain ⟨hbodyNames, hrestNames⟩ := List.forall_mem_append.mp hnames
      -- the body ends at its closing tag, so it is read with no parts behind it
      have hinside := ihbody hbodyNames (Reader.hasParts_ending rfl line after)
      rw [List.append_nil] at hinside
      have hlength : after.length < inside.length := hbody.length_le
      have hbranch := Reader.HasParts.conditional (ne_not_of_notMem hname) hlength hinside
        (ihrest hrestNames h) line'
      rw [named_of_notMem hname] at hbranch
      have hparts := hasParts_textBefore hbranch run
      rw [← List.cons_append, ← List.append_assoc] at hparts
      exact hparts

theorem names_rename (f : List Char → List Char) :
    (template.rename f).names = template.names.map f := by
  induction template with
  | text run => rfl
  | block run name body rest ihbody ihrest =>
      rw [rename, names, names, List.map_cons, List.map_append, ihbody, ihrest]

theorem areNodesKnown_program (soft : Bool) : areNodesKnown soft template.program = true := by
  induction template generalizing soft with
  | text run => cases run <;> rfl
  | block run name body rest ihbody ihrest =>
      cases run <;> simp [program, runPart, areNodesKnown, Node.isKnown, Expr.isKnown, ihbody,
        ihrest]

/-- The program of a template shows what the values of its names leave. -/
theorem runNodes_program (strict : Bool) {vars : Variables} {holds : List Char → Bool}
    {f : List Char → List Char} (hbound : ∀ name ∈ template.names,
      vars.lookup (String.ofList (f name)) = some (.bool (holds name))) :
    runNodes strict (template.rename f).program vars
      = .done (String.ofList (template.output holds), vars) := by
  induction template with
  | text run => exact runNodes_run run
  | block run name body rest ihbody ihrest =>
      obtain ⟨hname, hbound⟩ := List.forall_mem_cons.mp hbound
      obtain ⟨hbody, hrest⟩ := List.forall_mem_append.mp hbound
      have hbranch := runNodes_cons (runNode_branch hname (ihbody hbody)) (ihrest hrest)
      have hout : String.ofList (if holds name then body.output holds else [])
          = if holds name then String.ofList (body.output holds) else "" := by
        split <;> rfl
      rw [output, String.ofList_append, String.ofList_append, hout]
      exact runNodes_runPart run hbranch

end Blocks

/-- What is spoilt splits into segments of which one cannot be read, if it splits at all. -/
theorem Spoilt.spoiled {text : List Char} (h : Spoilt usualNaming text) : Spoiled text := by
  induction h with
  | expression rest => exact segmentsFrom?_fused rest
  | char hc _ ih => exact .char hc ih
  | opened hname _ ih =>
      rw [Blocks.openTag_append]
      exact ih.statement rfl rfl (Blocks.hasWords_opened (isName_iff.mp hname.1) _)
  | closed _ ih => exact ih.statement rfl rfl (Blocks.hasWords_closed _)

section

attribute [local instance] usual

/-- **The usual language shows conditionals as documented.** -/
theorem usual_branches : Substrate.Branches usualNaming where
  shows template hplain hfuses holds hagree := by
    obtain ⟨segments, hsegments, behind, hcut, rfl⟩ :=
      Blocks.splits hplain (.inl rfl) hfuses follows_nil (template.source.length + 1) 1 (by
        rw [List.append_nil]
        exact Nat.lt_succ_self _)
    rw [List.append_nil] at hsegments
    have hnames (name : String) (hname : name ∈ namesIn segments) :
        name.toList ∈ template.names :=
      (hcut.mem_names name hname).elim id fun hnone => absurd hnone List.not_mem_nil
    have hkept : ∀ name ∈ (template.rename (replaced (namesIn segments))).names,
        name ∉ reservedNames := by
      rw [Blocks.names_rename]
      intro other hother
      obtain ⟨name, hname, rfl⟩ := List.mem_map.mp hother
      exact (hplain.isVariable _ (replaced_mem hnames hname).1).2
    have hparts := Blocks.hasParts hkept (hcut.rename (namesIn segments)) Reader.hasParts_nil
    rw [List.append_nil] at hparts
    refine ⟨_, build_of_parts (Blocks.notMem_source hplain) hsegments hparts
      (Blocks.areNodesKnown_program false), ?_⟩
    intro strict vars hvars
    have hbound (name : List Char) (hname : name ∈ template.names) :
        vars.lookup (String.ofList (replaced (namesIn segments) name))
          = some (.bool (holds name)) := by
      obtain ⟨hmem, hform⟩ := replaced_mem hnames hname
      rw [hvars _ hmem, hagree _ hmem _ hname hform]
    show (runNodes strict _ vars).bind _ = _
    rw [Blocks.runNodes_program strict hbound]
    rfl
  refuses text htext h := by
    have hread : Program.read? text = none :=
      read?_eq_none ((unifyLines_of_notMem htext).symm ▸ h.spoiled)
    show build (String.ofList text) = _
    rw [build, String.toList_ofList, hread]

end

end Stencil.Native
