import Stencil.Native.Alias
import Stencil.Native.Expression

/-! # Reading native templates — from segments of words to a program

    Operators bind in levels, from the conditional over `or`, `and`, `not`,
    comparisons, sums, joins, products and powers down to signs, members, calls,
    filters and tests.  Each level reads with the level below; what stands in
    brackets is read by the first level again, which a bound on the depth of
    brackets makes finite.  Statements nest the same way. -/

namespace Stencil.Native

/-- A reader takes words from the front. -/
abbrev Reader (α : Type) := List Word → Option (α × List Word)

namespace Reader

/-- What follows a given word. -/
def after? (word : Word) : List Word → Option (List Word)
  | [] => none
  | w :: words => if w == word then some words else none

/-- What follows a given mark. -/
def mark? (mark : String) (words : List Word) : Option (List Word) :=
  after? (.mark mark) words

/-- What follows a given name. -/
def word? (name : String) (words : List Word) : Option (List Word) :=
  after? (.name name) words

/-- Whether no word is left, or a closing parenthesis is next. -/
def atEnd : List Word → Bool
  | [] => true
  | word :: _ => word == .mark ")"

/-! ## Sequences -/

/-- One or more items with commas between them, and whether there was a comma; the last comma may
    stand before an end. -/
def itemsAndRest (item : Reader Expr) (isEnd : List Word → Bool) :
    Nat → Reader (List Expr × Bool)
  | 0, _ => none
  | fuel + 1, words => do
    let (e, rest) ← item words
    match mark? "," rest with
    | none => return (([e], false), rest)
    | some rest =>
      if isEnd rest then return (([e], true), rest)
      else
        let ((es, _), rest) ← itemsAndRest item isEnd fuel rest
        return ((e :: es, true), rest)

/-- An expression, or several with commas between them as a tuple; an empty tuple only inside
    parentheses. -/
def tupled (item : Reader Expr) (isEnd : List Word → Bool) (inParentheses : Bool) : Reader Expr :=
  fun words =>
    if isEnd words then if inParentheses then some (.tuple [], words) else none
    else do
      let ((es, isTuple), rest) ← itemsAndRest item isEnd (words.length + 1) words
      match isTuple, es with
      | false, [e] => return (e, rest)
      | _, _ => return (.tuple es, rest)

/-- Items up to a closing mark, with commas between them; a last comma may stand before the
    mark. -/
def listed {α : Type} (item : Reader α) (closer : String) : Nat → Reader (List α)
  | 0, _ => none
  | fuel + 1, words =>
    match mark? closer words with
    | some rest => some ([], rest)
    | none => do
      let (e, rest) ← item words
      match mark? closer rest with
      | some rest => return ([e], rest)
      | none =>
        let rest ← mark? "," rest
        let (es, rest) ← listed item closer fuel rest
        return (e :: es, rest)

/-- An entry of a map. -/
def entry (whole : Reader Expr) : Reader (Expr × Expr) :=
  fun words => do
    let (key, rest) ← whole words
    let rest ← mark? ":" rest
    let (value, rest) ← whole rest
    return ((key, value), rest)

/-- One argument of a call, with its name if it has one. -/
def argument (whole : Reader Expr) : Reader (Option String × Expr) :=
  fun words =>
    match words with
    | .name name :: .mark "=" :: rest => do
      let (e, rest) ← whole rest
      return ((some name, e), rest)
    | words => do
      let (e, rest) ← whole words
      return ((none, e), rest)

/-- The arguments of a call without and with names, in this order; nothing if one without a name
    follows one with a name. -/
def arranged? : List (Option String × Expr) → Option (List Expr × List (String × Expr))
  | [] => some ([], [])
  | (none, e) :: others => (arranged? others).map fun (plain, named) => (e :: plain, named)
  | (some name, e) :: others =>
    match arranged? others with
    | some ([], named) => some ([], (name, e) :: named)
    | _ => none

/-- The arguments of a call behind its opening parenthesis. -/
def arguments (whole : Reader Expr) : Reader (List Expr × List (String × Expr)) :=
  fun words => do
    let (found, rest) ← listed (argument whole) ")" (words.length + 1) words
    return (← arranged? found, rest)

/-! ## Operands -/

/-- The expression of a name: one of the constants, or a variable. -/
def named (name : String) : Expr :=
  if name == "true" || name == "True" then .const (.bool true)
  else if name == "false" || name == "False" then .const (.bool false)
  else if name == "none" || name == "None" then .const .null
  else .name name

/-- The texts at the front joined to one, and the rest. -/
def textsAndRest : List Word → String × List Word
  | .text s :: words =>
    let (more, rest) := textsAndRest words
    (s ++ more, rest)
  | words => ("", words)

/-- A name, a literal, or what stands in brackets. -/
def primary (whole : Reader Expr) : Reader Expr
  | [] => none
  | .name name :: rest => some (named name, rest)
  | .text s :: words =>
    let (joined, rest) := textsAndRest (.text s :: words)
    some (.const (.text joined), rest)
  | .int i :: rest => some (.const (.int i), rest)
  | .real x :: rest => some (.const (.real x), rest)
  | .mark mark :: words =>
    if mark == "(" then do
      let (e, rest) ← tupled whole atEnd true words
      return (e, ← mark? ")" rest)
    else if mark == "[" then do
      let (es, rest) ← listed whole "]" (words.length + 1) words
      return (.list es, rest)
    else if mark == "\x7b" then do
      let (entries, rest) ← listed (entry whole) "\x7d" (words.length + 1) words
      return (.map entries, rest)
    else none

/-- The member or item behind a subject, whose mark has been read. -/
def subscript (whole : Reader Expr) (subject : Expr) (mark : String) : Reader Expr :=
  fun words =>
    if mark == "." then
      match words with
      | .name name :: rest => some (.member subject name, rest)
      | .int i :: rest => some (.item subject (.const (.int i)), rest)
      | _ => none
    else do
      let (indices, rest) ← listed whole "]" (words.length + 1) words
      match indices with
      | [index] => return (.item subject index, rest)
      | _ => return (.item subject (.tuple indices), rest)

/-- The call of an expression. -/
def called (callee : Expr) (plain : List Expr) (named : List (String × Expr)) : Expr :=
  match callee, plain, named with
  | .member (.member subject "variables") "update", [entries], [] => .update subject entries
  | .member subject name, plain, [] => .invoke subject name plain
  | callee, plain, named => .call callee plain named

/-- Members, items and calls behind an expression. -/
def postfixed (whole : Reader Expr) : Nat → Expr → Reader Expr
  | 0, _, _ => none
  | fuel + 1, e, words =>
    match words with
    | .mark mark :: rest =>
      if mark == "." || mark == "[" then do
        let (e, rest) ← subscript whole e mark rest
        postfixed whole fuel e rest
      else if mark == "(" then do
        let ((plain, named), rest) ← arguments whole rest
        postfixed whole fuel (called e plain named) rest
      else some (e, words)
    | _ => some (e, words)

/-- A name with further names behind dots. -/
def dottedName : Nat → Reader String
  | 0, _ => none
  | fuel + 1, words =>
    match words with
    | .name name :: .mark "." :: rest => do
      let (more, rest) ← dottedName fuel rest
      return (name ++ "." ++ more, rest)
    | .name name :: rest => some (name, rest)
    | _ => none

/-- A filter behind an expression, whose mark has been read. -/
def filtered (whole : Reader Expr) (subject : Expr) : Reader Expr :=
  fun words => do
    let (name, rest) ← dottedName (words.length + 1) words
    match mark? "(" rest with
    | none => return (.filter subject name [] [], rest)
    | some rest =>
      let ((plain, named), rest) ← arguments whole rest
      return (.filter subject name plain named, rest)

/-- Whether the next word begins the argument of a test that stands without parentheses. -/
def beginsArgument : List Word → Bool
  | [] => false
  | .name name :: _ => !(["else", "or", "and"].contains name)
  | .mark mark :: _ => mark == "[" || mark == "\x7b"
  | _ :: _ => true

/-- A test behind an expression, whose first word has been read. -/
def tested (whole : Reader Expr) (subject : Expr) : Reader Expr :=
  fun words => do
    let (turned, words) :=
      match word? "not" words with
      | some rest => (true, rest)
      | none => (false, words)
    let turn (e : Expr) : Expr := if turned then .negation e else e
    let (name, rest) ← dottedName (words.length + 1) words
    match mark? "(" rest with
    | some rest =>
      let ((plain, _), rest) ← arguments whole rest
      return (turn (.test subject name plain), rest)
    | none =>
      if beginsArgument rest then
        if (word? "is" rest).isSome then none
        else
          let (e, rest) ← primary whole rest
          let (e, rest) ← postfixed whole (rest.length + 1) e rest
          return (turn (.test subject name [e]), rest)
      else return (turn (.test subject name []), rest)

/-- Filters, tests and calls behind an expression. -/
def refined (whole : Reader Expr) : Nat → Expr → Reader Expr
  | 0, _, _ => none
  | fuel + 1, e, words =>
    match words with
    | .mark mark :: rest =>
      if mark == "|" then do
        let (e, rest) ← filtered whole e rest
        refined whole fuel e rest
      else if mark == "(" then do
        let ((plain, named), rest) ← arguments whole rest
        refined whole fuel (called e plain named) rest
      else some (e, words)
    | .name name :: rest =>
      if name == "is" then do
        let (e, rest) ← tested whole e rest
        refined whole fuel e rest
      else some (e, words)
    | _ => some (e, words)

/-- Signs before an operand with what is behind it. -/
def unary (whole : Reader Expr) : Nat → Reader Expr
  | 0, _ => none
  | fuel + 1, words => do
    let (e, rest) ←
      match mark? "-" words, mark? "+" words with
      | some rest, _ => (unary whole fuel rest).map fun (e, rest) => (Expr.signed true e, rest)
      | none, some rest => (unary whole fuel rest).map fun (e, rest) => (Expr.signed false e, rest)
      | none, none => primary whole words
    postfixed whole (rest.length + 1) e rest

/-- An operand with its signs, filters and tests. -/
def operand (whole : Reader Expr) : Reader Expr :=
  fun words => do
    let (e, rest) ← unary whole (words.length + 1) words
    refined whole (rest.length + 1) e rest

/-! ## Levels -/

/-- Operands joined from the left by the operators of one level. -/
def joined (next : Reader Expr) (operator? : Word → Option Value.Operator) :
    Nat → Expr → Reader Expr
  | 0, _, _ => none
  | _, left, [] => some (left, [])
  | fuel + 1, left, word :: words =>
    match operator? word with
    | none => some (left, word :: words)
    | some op => do
      let (right, rest) ← next words
      joined next operator? fuel (.binary op left right) rest

/-- One level of operators over the next one. -/
def level (next : Reader Expr) (operator? : Word → Option Value.Operator) : Reader Expr :=
  fun words => do
    let (left, rest) ← next words
    joined next operator? (rest.length + 1) left rest

/-- The operator of a word in a table. -/
def operatorOf? (table : List (String × Value.Operator)) (word : Word) : Option Value.Operator :=
  match word with
  | .mark mark => table.lookup mark
  | _ => none

/-- Powers. -/
def power (whole : Reader Expr) : Reader Expr :=
  level (operand whole) (operatorOf? [("**", .pow)])

/-- Products. -/
def product (whole : Reader Expr) : Reader Expr :=
  level (power whole) (operatorOf? [("*", .mul), ("/", .div), ("//", .floorDiv), ("%", .mod)])

/-- The further parts of a join. -/
def partsAndRest (next : Reader Expr) : Nat → Reader (List Expr)
  | 0, _ => none
  | fuel + 1, words =>
    match mark? "~" words with
    | none => some ([], words)
    | some rest => do
      let (e, rest) ← next rest
      let (es, rest) ← partsAndRest next fuel rest
      return (e :: es, rest)

/-- Joins of texts. -/
def concatenation (whole : Reader Expr) : Reader Expr :=
  fun words => do
    let (e, rest) ← product whole words
    let (es, rest) ← partsAndRest (product whole) (rest.length + 1) rest
    return (if es.isEmpty then e else .concat (e :: es), rest)

/-- Sums. -/
def sum (whole : Reader Expr) : Reader Expr :=
  level (concatenation whole) (operatorOf? [("+", .add), ("-", .sub)])

/-- The comparison at the front, and the rest. -/
def comparison? : List Word → Option (Comparison × List Word)
  | .mark mark :: rest =>
    let table : List (String × Comparison) :=
      [("==", .same), ("!=", .different), ("<", .ordered .less), ("<=", .ordered .lessOrSame),
        (">", .ordered .greater), (">=", .ordered .greaterOrSame)]
    (table.lookup mark).map fun comparison => (comparison, rest)
  | .name "in" :: rest => some (.inside, rest)
  | .name "not" :: .name "in" :: rest => some (.outside, rest)
  | _ => none

/-- The further links of a chain of comparisons. -/
def linksAndRest (next : Reader Expr) : Nat → Reader (List (Comparison × Expr))
  | 0, _ => none
  | fuel + 1, words =>
    match comparison? words with
    | none => some ([], words)
    | some (comparison, rest) => do
      let (e, rest) ← next rest
      let (links, rest) ← linksAndRest next fuel rest
      return ((comparison, e) :: links, rest)

/-- Chains of comparisons. -/
def compared (whole : Reader Expr) : Reader Expr :=
  fun words => do
    let (first, rest) ← sum whole words
    let (links, rest) ← linksAndRest (sum whole) (rest.length + 1) rest
    return (if links.isEmpty then first else .chain first links, rest)

/-- Negations. -/
def negated (whole : Reader Expr) : Nat → Reader Expr
  | 0, _ => none
  | fuel + 1, words =>
    match word? "not" words with
    | some rest => (negated whole fuel rest).map fun (e, rest) => (.negation e, rest)
    | none => compared whole words

/-- Operands joined from the left by one word. -/
def linked (next : Reader Expr) (name : String) (make : Expr → Expr → Expr) :
    Nat → Expr → Reader Expr
  | 0, _, _ => none
  | fuel + 1, left, words =>
    match word? name words with
    | none => some (left, words)
    | some rest => do
      let (right, rest) ← next rest
      linked next name make fuel (make left right) rest

/-- Conjunctions. -/
def conjunction (whole : Reader Expr) : Reader Expr :=
  fun words => do
    let next : Reader Expr := fun words => negated whole (words.length + 1) words
    let (left, rest) ← next words
    linked next "and" .both (rest.length + 1) left rest

/-- Disjunctions. -/
def disjunction (whole : Reader Expr) : Reader Expr :=
  fun words => do
    let (left, rest) ← conjunction whole words
    linked (conjunction whole) "or" .either (rest.length + 1) left rest

/-- Conditionals behind an expression. -/
def conditional (whole : Reader Expr) (line : Nat) : Nat → Expr → Reader Expr
  | 0, _, _ => none
  | fuel + 1, yes, words =>
    match word? "if" words with
    | none => some (yes, words)
    | some rest => do
      let (condition, rest) ← disjunction whole rest
      match word? "else" rest with
      | none => conditional whole line fuel (.guarded condition yes line) rest
      | some rest =>
        let (no, rest) ← whole rest
        conditional whole line fuel (.choice condition yes no) rest

/-- An expression in a tag that begins in a line; the first argument bounds the depth of its
    brackets. -/
def expression (line : Nat) : Nat → Reader Expr
  | 0, _ => none
  | depth + 1, words => do
    let (yes, rest) ← disjunction (expression line depth) words
    conditional (expression line depth) line (rest.length + 1) yes rest

/-- The reader of whole expressions for a tag's words. -/
def whole (line : Nat) (words : List Word) : Reader Expr :=
  expression line (words.length + 1)

/-- The expression that all the words of a tag are. -/
def output? (words : List Word) (line : Nat) : Option Expr :=
  match tupled (whole line words) atEnd false words with
  | some (e, []) => some e
  | _ => none

/-- An expression without a conditional on top, or a tuple of such. -/
def condition (line : Nat) : Reader Expr :=
  fun words => tupled (disjunction (whole line words)) atEnd false words

/-! ## Targets -/

mutual

/-- The target that an expression names. -/
def targetOf? : Expr → Option Target
  | .name name => some (.one name)
  | .tuple es => (targetsOf? es).map .several
  | _ => none

/-- The targets that expressions name. -/
def targetsOf? : List Expr → Option (List Target)
  | [] => some []
  | e :: es =>
    match targetOf? e, targetsOf? es with
    | some target, some targets => some (target :: targets)
    | _, _ => none

end

/-- The target at the front, up to a word that ends it. -/
def target (line : Nat) (isEnd : List Word → Bool) : Reader Target :=
  fun words => do
    let (e, rest) ← tupled (primary (whole line words)) isEnd false words
    return (← targetOf? e, rest)

/-! ## Statements -/

/-- The condition of a branch, which a colon may follow. -/
def branchCondition? (words : List Word) (line : Nat) : Option Expr :=
  match condition line words with
  | some (e, []) => some e
  | some (e, [.mark ":"]) => some e
  | _ => none

/-- The head of a loop: its target, its items and its test. -/
def loopHead? (words : List Word) (line : Nat) : Option (Target × Expr × Option Expr) := do
  let isIn (words : List Word) : Bool := atEnd words || (word? "in" words).isSome
  let (target, rest) ← target line isIn words
  let rest ← word? "in" rest
  let (items, rest) ← condition line rest
  match rest with
  | [] => return (target, items, none)
  | [.mark ":"] => return (target, items, none)
  | .name "if" :: rest =>
    match whole line rest rest with
    | some (test, []) => return (target, items, some test)
    | some (test, [.mark ":"]) => return (target, items, some test)
    | _ => none
  | _ => none

/-- The target and the expression of an assignment. -/
def assignment? (words : List Word) (line : Nat) : Option (Target × Expr) := do
  let (target, rest) ← target line atEnd words
  let rest ← mark? "=" rest
  return (target, ← output? rest line)

/-- Whether a statement is one of the given words alone, which a colon may follow. -/
def isLone (name : String) (words : List Word) : Bool :=
  words == [.name name] || words == [.name name, .mark ":"]

/-- How the parts before an ending statement end. -/
inductive Ending where
  | finished
  | closed (words : List Word) (line : Nat)
deriving Repr

/-- The words that end the parts inside a statement. -/
def endingWords : List String := ["elif", "else", "endif", "endfor"]

/-- Parts up to the end or to an ending statement, how they end, and what follows. -/
abbrev Parts := List Node × Ending × List Segment

/-- The parts of a conditional behind its condition. -/
def branchParts (body : List Segment → Option Parts) (condition : Expr) :
    Nat → List Segment → Option (Node × List Segment)
  | 0, _ => none
  | fuel + 1, segments => do
    let (yes, ending, rest) ← body segments
    match ending with
    | .finished => none
    | .closed [.name "endif"] _ => return (.branch condition yes [], rest)
    | .closed (.name "elif" :: words) line =>
      let next ← branchCondition? words line
      let (node, rest) ← branchParts body next fuel rest
      return (.branch condition yes [node], rest)
    | .closed words _ =>
      if isLone "else" words then
        let (no, ending, rest) ← body rest
        match ending with
        | .closed [.name "endif"] _ => return (.branch condition yes no, rest)
        | _ => none
      else none

/-- The parts of a loop behind its head. -/
def loopParts (body : List Segment → Option Parts) (head : Target × Expr × Option Expr)
    (segments : List Segment) : Option (Node × List Segment) := do
  let (target, items, test) := head
  let (inside, ending, rest) ← body segments
  match ending with
  | .finished => none
  | .closed [.name "endfor"] _ => return (.loop target items test inside [], rest)
  | .closed words _ =>
    if isLone "else" words then
      let (otherwise, ending, rest) ← body rest
      match ending with
      | .closed [.name "endfor"] _ => return (.loop target items test inside otherwise, rest)
      | _ => none
    else none

/-- A statement that does not end others, and what follows it. -/
def statement (body : List Segment → Option Parts) (words : List Word) (line : Nat)
    (segments : List Segment) : Option (Node × List Segment) :=
  match words with
  | .name "if" :: words => do
    branchParts body (← branchCondition? words line) (segments.length + 1) segments
  | .name "for" :: words => do loopParts body (← loopHead? words line) segments
  | .name "set" :: words => do
    let (target, e) ← assignment? words line
    return (.assign target e, segments)
  | _ => none

/-- Whether a statement ends others. -/
def isEnding : List Word → Bool
  | .name name :: _ => endingWords.contains name
  | _ => false

/-- The parts at the front of segments; the first argument bounds the number of steps. -/
def parts : Nat → List Segment → Option Parts
  | 0, _ => none
  | _, [] => some ([], .finished, [])
  | fuel + 1, segment :: segments => do
    match segment with
    | .text run =>
      let (nodes, ending, rest) ← parts fuel segments
      return (.text (String.ofList run) :: nodes, ending, rest)
    | .expression words line =>
      let e ← output? words line
      let (nodes, ending, rest) ← parts fuel segments
      return (.output e :: nodes, ending, rest)
    | .statement words line =>
      if isEnding words then return ([], .closed words line, segments)
      else
        let (node, rest) ← statement (parts fuel) words line segments
        let (nodes, ending, rest) ← parts fuel rest
        return (node :: nodes, ending, rest)

end Reader

/-- The program that a native template is. -/
def Program.read? (source : List Char) : Option Program := do
  let segments := unified (← segments? source)
  match Reader.parts (segments.length + 1) segments with
  | some (nodes, .finished, _) => return nodes
  | _ => none

end Stencil.Native
