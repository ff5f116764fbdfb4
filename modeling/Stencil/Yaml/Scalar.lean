import Stencil.Number.Digits
import Stencil.Text.Pieces

/-! # Scalars — texts as a YAML document writes them

    A text stands in quotes, with its line ends folded; as a block of indented
    lines, literal or folded; or plain, up to a colon or a comment.  A folded
    line end is a space, and each further empty line a line feed. -/

namespace Stencil.Yaml

open Stencil.Text

/-- A space or a tabulator. -/
def isGap (c : Char) : Bool :=
  c == ' ' || c == '\t'

/-- Whether what comes next is a gap, a line end or the end. -/
def endsWord : List Char → Bool
  | [] => true
  | c :: _ => isGap c || c == '\n'

/-- Whether a line is the mark before or after a document. -/
def isMarker (line : List Char) : Bool :=
  ["---", "..."].any fun marker =>
    match rest? marker.toList line with
    | some rest => endsWord rest
    | none => false

/-- What a folded line end with some empty lines behind it stands for. -/
def folded (emptyLines : Nat) : List Char :=
  if emptyLines == 0 then [' '] else List.replicate emptyLines '\n'

/-! ## Quoted texts -/

/-- The number of empty lines at the start of a text, and what is behind them and the gap of the
    next line; nothing if a document's mark comes first. -/
def emptyLines? : Nat → List Char → Option (Nat × List Char)
  | 0, _ => none
  | fuel + 1, cs =>
    if isMarker cs then none
    else
      match cs.dropWhile isGap with
      | '\n' :: rest => (emptyLines? fuel rest).map fun (n, rest) => (n + 1, rest)
      | rest => some (0, rest)

/-- The character of hexadecimal digits. -/
def numbered? (digits : List Char) : Option Char := do
  let code ← Digits.number? 16 digits
  if code.isValidChar then some (Char.ofNat code) else none

/-- The character that a letter behind a backslash stands for. -/
def escapeOf? (c : Char) : Option Char :=
  match c with
  | '0' => some '\x00'
  | 'a' => some '\x07'
  | 'b' => some '\x08'
  | 't' => some '\t'
  | '\t' => some '\t'
  | 'n' => some '\n'
  | 'v' => some '\x0b'
  | 'f' => some '\x0c'
  | 'r' => some '\r'
  | 'e' => some '\x1b'
  | ' ' => some ' '
  | '"' => some '"'
  | '/' => some '/'
  | '\\' => some '\\'
  | 'N' => some '\u0085'
  | '_' => some '\u00a0'
  | 'L' => some '\u2028'
  | 'P' => some '\u2029'
  | _ => none

/-- The character that an escape stands for, and what follows the escape. -/
def escape? : List Char → Option (Char × List Char)
  | [] => none
  | c :: cs =>
    let width := if c == 'x' then 2 else if c == 'u' then 4 else if c == 'U' then 8 else 0
    if width == 0 then (escapeOf? c).map fun one => (one, cs)
    else if cs.length < width then none
    else (numbered? (cs.take width)).map fun one => (one, cs.drop width)

/-- A gap inside quotes as it is read, and the rest: a line end in it is folded. -/
def quotedGap? (cs : List Char) : Option (List Char × List Char) :=
  match cs.dropWhile isGap with
  | '\n' :: rest => do
    let (n, rest) ← emptyLines? (rest.length + 1) rest
    return (folded n, rest)
  | rest => some (cs.takeWhile isGap, rest)

/-- The text up to a closing quote, and what follows the quote; `fuel` bounds the number of
    steps. -/
def quotedFrom? (quote : Char) : Nat → List Char → Option (List Char × List Char)
  | 0, _ => none
  | _, [] => none
  | fuel + 1, c :: cs =>
    let continued (start rest : List Char) : Option (List Char × List Char) :=
      (quotedFrom? quote fuel rest).map fun (text, rest) => (start ++ text, rest)
    if c == quote then
      match cs with
      | '\'' :: rest => if quote == '\'' then continued ['\''] rest else some ([], cs)
      | _ => some ([], cs)
    else if c == '\\' && quote == '"' then
      match cs with
      | '\n' :: rest => do
        let (n, rest) ← emptyLines? (rest.length + 1) rest
        continued (List.replicate n '\n') rest
      | _ => do
        let (one, rest) ← escape? cs
        continued [one] rest
    else if isGap c || c == '\n' then do
      let (gap, rest) ← quotedGap? (c :: cs)
      continued gap rest
    else continued [c] cs

/-- The text up to a closing quote, and what follows the quote. -/
def quoted? (quote : Char) (cs : List Char) : Option (List Char × List Char) :=
  quotedFrom? quote (cs.length + 1) cs

/-! ## Plain texts -/

/-- The marks of collections written in brackets. -/
def flowMarks : List Char := [',', '[', ']', '\x7b', '\x7d']

/-- Whether a plain text ends before a character. -/
def endsPlain (inFlow : Bool) (c : Char) (rest : List Char) : Bool :=
  isGap c || c == '\n' || (c == ':' && endsWord rest) || (inFlow && flowMarks.contains c)

/-- The other characters with which no plain text starts. -/
def startMarks : List Char :=
  ['#', '&', '*', '!', '|', '>', '\'', '"', '%', '@', '\x60', ' ', '\t', '\n']

/-- Whether a plain text can start with a character. -/
def startsPlain (inFlow : Bool) (c : Char) (rest : List Char) : Bool :=
  if c == '-' then !endsWord rest
  else if c == '?' then !inFlow && !endsWord rest
  else if c == ':' then !endsWord rest
  else !(flowMarks.contains c || startMarks.contains c)

/-- The characters of a plain text up to a gap or its end, and the rest. -/
def plainRun (inFlow : Bool) : List Char → List Char × List Char
  | [] => ([], [])
  | c :: cs =>
    if endsPlain inFlow c cs then ([], c :: cs)
    else
      let (run, rest) := plainRun inFlow cs
      (c :: run, rest)

/-- The empty lines inside a plain text, the column of the next one, and the rest; nothing if a
    document's mark comes first. -/
def plainLines? : Nat → List Char → Option (Nat × Nat × List Char)
  | 0, _ => none
  | fuel + 1, cs =>
    if isMarker cs then none
    else
      match cs.dropWhile (· == ' ') with
      | '\n' :: rest => (plainLines? fuel rest).map fun (n, column, rest) => (n + 1, column, rest)
      | rest => some (0, cs.length - rest.length, rest)

/-- The gap after a part of a plain text, as it is read if the text goes on; nothing if the text
    ends there, which it does before a comment and before a line that is not indented enough. -/
def plainGap? (inFlow : Bool) (indent : Int) (cs : List Char) : Option (List Char × List Char) :=
  match cs.dropWhile (· == ' ') with
  | '\n' :: rest =>
    match plainLines? (rest.length + 1) rest with
    | none => none
    | some (n, column, rest) =>
      if rest.head? == some '#' || (!inFlow && (column : Int) < indent) then none
      else some (folded n, rest)
  | rest =>
    let gap := cs.takeWhile (· == ' ')
    if gap.isEmpty || rest.head? == some '#' then none else some (gap, rest)

/-- A plain text whose further lines are indented at least so far, and the rest; `fuel` bounds the
    number of its parts. -/
def plainFrom (inFlow : Bool) (indent : Int) : Nat → List Char → List Char × List Char
  | 0, cs => ([], cs)
  | fuel + 1, cs =>
    match plainRun inFlow cs with
    | ([], rest) => ([], rest)
    | (run, rest) =>
      match plainGap? inFlow indent rest with
      | none => (run, rest)
      | some (gap, next) =>
        match plainFrom inFlow indent fuel next with
        | ([], _) => (run, rest)
        | (more, rest) => (run ++ gap ++ more, rest)

/-- A plain text, and the rest. -/
def plain (inFlow : Bool) (indent : Int) (cs : List Char) : List Char × List Char :=
  plainFrom inFlow indent (cs.length + 1) cs

/-! ## Blocks of lines -/

/-- What becomes of the line ends at the end of a block. -/
inductive Chomping where
  | strip
  | clip
  | keep
deriving DecidableEq, Repr

/-- The indicators behind a block's mark, and the rest. -/
def indicators : Nat → Chomping × Option Nat → List Char → (Chomping × Option Nat) × List Char
  | 0, found, cs => (found, cs)
  | fuel + 1, (chomping, width), cs =>
    match cs with
    | '+' :: rest => indicators fuel (.keep, width) rest
    | '-' :: rest => indicators fuel (.strip, width) rest
    | c :: rest =>
      if c.isDigit && c != '0' then indicators fuel (chomping, some (c.toNat - 48)) rest
      else ((chomping, width), cs)
    | [] => ((chomping, width), cs)

/-- What follows the line of a block's mark, which holds nothing more but a comment. -/
def afterHeader? (cs : List Char) : Option (List Char) :=
  match cs.dropWhile (· == ' ') with
  | [] => some []
  | '\n' :: rest => some rest
  | '#' :: rest => some ((rest.dropWhile (· != '\n')).drop 1)
  | _ => none

/-- The empty lines before a block, the greatest column reached in them and in the next line, the
    column of the next line, and the rest. -/
def blockLead (column greatest lines : Nat) : List Char → Nat × Nat × Nat × List Char
  | ' ' :: cs => blockLead (column + 1) (max greatest (column + 1)) lines cs
  | '\n' :: cs => blockLead 0 greatest (lines + 1) cs
  | cs => (lines, greatest, column, cs)

/-- The empty lines inside a block of an indentation, the column of the next line, and the rest. -/
def blockGap (indent column lines : Nat) : List Char → Nat × Nat × List Char
  | ' ' :: cs =>
    if column < indent then blockGap indent (column + 1) lines cs else (lines, column, ' ' :: cs)
  | '\n' :: cs => blockGap indent 0 (lines + 1) cs
  | cs => (lines, column, cs)

/-- Whether a line of a block begins with a gap. -/
def beginsGap : List Char → Bool
  | c :: _ => isGap c
  | [] => false

/-- The lines of a block from one on, before which there are some empty ones, and the rest; `fuel`
    bounds the number of lines. -/
def blockLines (isFolded : Bool) (chomping : Chomping) (indent : Nat) :
    Nat → Nat → List Char → List Char × List Char
  | 0, _, cs => ([], cs)
  | fuel + 1, lines, cs =>
    let line := cs.takeWhile (· != '\n')
    let rest := cs.drop line.length
    let lineEnd := rest.take 1
    let (next, column, rest) := blockGap indent 0 0 (rest.drop 1)
    let start := List.replicate lines '\n' ++ line
    if column == indent && !rest.isEmpty && !(indent == 0 && isMarker rest) then
      let (more, rest') := blockLines isFolded chomping indent fuel next rest
      let joint :=
        if isFolded && !beginsGap cs && !beginsGap rest then if next == 0 then [' '] else []
        else lineEnd
      (start ++ joint ++ more, rest')
    else
      let tail :=
        match chomping with
        | .strip => []
        | .clip => lineEnd
        | .keep => lineEnd ++ List.replicate next '\n'
      (start ++ tail, rest)

/-- The text of a block behind its mark inside an indentation, and the rest. -/
def block? (isFolded : Bool) (parent : Int) (cs : List Char) : Option (List Char × List Char) := do
  let ((chomping, width), rest) := indicators 2 (.clip, none) cs
  let rest ← afterHeader? rest
  let least := (parent + 1).toNat
  let (lines, column, indent, rest) :=
    match width with
    | some width =>
      let indent := max least 1 + width - 1
      let (lines, column, rest) := blockGap indent 0 0 rest
      (lines, column, indent, rest)
    | none =>
      let (lines, greatest, column, rest) := blockLead 0 0 0 rest
      (lines, column, max least greatest, rest)
  if column == indent && !rest.isEmpty && !(indent == 0 && isMarker rest) then
    return blockLines isFolded chomping indent (rest.length + 1) lines rest
  else return (if chomping == .keep then List.replicate lines '\n' else [], rest)

end Stencil.Yaml
