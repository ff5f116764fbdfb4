import Stencil.Number.Numeral
import Stencil.Text.Pieces
import Stencil.Text.Place
import Stencil.Text.Quoted

/-! # Segments — a native template split into text and tags of words

    The leftmost of the three delimiters of expressions, statements and comments
    opens a tag.  A tag of expressions or statements holds words up to its own
    end outside brackets; a comment and a raw block hold anything up to their
    end.  A minus at a tag's edge takes the blanks of the text beside it. -/

namespace Stencil.Native

open Stencil.Text

/-- A word of an expression. -/
inductive Word where
  | name (name : String)
  | text (s : String)
  | int (i : Int)
  | real (x : Binary64)
  | mark (mark : String)
deriving DecidableEq, Repr

/-- A segment of a template: text, or the words of a tag with the line it starts in. -/
inductive Segment where
  | text (run : List Char)
  | expression (words : List Word) (line : Nat)
  | statement (words : List Word) (line : Nat)
deriving DecidableEq, Repr

/-! ## Text literals -/

/-- The character of a text literal written with ASCII characters alone. -/
def asciiForm (c : Char) : List Char :=
  if c.toNat < 0x80 then [c]
  else if c.toNat < 0x100 then '\\' :: 'x' :: hexDigits 2 c.toNat
  else if c.toNat < 0x10000 then '\\' :: 'u' :: hexDigits 4 c.toNat
  else '\\' :: 'U' :: hexDigits 8 c.toNat

/-- The character of a code point. -/
def charOf? (code : Nat) : Option Char :=
  if code.isValidChar then some (Char.ofNat code) else none

/-- The character that one letter behind a backslash stands for. -/
def escapeOf? (c : Char) : Option (List Char) :=
  match c with
  | '\n' => some []
  | '\\' => some ['\\']
  | '\'' => some ['\'']
  | '"' => some ['"']
  | 'a' => some ['\x07']
  | 'b' => some ['\x08']
  | 'f' => some ['\x0c']
  | 'n' => some ['\n']
  | 'r' => some ['\r']
  | 't' => some ['\t']
  | 'v' => some ['\x0b']
  | _ => none

/-- The text that a literal without its quotes stands for, where `skip` more characters belong to
    the escape just read. -/
def unescapeFrom? : Nat → List Char → Option (List Char)
  | _, [] => some []
  | skip + 1, _ :: cs => unescapeFrom? skip cs
  | 0, c :: cs =>
    if c != '\\' then (unescapeFrom? 0 cs).map (c :: ·)
    else
      let numbered (count : Nat) : Option (List Char) := do
        let digits := (cs.drop 1).take count
        if digits.length < count then none
        else
          let one ← charOf? (← Digits.number? 16 digits)
          return one :: (← unescapeFrom? (count + 1) cs)
      match cs.head? with
      | none => none
      | some 'x' => numbered 2
      | some 'u' => numbered 4
      | some 'U' => numbered 8
      | some 'N' => none
      | some d =>
        if Digits.isDigitTo 8 d then do
          let digits := (cs.take 3).takeWhile (Digits.isDigitTo 8)
          let one ← charOf? (← Digits.number? 8 digits)
          return one :: (← unescapeFrom? digits.length cs)
        else
          match escapeOf? d with
          | some chars => (unescapeFrom? 1 cs).map (chars ++ ·)
          | none => (unescapeFrom? 0 cs).map (c :: ·)

/-- The text that a literal without its quotes stands for. -/
def unescape? (literal : List Char) : Option (List Char) :=
  unescapeFrom? 0 (literal.flatMap asciiForm)

/-- The literal up to its closing quote, and what follows the quote. -/
def literalAndRest? (quote : Char) : List Char → Option (List Char × List Char)
  | [] => none
  | '\\' :: c :: cs =>
    (literalAndRest? quote cs).map fun (literal, rest) => ('\\' :: c :: literal, rest)
  | c :: cs =>
    if c == quote then some ([], cs)
    else if c == '\\' then none
    else (literalAndRest? quote cs).map fun (literal, rest) => (c :: literal, rest)

/-! ## Numbers -/

/-- The ASCII digits at the start of a text, single underscores between them left out, and the
    rest. -/
def digitsAndRest (isDigit : Char → Bool) : List Char → List Char × List Char
  | [] => ([], [])
  | '_' :: c :: cs =>
    if isDigit c then
      let (digits, rest) := digitsAndRest isDigit cs
      (c :: digits, rest)
    else ([], '_' :: c :: cs)
  | c :: cs =>
    if isDigit c then
      let (digits, rest) := digitsAndRest isDigit cs
      (c :: digits, rest)
    else ([], c :: cs)

/-- The exponent with which a text begins, and the rest. -/
def exponentAndRest? (cs : List Char) : Option (Int × List Char) :=
  match cs with
  | e :: ds =>
    if e == 'e' || e == 'E' then
      let (negative, ds) := Numeral.signAndRest ds
      match ds with
      | d :: _ =>
        if d.isDigit then
          let (digits, rest) := digitsAndRest Char.isDigit ds
          some (if negative then -(Digits.decimal digits : Int) else Digits.decimal digits, rest)
        else none
      | [] => none
    else none
  | [] => none

/-- The floating-point number with which a text begins, and the rest. -/
def realAndRest? (cs : List Char) : Option (Word × List Char) :=
  let (whole, rest) := digitsAndRest Char.isDigit cs
  let (places, rest') :=
    match rest with
    | '.' :: d :: ds =>
      if d.isDigit then digitsAndRest Char.isDigit (d :: ds) else ([], rest)
    | _ => ([], rest)
  let number (exponent : Int) : Word :=
    .real (Numeral.nearest false (Digits.decimal (whole ++ places)) (exponent - places.length))
  match exponentAndRest? rest' with
  | some (exponent, rest) => some (number exponent, rest)
  | none => if places.isEmpty then none else some (number 0, rest')

/-- The digits of a number to a base behind `0` and a letter. -/
def basedAndRest? (base : Nat) (cs : List Char) : Option (Word × List Char) :=
  match digitsAndRest (Digits.isDigitTo base) cs with
  | ([], _) => none
  | (digits, rest) => (Digits.number? base digits).map fun n => (.int n, rest)

/-- The integer with which a text begins, and the rest; a decimal one has no zero in front. -/
def intAndRest? (cs : List Char) : Option (Word × List Char) :=
  let plain : Option (Word × List Char) :=
    match cs with
    | '0' :: _ =>
      let (_, rest) := digitsAndRest (· == '0') cs
      some (.int 0, rest)
    | _ =>
      let (digits, rest) := digitsAndRest Char.isDigit cs
      if digits.isEmpty then none else some (.int (Digits.decimal digits), rest)
  let based : Option (Word × List Char) :=
    match cs with
    | '0' :: letter :: ds =>
      if letter == 'b' || letter == 'B' then basedAndRest? 2 ds
      else if letter == 'o' || letter == 'O' then basedAndRest? 8 ds
      else if letter == 'x' || letter == 'X' then basedAndRest? 16 ds
      else none
    | _ => none
  match based with
  | some found => some found
  | none => plain

/-! ## Words -/

/-- The marks of two characters. -/
def doubleMarks : List String := ["//", "**", "==", "!=", ">=", "<="]

/-- The marks of one character. -/
def singleMarks : List Char :=
  ['+', '-', '/', '*', '%', '~', '[', ']', '(', ')', '\x7b', '\x7d', '>', '<', '=', '.', ':', '|',
    ',', ';']

/-- The mark with which a text begins, and the rest. -/
def markAndRest? : List Char → Option (Word × List Char)
  | [] => none
  | [c] => if singleMarks.contains c then some (.mark (String.singleton c), []) else none
  | c :: d :: cs =>
    let double := String.ofList [c, d]
    if doubleMarks.contains double then some (.mark double, cs)
    else if singleMarks.contains c then some (.mark (String.singleton c), d :: cs)
    else none

/-- The name with which a text begins, and the rest. -/
def nameAndRest? (cs : List Char) : Option (Word × List Char) :=
  let word := cs.takeWhile isWord
  if isVariableName word then some (.name (String.ofList word), cs.dropWhile isWord) else none

/-- The word with which a text begins, and the rest; behind a point no floating-point number
    begins. -/
def wordAndRest? (afterPoint : Bool) (cs : List Char) : Option (Word × List Char) :=
  match cs with
  | [] => none
  | c :: ds =>
    if c == '"' || c == '\'' then do
      let (literal, rest) ← literalAndRest? c ds
      return (.text (String.ofList (← unescape? literal)), rest)
    else if c.isDigit then
      match (if afterPoint then none else realAndRest? cs) with
      | some found => some found
      | none => intAndRest? cs
    else if isWord c then nameAndRest? cs
    else markAndRest? cs

/-- The bracket that closes an opening one. -/
def closerOf? (mark : String) : Option String :=
  [("(", ")"), ("[", "]"), ("\x7b", "\x7d")].lookup mark

/-- The brackets still to be closed after one more word; nothing if the word closes the wrong
    one. -/
def bracketsAfter? (brackets : List String) (word : Word) : Option (List String) :=
  match word with
  | .mark mark =>
    match closerOf? mark with
    | some closer => some (closer :: brackets)
    | none =>
      if mark == ")" || mark == "]" || mark == "\x7d" then
        match brackets with
        | expected :: outer => if expected == mark then some outer else none
        | [] => none
      else some brackets
  | _ => some brackets

/-- The ends of a tag: each mark, and whether it takes the blanks behind it. -/
abbrev Ends := List (List Char × Bool)

/-- The ends of an expression tag. -/
def expressionEnds : Ends :=
  [(['-', '\x7d', '\x7d'], true), (['\x7d', '\x7d'], false)]

/-- The ends of a statement tag. -/
def statementEnds : Ends :=
  [(['+', '%', '\x7d'], false), (['-', '%', '\x7d'], true), (['%', '\x7d'], false)]

/-- The ends of a comment. -/
def commentEnds : Ends :=
  [(['+', '#', '\x7d'], false), (['-', '#', '\x7d'], true), (['#', '\x7d'], false)]

/-- What follows the end with which a text begins. -/
def restAfterEnd? (ends : Ends) (cs : List Char) : Option (List Char) :=
  ends.findSome? fun (mark, takes) =>
    (rest? mark cs).map fun rest => if takes then stripStart rest else rest

/-- The words of a tag up to its end, and what follows it; `fuel` bounds the number of steps. -/
def wordsAndRest? (ends : Ends) :
    Nat → List String → Bool → List Char → Option (List Word × List Char)
  | 0, _, _, _ => none
  | fuel + 1, brackets, afterPoint, cs =>
    match (if brackets.isEmpty then restAfterEnd? ends cs else none) with
    | some rest => some ([], rest)
    | none =>
      match cs with
      | [] => none
      | c :: ds =>
        if isBlank c then wordsAndRest? ends fuel brackets false ds
        else do
          let (word, rest) ← wordAndRest? afterPoint cs
          let brackets ← bracketsAfter? brackets word
          let (words, rest) ← wordsAndRest? ends fuel brackets (word == .mark ".") rest
          return (word :: words, rest)

/-! ## Segments -/

/-- The text up to the first place where an end begins, and what follows the end. -/
def untilEnd? (ends : Ends) : List Char → Option (List Char × List Char)
  | [] => none
  | c :: cs =>
    match restAfterEnd? ends (c :: cs) with
    | some rest => some ([], rest)
    | none => (untilEnd? ends cs).map fun (before, rest) => (c :: before, rest)

/-- A sign at a tag's edge, and the rest. -/
def edgeAndRest : List Char → Option Char × List Char
  | '-' :: cs => (some '-', cs)
  | '+' :: cs => (some '+', cs)
  | cs => (none, cs)

/-- The statement tag that holds one given word alone: the sign at its start, and what follows
    its end. -/
def loneStatement? (word : String) (ends : Ends) (cs : List Char) :
    Option (Option Char × List Char) := do
  let inside ← rest? ['\x7b', '%'] cs
  let (edge, inside) := edgeAndRest inside
  let behind ← rest? word.toList (stripStart inside)
  let rest ← restAfterEnd? ends (stripStart behind)
  return (edge, rest)

/-- The ends of the tag that opens a raw block. -/
def rawEnds : Ends :=
  [(['-', '%', '\x7d'], true), (['%', '\x7d'], false)]

/-- The text before the tag that closes a raw block, whether that tag takes the blanks before it,
    and what follows it. -/
def untilEndraw? : List Char → Option (List Char × Bool × List Char)
  | [] => none
  | c :: cs =>
    match loneStatement? "endraw" statementEnds (c :: cs) with
    | some (edge, rest) => some ([], edge == some '-', rest)
    | none => (untilEndraw? cs).map fun (before, takes, rest) => (c :: before, takes, rest)

/-- The content of a raw block and what follows it. -/
def rawAndRest? (cs : List Char) : Option (List Char × List Char) :=
  (untilEndraw? cs).map fun (before, takes, rest) =>
    (if takes then stripEnd before else before, rest)

/-- The text before a tag, with the sign at the tag's edge obeyed. -/
def textBefore (edge : Option Char) (pending : List Char) : List Segment :=
  let run := if edge == some '-' then stripEnd pending.reverse else pending.reverse
  if run.isEmpty then [] else [.text run]

/-- The segments of a template; `pending` is the text since the last tag, the last character
    first, `line` the line reached, and `fuel` bounds the number of steps. -/
def segmentsFrom? : Nat → Nat → List Char → List Char → Option (List Segment)
  | 0, _, _, _ => none
  | _, _, pending, [] => some (textBefore none pending)
  | fuel + 1, line, pending, c :: cs =>
    let source := c :: cs
    let lineAt (rest : List Char) : Nat :=
      line + (source.take (source.length - rest.length)).count '\n'
    let tagged (ends : Ends) (inside : List Char) (make : List Word → Nat → Segment) :
        Option (List Segment) := do
      let (edge, inside) := edgeAndRest inside
      let (words, rest) ← wordsAndRest? ends (inside.length + 1) [] false inside
      let segments ← segmentsFrom? fuel (lineAt rest) [] rest
      let blanks := inside.takeWhile isBlank
      return textBefore edge pending ++ make words (line + blanks.count '\n') :: segments
    match loneStatement? "raw" rawEnds source with
    | some (edge, inside) => do
      let (run, rest) ← rawAndRest? inside
      let segments ← segmentsFrom? fuel (lineAt rest) [] rest
      return textBefore edge pending ++ textBefore none run.reverse ++ segments
    | none =>
      match source with
      | '\x7b' :: '\x7b' :: inside => tagged expressionEnds inside .expression
      | '\x7b' :: '%' :: inside => tagged statementEnds inside .statement
      | '\x7b' :: '#' :: inside => do
        let (edge, inside) := edgeAndRest inside
        let (_, rest) ← untilEnd? commentEnds inside
        let segments ← segmentsFrom? fuel (lineAt rest) [] rest
        return textBefore edge pending ++ segments
      | _ => segmentsFrom? fuel (if c == '\n' then line + 1 else line) (c :: pending) cs

/-- The segments of a template, whose line ends are unified first. -/
def segments? (source : List Char) : Option (List Segment) :=
  let text := unifyLines source
  segmentsFrom? (text.length + 1) 1 [] text

end Stencil.Native
