import Stencil.Yaml.Cursor

/-! # Reading YAML — the node of a document

    A collection is written in brackets, or as entries that begin in one column
    of a block; what belongs to an entry stands further to the right, except
    that the items of a sequence may begin in the column of their key.  A key
    stands on one line with the colon behind it, unless a question mark precedes
    it.  All readers take a bound on the number of nodes inside one another. -/

namespace Stencil.Yaml

/-- What is read at a cursor, and the cursor behind it. -/
abbrev Reader (α : Type) := Cursor → Option (α × Cursor)

/-! ## Collections in brackets -/

/-- Whether a flow collection's item ends here. -/
def atFlowEnd (cursor : Cursor) : Bool :=
  cursor.sees ',' || cursor.sees ']' || cursor.sees '\x7d'

/-- The node at a cursor, or the empty one where an item ends. -/
def orEmpty (read : Reader Node) (cursor : Cursor) : Option (Node × Cursor) :=
  let cursor := cursor.skipGap true
  if atFlowEnd cursor then some (.empty, cursor) else read cursor

/-- The value behind the colon of a key, whose line must be the colon's. -/
def flowValue (read : Reader Node) (keyLine : Nat) (cursor : Cursor) : Option (Node × Cursor) :=
  if cursor.line == keyLine then orEmpty read (cursor.skip 1) else none

/-- The key behind a question mark, and its value if a colon follows. -/
def flowPair (read : Reader Node) (cursor : Cursor) : Option ((Node × Node) × Cursor) := do
  let cursor := (cursor.skip 1).skipGap true
  let (key, cursor) ← if cursor.atMark ':' then some (.empty, cursor) else orEmpty read cursor
  let cursor := cursor.skipGap true
  if cursor.atMark ':' then
    let (value, cursor) ← orEmpty read (cursor.skip 1)
    return ((key, value), cursor)
  else return ((key, .empty), cursor)

/-- One item of a sequence in brackets: a node, or a mapping of one entry. -/
def flowItem (read : Reader Node) (cursor : Cursor) : Option (Node × Cursor) := do
  if cursor.sees '?' then
    let (entry, cursor) ← flowPair read cursor
    return (.mapping none [entry], cursor)
  else
    let line := cursor.line
    let (key, cursor) ← if cursor.atMark ':' then some (.empty, cursor) else read cursor
    let cursor := cursor.skipGap true
    if cursor.atMark ':' then
      let (value, cursor) ← flowValue read line cursor
      return (.mapping none [(key, value)], cursor)
    else return (key, cursor)

/-- One entry of a mapping in brackets. -/
def flowEntry (read : Reader Node) (cursor : Cursor) : Option ((Node × Node) × Cursor) := do
  if cursor.sees '?' then flowPair read cursor
  else
    let line := cursor.line
    let (key, cursor) ← if cursor.sees ':' then some (.empty, cursor) else read cursor
    let cursor := cursor.skipGap true
    if cursor.sees ':' then
      let (value, cursor) ← flowValue read line cursor
      return ((key, value), cursor)
    else return ((key, .empty), cursor)

/-- Items up to a closing bracket, with commas between them; `fuel` bounds their number. -/
def flowItems {α : Type} (item : Reader α) (closer : Char) : Nat → Reader (List α)
  | 0, _ => none
  | fuel + 1, cursor =>
    let cursor := cursor.skipGap true
    if cursor.atEnd then none
    else if cursor.sees closer then some ([], cursor.skip 1)
    else do
      let (one, cursor) ← item cursor
      let cursor := cursor.skipGap true
      if cursor.sees closer then return ([one], cursor.skip 1)
      else if cursor.sees ',' then
        let (more, cursor) ← flowItems item closer fuel (cursor.skip 1)
        return (one :: more, cursor)
      else none

/-- The collection, scalar or alias at a cursor, without its properties; further lines of a plain
    scalar have at least an indentation. -/
def contentAt (read : Reader Node) (inFlow : Bool) (indent : Int) (cursor : Cursor) :
    Option (Node × Cursor) := do
  if cursor.sees '[' then
    let (items, cursor) ← flowItems (flowItem read) ']' cursor.rest.length (cursor.skip 1)
    return (.sequence none items, cursor)
  else if cursor.sees '\x7b' then
    let (entries, cursor) ← flowItems (flowEntry read) '\x7d' cursor.rest.length (cursor.skip 1)
    return (.mapping none entries, cursor)
  else if cursor.sees '*' then aliasAt? cursor
  else scalarAt? inFlow indent cursor

/-- A node in brackets; the first argument bounds the depth of brackets. -/
def flowNode : Nat → Cursor → Option (Node × Cursor)
  | 0, _ => none
  | depth + 1, cursor => do
    let (properties, cursor) ← propertiesAt? (cursor.skipGap true)
    let cursor := cursor.skipGap true
    if !properties.isEmpty && (atFlowEnd cursor || cursor.atMark ':') then
      return properties.give .empty cursor
    else if !properties.isEmpty && cursor.sees '*' then none
    else
      let (node, cursor) ← contentAt (flowNode depth) true 0 cursor
      return properties.give node cursor

/-! ## Blocks -/

/-- A node on one line, which may be a key; further lines of a plain scalar have at least an
    indentation. -/
def inlineNode (indent : Int) (cursor : Cursor) : Option (Node × Cursor) :=
  contentAt (flowNode cursor.rest.length) false indent cursor

/-- The cursor at the colon of a key that begins in a line, if a colon follows in that line. -/
def colonAfter? (line : Nat) (cursor : Cursor) : Option Cursor :=
  let behind := cursor.moveTo (cursor.rest.dropWhile (· == ' '))
  if cursor.line == line && behind.atMark ':' then some behind else none

/-- The block of lines at a cursor inside an indentation. -/
def linesAt (parent : Int) (cursor : Cursor) : Option (Node × Cursor) :=
  match cursor.rest with
  | c :: cs =>
    if c == '|' || c == '>' then do
      let (text, rest) ← block? (c == '>') parent cs
      return (.scalar none false (String.ofList text), cursor.moveTo rest)
    else none
  | [] => none

/-- Whether a line's rest holds nothing but a comment. -/
def endsLine (cursor : Cursor) : Bool :=
  match cursor.rest.dropWhile (· == ' ') with
  | [] => true
  | c :: _ => c == '\n' || c == '#'

/-- Whether the next entry of a collection in a column begins here; nothing if something else
    stands here that does not end the collection. -/
def nextEntry? (column : Nat) (cursor : Cursor) : Option Bool :=
  if cursor.atEnd then some false
  else if !cursor.fresh then none
  else if cursor.column < column then some false
  else if cursor.column == column then some true
  else none

mutual

/-- A node in a block, further to the right than `parent`.  `allowed` says whether a block
    collection may begin in this line, and `indentless` whether a sequence may begin in the column
    of `parent`. -/
def blockNode : Nat → Int → Bool → Bool → Cursor → Option (Node × Cursor)
  | 0, _, _, _, _ => none
  | fuel + 1, parent, allowed, indentless, cursor => do
    let cursor := cursor.skipGap false
    let column : Int := cursor.column
    if cursor.atEnd then return (.empty, cursor)
    else if cursor.fresh && indentless && column == parent && cursor.atMark '-' then
      let (items, cursor) ← blockSequence fuel cursor.column true cursor
      return (.sequence none items, cursor)
    else if cursor.fresh && column ≤ parent then return (.empty, cursor)
    else
      let allowed := allowed || cursor.fresh
      let (properties, behind) ← propertiesAt? cursor
      if properties.isEmpty then blockContent fuel parent allowed cursor
      else if endsLine behind then
        let (node, after) ← blockNode fuel parent true indentless behind
        return properties.give node after
      else if behind.sees '|' || behind.sees '>' then
        let (node, after) ← linesAt parent behind
        return properties.give node after
      else keyOrNode fuel parent allowed cursor

/-- A node in a block whose properties, if it has any, belong to it as a key. -/
def blockContent : Nat → Int → Bool → Cursor → Option (Node × Cursor)
  | 0, _, _, _ => none
  | fuel + 1, parent, allowed, cursor =>
    if cursor.atMark '-' then
      if allowed then do
        let (items, after) ← blockSequence fuel cursor.column false cursor
        return (.sequence none items, after)
      else none
    else if cursor.atMark '?' || cursor.atMark ':' then
      if allowed then do
        let (entries, after) ← blockMapping fuel cursor.column cursor
        return (.mapping none entries, after)
      else none
    else if cursor.sees '|' || cursor.sees '>' then linesAt parent cursor
    else keyOrNode fuel parent allowed cursor

/-- A node on one line, or a mapping whose first key it is. -/
def keyOrNode : Nat → Int → Bool → Cursor → Option (Node × Cursor)
  | 0, _, _, _ => none
  | fuel + 1, parent, allowed, cursor => do
    let (properties, behind) ← propertiesAt? cursor
    let (node, after) ←
      if behind.atMark ':' then some (.empty, behind)
      else if !properties.isEmpty && behind.sees '*' then none
      else inlineNode (parent + 1) behind
    match colonAfter? cursor.line after with
    | none => return properties.give node after
    | some _ =>
      if allowed then
        let (entries, after) ← blockMapping fuel cursor.column cursor
        return (.mapping none entries, after)
      else none

/-- The items of a sequence in a column, at the hyphen of one of them. -/
def blockSequence : Nat → Nat → Bool → Cursor → Option (List Node × Cursor)
  | 0, _, _, _ => none
  | fuel + 1, column, indentless, cursor => do
    let (item, cursor) ← blockNode fuel column true false (cursor.skip 1)
    let cursor := cursor.skipGap false
    if ← nextEntry? column cursor then
      if cursor.atMark '-' then
        let (items, cursor) ← blockSequence fuel column indentless cursor
        return (item :: items, cursor)
      else if indentless then return ([item], cursor)
      else none
    else return ([item], cursor)

/-- The entries of a mapping in a column, at the key of one of them. -/
def blockMapping : Nat → Nat → Cursor → Option (List (Node × Node) × Cursor)
  | 0, _, _ => none
  | fuel + 1, column, cursor => do
    let (entry, cursor) ← blockEntry fuel column cursor
    let cursor := cursor.skipGap false
    if ← nextEntry? column cursor then
      let (entries, cursor) ← blockMapping fuel column cursor
      return (entry :: entries, cursor)
    else return ([entry], cursor)

/-- The entry of a mapping in a column, at its key. -/
def blockEntry : Nat → Nat → Cursor → Option ((Node × Node) × Cursor)
  | 0, _, _ => none
  | fuel + 1, column, cursor => do
    if cursor.atMark '?' then
      let (key, cursor) ← blockNode fuel column true true (cursor.skip 1)
      let behind := cursor.skipGap false
      if behind.column == column && behind.atMark ':' then
        let (value, cursor) ← blockNode fuel column true true (behind.skip 1)
        return ((key, value), cursor)
      else return ((key, .empty), cursor)
    else if cursor.atMark ':' then
      let (value, cursor) ← blockNode fuel column true true (cursor.skip 1)
      return ((.empty, value), cursor)
    else if cursor.atMark '-' then none
    else
      let (properties, behind) ← propertiesAt? cursor
      let (key, after) ←
        if behind.atMark ':' then some (.empty, behind)
        else inlineNode (column + 1) behind
      let (key, after) := properties.give key after
      let colon ← colonAfter? cursor.line after
      let (value, cursor) ← blockNode fuel column false true (colon.skip 1)
      return ((key, value), cursor)

end

/-! ## Documents -/

/-- Whether a character may stand in a document. -/
def isAllowed (c : Char) : Bool :=
  let code := c.toNat
  code == 9 || code == 10 || code == 13 || (32 ≤ code && code ≤ 126) || code == 0x85 ||
    (0xa0 ≤ code && code ≤ 0xfffd) || 0x10000 ≤ code

/-- The cursor behind the directives before a document, and whether there are any; `fuel` bounds
    their number. -/
def behindDirectives : Nat → Bool → Cursor → Bool × Cursor
  | 0, found, cursor => (found, cursor)
  | fuel + 1, found, cursor =>
    let cursor := cursor.skipGap false
    if cursor.column == 0 && cursor.sees '%' then
      behindDirectives fuel true (cursor.moveTo (cursor.rest.dropWhile (· != '\n')))
    else (found, cursor)

/-- Whether three given characters mark something here. -/
def atMarker (marker : String) (cursor : Cursor) : Bool :=
  cursor.column == 0 && marker.toList.isPrefixOf cursor.rest && isMarker cursor.rest

/-- Whether nothing but marks of its end follows a document; `fuel` bounds their number. -/
def isFinished : Nat → Cursor → Bool
  | 0, _ => false
  | fuel + 1, cursor =>
    let cursor := cursor.skipGap false
    cursor.rest.isEmpty || (atMarker "..." cursor && isFinished fuel (cursor.skip 3))

/-- The only document of a text. -/
def document? (text : List Char) : Option Node := do
  if !text.all isAllowed then none
  else
    let text :=
      match text with
      | '\uFEFF' :: cs => cs
      | cs => cs
    let fuel := 6 * text.length + 12
    let (directed, cursor) := behindDirectives fuel false (.start text)
    let marked := atMarker "---" cursor
    if directed && !marked then none
    else
      let (node, cursor) ←
        if marked then blockNode fuel (-1) false false (cursor.skip 3)
        else blockNode fuel (-1) true false cursor
      if isFinished fuel cursor then return node else none

end Stencil.Yaml
