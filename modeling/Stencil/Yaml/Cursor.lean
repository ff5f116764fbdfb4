import Stencil.Yaml.Scalar

/-! # Cursors — places in a YAML document, and its nodes

    A node is a scalar, a sequence or a mapping, each with a tag if one is
    written.  A cursor knows the text that is left, its line and column, whether
    only spaces stand before it in its line, and the nodes that have an anchor so
    far. -/

namespace Stencil.Yaml

/-- A node of a document. -/
inductive Node where
  | scalar (tag : Option String) (isPlain : Bool) (text : String)
  | sequence (tag : Option String) (items : List Node)
  | mapping (tag : Option String) (entries : List (Node × Node))

instance : Inhabited Node := ⟨.scalar none true ""⟩

/-- The node that stands where nothing is written. -/
def Node.empty : Node := .scalar none true ""

/-- A place in a document. -/
structure Cursor where
  rest : List Char
  line : Nat
  column : Nat
  fresh : Bool
  anchors : List (String × Node)
deriving Inhabited

namespace Cursor

/-- The start of a document. -/
def start (text : List Char) : Cursor :=
  ⟨text, 0, 0, true, []⟩

/-- The cursor after one more character. -/
def pass (cursor : Cursor) (c : Char) : Cursor :=
  if c == '\n' then { cursor with line := cursor.line + 1, column := 0, fresh := true }
  else { cursor with column := cursor.column + 1, fresh := cursor.fresh && c == ' ' }

/-- The cursor at a later place of the text, given by what is left there. -/
def moveTo (cursor : Cursor) (rest : List Char) : Cursor :=
  let passed := cursor.rest.take (cursor.rest.length - rest.length)
  { passed.foldl pass cursor with rest }

/-- The cursor after some more characters. -/
def skip (cursor : Cursor) (count : Nat) : Cursor :=
  cursor.moveTo (cursor.rest.drop count)

/-- What is left behind spaces, comments and line ends; in brackets tabulators are passed too. -/
def behindGap (inFlow : Bool) : Bool → List Char → List Char
  | _, [] => []
  | inComment, c :: cs =>
    if c == '\n' then behindGap inFlow false cs
    else if inComment || c == ' ' || (inFlow && c == '\t') then behindGap inFlow inComment cs
    else if c == '#' then behindGap inFlow true cs
    else c :: cs

/-- The cursor behind spaces, comments and line ends. -/
def skipGap (inFlow : Bool) (cursor : Cursor) : Cursor :=
  cursor.moveTo (behindGap inFlow false cursor.rest)

/-- Whether the document ends here. -/
def atEnd (cursor : Cursor) : Bool :=
  cursor.rest.isEmpty || (cursor.column == 0 && isMarker cursor.rest)

/-- Whether a character stands here that counts as a mark only before a gap. -/
def atMark (mark : Char) (cursor : Cursor) : Bool :=
  match cursor.rest with
  | c :: cs => c == mark && endsWord cs
  | [] => false

/-- Whether a character stands here. -/
def sees (c : Char) (cursor : Cursor) : Bool :=
  cursor.rest.head? == some c

/-- The cursor with a node kept under an anchor. -/
def keep (cursor : Cursor) (name : String) (node : Node) : Cursor :=
  { cursor with anchors := (name, node) :: cursor.anchors }

end Cursor

/-! ## Tags, anchors and aliases -/

/-- What is written before a node. -/
structure Properties where
  tag : Option String
  anchor : Option String
deriving DecidableEq, Repr

/-- No properties. -/
def Properties.blank : Properties := ⟨none, none⟩

/-- Whether nothing is written before a node. -/
def Properties.isEmpty (properties : Properties) : Bool :=
  properties == .blank

/-- The node with a tag, unless it has one. -/
def Node.tagged (node : Node) (tag : Option String) : Node :=
  match node, tag with
  | node, none => node
  | .scalar none isPlain text, some tag => .scalar (some tag) isPlain text
  | .sequence none items, some tag => .sequence (some tag) items
  | .mapping none entries, some tag => .mapping (some tag) entries
  | node, some _ => node

/-- A node with its properties, kept under its anchor. -/
def Properties.give (properties : Properties) (node : Node) (cursor : Cursor) : Node × Cursor :=
  let node := node.tagged properties.tag
  match properties.anchor with
  | some name => (node, cursor.keep name node)
  | none => (node, cursor)

/-- Whether a character can be part of the name of an anchor or a tag. -/
def isNamePart (c : Char) : Bool :=
  !(isGap c || c == '\n' || flowMarks.contains c)

/-- The name at a cursor, and the cursor behind it. -/
def nameAt (cursor : Cursor) : String × Cursor :=
  (String.ofList (cursor.rest.takeWhile isNamePart),
    cursor.moveTo (cursor.rest.dropWhile isNamePart))

/-- The name of an anchor or alias at a cursor. -/
def anchorAt? (cursor : Cursor) : Option (String × Cursor) :=
  let (name, cursor) := nameAt cursor
  if name.isEmpty then none else some (name, cursor)

/-- The properties at a cursor, at most one of each kind; `fuel` bounds their number. -/
def propertiesFrom? : Nat → Properties → Cursor → Option (Properties × Cursor)
  | 0, found, cursor => some (found, cursor)
  | fuel + 1, found, cursor =>
    let further (found : Properties) (cursor : Cursor) : Option (Properties × Cursor) :=
      let behind := cursor.moveTo (cursor.rest.dropWhile (· == ' '))
      if behind.column == cursor.column && !endsWord cursor.rest then
        if cursor.rest.any fun c => flowMarks.contains c then some (found, cursor) else none
      else propertiesFrom? fuel found behind
    match cursor.rest with
    | '&' :: _ => do
      if found.anchor.isSome then none
      else
        let (name, cursor) ← anchorAt? (cursor.skip 1)
        further { found with anchor := some name } cursor
    | '!' :: _ =>
      if found.tag.isSome then none
      else
        let (name, cursor) := nameAt cursor
        further { found with tag := some name } cursor
    | _ => some (found, cursor)

/-- The properties at a cursor. -/
def propertiesAt? (cursor : Cursor) : Option (Properties × Cursor) :=
  propertiesFrom? 2 .blank cursor

/-- The scalar at a cursor: one in quotes, or a plain one whose further lines have at least an
    indentation. -/
def scalarAt? (inFlow : Bool) (indent : Int) (cursor : Cursor) : Option (Node × Cursor) :=
  match cursor.rest with
  | [] => none
  | c :: cs =>
    if c == '"' || c == '\'' then do
      let (text, rest) ← quoted? c cs
      return (.scalar none false (String.ofList text), cursor.moveTo rest)
    else if startsPlain inFlow c cs then
      let (text, rest) := plain inFlow indent cursor.rest
      some (.scalar none true (String.ofList text), cursor.moveTo rest)
    else none

/-- The node that the alias at a cursor stands for. -/
def aliasAt? (cursor : Cursor) : Option (Node × Cursor) := do
  let (name, cursor) ← anchorAt? (cursor.skip 1)
  return (← cursor.anchors.lookup name, cursor)

end Stencil.Yaml
