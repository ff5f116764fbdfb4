import Stencil.Fault
import Stencil.Json.Reader
import Stencil.Table
import Stencil.Template
import Stencil.Text.Instant
import Stencil.Value.Basic

/-! # Artifacts — compiled templates and the entries that keep them

    An artifact is a template's native form.  An entry keeps it with the time up
    to which its source was known; it is fresh while the source has not changed
    after that.  On disk an entry is one JSON document. -/

namespace Stencil

/-- A compiled template.  The code is a text, unless it comes from an entry that another program
    wrote; the stamp tells artifacts apart that hold the same. -/
structure Artifact where
  template : TemplateId
  code : Value
  compiledAt : Binary64
  stamp : Nat

/-- An artifact with the time it was stored for. -/
structure Entry where
  artifact : Artifact
  storedAt : Binary64

namespace Entry

/-- Whether an entry was stored no earlier than the last change of its source. -/
def isFresh (entry : Entry) (changed : Binary64) : Bool :=
  changed.le entry.storedAt

/-- The version of the form in which entries are written. -/
def version : Int := 1

/-- The document of an entry, with the moment of writing. -/
def toJson (template : TemplateId) (code : String) (storedAt now : Binary64) : Json :=
  .object [("v", .int version), ("template", .text template.key), ("code", .text code),
    ("stored_at", .real storedAt), ("created_at", .text (Instant.text now))]

mutual

/-- The value that a document is. -/
def valueOf : Json → Value
  | .null => .null
  | .bool b => .bool b
  | .int i => .int i
  | .real x => .real x
  | .text s => .text s
  | .array items => .list (valuesOf items)
  | .object members => .map (entriesOf members)

/-- The values that documents are. -/
def valuesOf : List Json → List Value
  | [] => []
  | doc :: docs => valueOf doc :: valuesOf docs

/-- The entries of a map that members of an object are. -/
def entriesOf : List (String × Json) → List (Value × Value)
  | [] => []
  | (key, doc) :: members => (.text key, valueOf doc) :: entriesOf members

end

end Entry

/-- What the document of an entry says. -/
structure Stored where
  template : TemplateId
  code : Value
  storedAt : Binary64

namespace Stored

/-- Whether a document is of the current version. -/
def isCurrent (doc : Json) : Bool :=
  ((doc.member? "v").map Entry.valueOf).any fun v => Value.same (.int Entry.version) v

/-- Whether a document counts as no document at all. -/
def isVoid (doc : Json) : Bool :=
  !(Entry.valueOf doc).isTrue

/-- The template that an entry names; nothing if it names none, a trouble if what stands there is
    a collection. -/
def templateOf (doc : Json) : Except Trouble (Option TemplateId) :=
  match doc.member? "template" with
  | some (.text s) =>
    match TemplateId.parse s .view with
    | .ok template => .ok (some template)
    | .error _ => .ok none
  | some (.array _) => .error (.failure .noMember)
  | some (.object _) => .error (.failure .noMember)
  | _ => .ok none

/-- The time that an entry was stored for; a number too large for a time is a trouble. -/
def timeOf (doc : Json) : Except Trouble (Option Binary64) :=
  let ofInt (i : Int) : Except Trouble (Option Binary64) :=
    match Binary64.ofInt i with
    | .infinite _ => .error (.failure .overflow)
    | x => .ok (some x)
  match doc.member? "stored_at" with
  | some (.int i) => ofInt i
  | some (.bool b) => ofInt (if b then 1 else 0)
  | some (.real x) => .ok (some x)
  | some (.text s) => .ok (Numeral.readReal? s.toList)
  | _ => .ok none

/-- What the document of an entry says; nothing if it is of another version or not well formed. -/
def ofJson (doc : Json) : Except Trouble (Option Stored) :=
  if isVoid doc then .ok none
  else
    match doc with
    | .object _ =>
      if !isCurrent doc then .ok none
      else do
        match ← templateOf doc, doc.member? "code" with
        | some template, some code =>
          return (← timeOf doc).map fun storedAt => ⟨template, Entry.valueOf code, storedAt⟩
        | _, _ => return none
    | _ => .error (.failure .noMember)

end Stored

end Stencil
