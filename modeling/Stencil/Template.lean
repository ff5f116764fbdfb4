import Stencil.Text.Blank
import Stencil.Text.Pieces
import Stencil.Digest.Sha1

/-! # Template identifiers — a role and a logical name

    A template is known by the role of the directory it lies in and its name
    there.  An identifier is written `role:name`, or `name` alone where a role is
    understood; its key is the first form, and the digest of the key names its
    cache entry. -/

namespace Stencil

open Stencil.Text

/-- The role of a template directory. -/
inductive Role where
  | layout
  | view
  | component
deriving DecidableEq, Repr, Inhabited

namespace Role

/-- The roles in their order. -/
def all : List Role := [.layout, .view, .component]

/-- The name of a role. -/
def name : Role → String
  | .layout => "layout"
  | .view => "view"
  | .component => "component"

/-- The role that a text names, blanks around it and the case of its letters aside.  No letter
    outside the Latin alphabet has a lower case in these names. -/
def parse? (text : String) : Option Role :=
  let word := String.ofList ((strip text.toList).map Char.toLower)
  all.find? (·.name == word)

/-- The names of the roles, as a message lists them. -/
def listed : String :=
  ", ".intercalate (all.map Role.name)

end Role

/-- A text that names no role. -/
structure UnknownRole where
  text : String
deriving DecidableEq, Repr

/-- The message about a text that names no role. -/
def UnknownRole.message (unknown : UnknownRole) : String :=
  s!"Unknown template role '{unknown.text}'. Expected one of: {Role.listed}"

/-- The role that a text names, or the complaint that it names none. -/
def Role.parse (text : String) : Except UnknownRole Role :=
  match Role.parse? text with
  | some role => .ok role
  | none => .error ⟨text⟩

/-- A template identifier. -/
structure TemplateId where
  role : Role
  name : String
deriving DecidableEq, Repr, Inhabited

namespace TemplateId

/-- The written form of an identifier, under which the engine holds the template. -/
def key (t : TemplateId) : String :=
  t.role.name ++ ":" ++ t.name

/-- The identifier that a text writes: a role and a name around the first colon, or a name alone
    with the given role. -/
def parse (text : String) (role : Role) : Except UnknownRole TemplateId :=
  match cutAt? ':' text.toList with
  | some (before, after) => do
    return ⟨← Role.parse (String.ofList before), String.ofList (strip after)⟩
  | none => .ok ⟨role, stripped text⟩

/-- The digest of an identifier's key. -/
def cacheKey (t : TemplateId) : String :=
  Sha1.hex t.key

end TemplateId

end Stencil
