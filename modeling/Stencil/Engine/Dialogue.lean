import Stencil.BindPath
import Stencil.Engine.Fragment
import Stencil.Files.Tree

/-! # Dialogues — what an executor of templates asks of the engine

    A template that is built runs outside the engine: it computes by itself, and
    asks the engine for what lies there — members and items, renditions of
    fragments, calls of their methods, what a stream holds, the files — or changes
    in place the values that the engine keeps.  It ends with a text or a trouble.
    A fault of an answer ends it as well. -/

namespace Stencil

/-- What is asked of an engine. -/
inductive Request where
  | look
  | next (stream : Nat)
  | render (handle : Handle)
  | call (handle : Handle) (method : Method) (plain : List Value) (named : List (String × Value))
  | alterScope (handle : Handle) (change : Scope → Scope)
  | alterData (index : Nat) (change : Value → Value)
  | files

/-- What a request is answered with: a stream gives its next value with the number of those that it
    still holds. -/
abbrev Request.Answer : Request → Type
  | look => BindPath.Surroundings
  | next _ => Option (Value × Nat)
  | render _ => String
  | call _ _ _ _ => Value
  | alterScope _ _ => Unit
  | alterData _ _ => Unit
  | files => FileTree

/-- A computation that asks requests. -/
inductive Dialogue (α : Type) where
  | done (result : α)
  | stop (cause : Trouble)
  | ask (request : Request) (next : request.Answer → Dialogue α)

namespace Dialogue

variable {α β : Type}

/-- One dialogue after another. -/
def bind : Dialogue α → (α → Dialogue β) → Dialogue β
  | done a, f => f a
  | stop cause, _ => stop cause
  | ask request next, f => ask request fun answer => (next answer).bind f

instance : Monad Dialogue where
  pure := done
  bind := bind

instance [Inhabited α] : Inhabited (Dialogue α) := ⟨done default⟩

/-- A single request. -/
def request (r : Request) : Dialogue r.Answer :=
  ask r done

/-- A dialogue that a trouble has ended or not. -/
def ofTrouble : Except Trouble α → Dialogue α
  | .ok a => done a
  | .error cause => stop cause

/-- Whether a dialogue asks only requests of a kind, whatever it is answered. -/
def Asks (kind : Request → Prop) : Dialogue α → Prop
  | done _ => True
  | stop _ => True
  | ask request next => kind request ∧ ∀ answer, (next answer).Asks kind

theorem Asks.any : (d : Dialogue α) → d.Asks fun _ => True
  | done _ => trivial
  | stop _ => trivial
  | ask _ next => ⟨trivial, fun answer => any (next answer)⟩

end Dialogue

/-- The variables a template sees; of several under one name the first counts. -/
abbrev Variables := List (String × Value)

/-- A template that is built: what it does with undefined names as errors or not, and with some
    variables. -/
abbrev Script := Bool → Variables → Dialogue String

/-- Whether a script asks only requests of a kind. -/
def Script.Asks (kind : Request → Prop) (script : Script) : Prop :=
  ∀ strict vars, (script strict vars).Asks kind

/-- What an engine runs on: how code is built, what objects that are none of the engine's show to
    lookups, and how many fragments can be rendered inside another one, which the interpreter's
    limit of recursion sets. -/
class Substrate where
  build : String → Except Trouble Script
  facets : Value → BindPath.Facets
  depth : Nat

end Stencil
