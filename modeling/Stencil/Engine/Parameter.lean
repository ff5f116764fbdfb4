import Stencil.Value.Basic

/-! # Parameters — arguments that fill them

    Arguments fill parameters in order or by name; each parameter is filled at most
    once, and one that must be given is. -/

namespace Stencil.Engine

/-- A parameter: its name and whether it must be given. -/
structure Parameter where
  name : String
  required : Bool
deriving DecidableEq, Repr

/-- The values of parameters, nothing for one that is not given; nothing at all if the arguments do
    not fit the parameters. -/
def fill? : List Parameter → List Value → List (String × Value) → Option (List (Option Value))
  | [], plain, named => if plain.isEmpty && named.isEmpty then some [] else none
  | parameter :: parameters, v :: plain, named =>
    if (named.lookup parameter.name).isSome then none
    else (fill? parameters plain named).map (some v :: ·)
  | parameter :: parameters, [], named =>
    match named.lookup parameter.name with
    | some v =>
      (fill? parameters [] (named.filter (·.1 != parameter.name))).map (some v :: ·)
    | none => if parameter.required then none else (fill? parameters [] named).map (none :: ·)

end Stencil.Engine
