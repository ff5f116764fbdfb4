import Stencil.Fault

/-! # Loaders — what reads the documents of a project

    A loader takes the text of a file for a value.  A text that it refuses is
    malformed, or raises a trouble of its own. -/

namespace Stencil

/-- Why a text is refused as a document. -/
inductive Yaml.Refusal where
  | malformed
  | raised (cause : Trouble)
deriving DecidableEq, Repr

/-- What reads documents. -/
class YamlLoader where
  load : List Char → Except Yaml.Refusal Value

end Stencil
