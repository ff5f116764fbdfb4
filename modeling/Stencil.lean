import Stencil.BindPath
import Stencil.Cache.Artifact
import Stencil.Cache.Resolve
import Stencil.Cache.Store
import Stencil.Command.Arguments
import Stencil.Command.Run
import Stencil.Config
import Stencil.Digest.Sha1
import Stencil.Directive.Attribute
import Stencil.Directive.Error
import Stencil.Directive.Lowering
import Stencil.Directive.Tag
import Stencil.Directive.Token
import Stencil.Engine.Dialogue
import Stencil.Engine.Fragment
import Stencil.Engine.Methods
import Stencil.Engine.Parameter
import Stencil.Engine.Rendering
import Stencil.Engine.Settings
import Stencil.Engine.World
import Stencil.Fault
import Stencil.Files.Links
import Stencil.Files.Location
import Stencil.Files.Lookup
import Stencil.Files.Pattern
import Stencil.Files.Tree
import Stencil.Json.Basic
import Stencil.Json.Reader
import Stencil.Main
import Stencil.Native.Alias
import Stencil.Native.Evaluation
import Stencil.Native.Expression
import Stencil.Native.Member
import Stencil.Native.Reader
import Stencil.Native.Segment
import Stencil.Native.Usual
import Stencil.Number.Binary64
import Stencil.Number.Digits
import Stencil.Number.Numeral
import Stencil.Number.Shortest
import Stencil.Project
import Stencil.Proofs.BindPath.Chains
import Stencil.Proofs.BindPath.Composition
import Stencil.Proofs.BindPath.Keyed
import Stencil.Proofs.BindPath.Precedence
import Stencil.Proofs.Cache.Custody
import Stencil.Proofs.Cache.Damage
import Stencil.Proofs.Cache.EntryFile
import Stencil.Proofs.Cache.Failure
import Stencil.Proofs.Cache.Folder
import Stencil.Proofs.Cache.Forgetting
import Stencil.Proofs.Cache.History
import Stencil.Proofs.Cache.Identity
import Stencil.Proofs.Cache.Ledger
import Stencil.Proofs.Cache.Naming
import Stencil.Proofs.Cache.Permanence
import Stencil.Proofs.Cache.Persistence
import Stencil.Proofs.Cache.Resolve
import Stencil.Proofs.Cache.Sharing
import Stencil.Proofs.Cache.Soundness
import Stencil.Proofs.Cache.Transparency
import Stencil.Proofs.Command.Delivery
import Stencil.Proofs.Directive.Balance
import Stencil.Proofs.Directive.Document
import Stencil.Proofs.Directive.Idempotence
import Stencil.Proofs.Directive.Interpolation
import Stencil.Proofs.Directive.Items
import Stencil.Proofs.Directive.Meaning
import Stencil.Proofs.Directive.Occurrence
import Stencil.Proofs.Directive.Position
import Stencil.Proofs.Directive.Scan
import Stencil.Proofs.Directive.Spelling
import Stencil.Proofs.Directive.Stray
import Stencil.Proofs.Directive.Tiling
import Stencil.Proofs.Directive.Viability
import Stencil.Proofs.Engine.Bindings
import Stencil.Proofs.Engine.Confinement
import Stencil.Proofs.Engine.Course
import Stencil.Proofs.Engine.Directives
import Stencil.Proofs.Engine.Executions
import Stencil.Proofs.Engine.Folding
import Stencil.Proofs.Engine.Law
import Stencil.Proofs.Engine.Memo
import Stencil.Proofs.Engine.Nesting
import Stencil.Proofs.Engine.Passes
import Stencil.Proofs.Engine.Redirection
import Stencil.Proofs.Engine.Refusal
import Stencil.Proofs.Engine.Repetition
import Stencil.Proofs.Engine.Report
import Stencil.Proofs.Engine.Rerun
import Stencil.Proofs.Engine.Restraint
import Stencil.Proofs.Engine.Shapes
import Stencil.Proofs.Engine.Sites
import Stencil.Proofs.Engine.Stillness
import Stencil.Proofs.Engine.Trail
import Stencil.Proofs.Engine.Typing
import Stencil.Proofs.Engine.Verbatim
import Stencil.Proofs.Files.Folders
import Stencil.Proofs.Files.Links
import Stencil.Proofs.Files.Listing
import Stencil.Proofs.Files.Names
import Stencil.Proofs.Files.Paths
import Stencil.Proofs.Files.Pattern
import Stencil.Proofs.Files.Shown
import Stencil.Proofs.Files.Tree
import Stencil.Proofs.Json.ReadBack
import Stencil.Proofs.Native.Blocks
import Stencil.Proofs.Native.Language
import Stencil.Proofs.Native.Segments
import Stencil.Proofs.Native.Usual
import Stencil.Proofs.Number.Order
import Stencil.Proofs.Number.ReadBack
import Stencil.Proofs.Number.Rounding
import Stencil.Proofs.Project.Documents
import Stencil.Proofs.Project.Normal
import Stencil.Proofs.Project.Settings
import Stencil.Proofs.Text.Entity
import Stencil.Sources
import Stencil.Table
import Stencil.Template
import Stencil.Text.Blank
import Stencil.Text.CharClass
import Stencil.Text.Entity
import Stencil.Text.Instant
import Stencil.Text.Pieces
import Stencil.Text.Place
import Stencil.Text.Printable
import Stencil.Text.Quoted
import Stencil.Text.Upper
import Stencil.Text.Word
import Stencil.Value.Basic
import Stencil.Value.Operators
import Stencil.Value.Shown
import Stencil.Yaml.Cursor
import Stencil.Yaml.Loader
import Stencil.Yaml.Meaning
import Stencil.Yaml.Reader
import Stencil.Yaml.Scalar
