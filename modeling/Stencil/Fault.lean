import Stencil.Directive.Error
import Stencil.Template
import Stencil.Value.Basic

/-! # Faults — what a template engine can stop with

    A fault is either one that the author of templates can mend — a template that
    is missing, cannot be compiled or cannot be rendered, a variable that is not
    there, a wrong configuration or command — or a trouble of the data and the
    program around it.  A trouble that arises while a template is rendered becomes
    that template's render fault; all other faults pass through unchanged. -/

namespace Stencil

/-- Why the system takes a path for none: it holds the null character, it is too long or has too
    long a name, or its links lead round in a circle. -/
inductive PathDefect where
  | null
  | tooLong
  | endless
deriving DecidableEq, Repr

/-- Troubles with no template of their own; one that is raised is known by its type only. -/
inductive Trouble where
  | failure (failure : Failure)
  | undecodable
  | path (defect : PathDefect)
  | tooDeep
  | absent (message : String)
  | malformedTemplate
  | unknownFilter
  | lateUnknown
  | unknownRole (unknown : UnknownRole)
  | badNamespace (ns : String)
  | badBinds (typeName : String)
  | raised (typeName : String)
deriving DecidableEq, Repr

/-- How the members of a value are looked up: by key, or as an object's. -/
inductive Shape where
  | keyed
  | structured
deriving DecidableEq, Repr

/-- The word for a shape. -/
def Shape.name : Shape → String
  | .keyed => "array"
  | .structured => "object"

/-- What can be wrong with a configuration or a data file. -/
inductive ConfigFault where
  | unknownKeys (keys : List String)
  | badPath (key : String)
  | notBoolean (key : String)
  | unparsable (path : String)
  | notMapping (path : String)
  | noDataFile (path : String)
deriving DecidableEq, Repr

/-- The message of a configuration fault. -/
def ConfigFault.message : ConfigFault → String
  | .unknownKeys keys => "Unknown configuration key(s): " ++ ", ".intercalate keys
  | .badPath key => s!"'{key}' must be a non-empty path string"
  | .notBoolean key => s!"'{key}' must be a boolean"
  | .unparsable path => s!"Failed to parse {path}"
  | .notMapping path => s!"YAML must be a mapping: {path}"
  | .noDataFile path => s!"Data file not found: {path}"

/-- What can be wrong with a command. -/
inductive UsageFault where
  | badSetting (item : String)
  | unknownRole (unknown : UnknownRole)
  | layoutForComponent
  | notRenderable (template : TemplateId)
deriving DecidableEq, Repr

/-- The message of a usage fault. -/
def UsageFault.message : UsageFault → String
  | .badSetting item => s!"Invalid --set '{item}'. Expected 'NAME=VALUE'"
  | .unknownRole unknown => unknown.message
  | .layoutForComponent => "--layout applies to views only"
  | .notRenderable template =>
    s!"Cannot render '{template.key}' directly; layouts are rendered through views"

/-- A fault. -/
inductive Fault where
  | notFound (template : TemplateId) (path : Option String)
  | uncompilable (template : TemplateId) (error : Directive.Error)
  | unrenderable (template : TemplateId) (trouble : Trouble)
  | noVariable (shape : Shape) (segment template : String)
  | config (fault : ConfigFault)
  | usage (fault : UsageFault)
  | trouble (trouble : Trouble)
deriving DecidableEq, Repr

namespace Fault

/-- A trouble with a value's type. -/
def badType : Fault := .trouble (.failure .badType)

/-- A trouble with a value itself. -/
def badValue : Fault := .trouble (.failure .badValue)

/-- A trouble with a member that is not there. -/
def noMember : Fault := .trouble (.failure .noMember)

/-- The fault of rendering a template in which a fault arose: troubles become the template's. -/
def within (template : TemplateId) : Fault → Fault
  | .trouble cause => .unrenderable template cause
  | fault => fault

/-- The fault of a text that names no role. -/
def ofUnknownRole (unknown : UnknownRole) : Fault :=
  .trouble (.unknownRole unknown)

end Fault

/-- The message of a trouble. -/
def Trouble.message : Trouble → String
  | .absent message => message
  | .unknownRole unknown => unknown.message
  | .badNamespace ns => s!"Invalid directive namespace: {Text.quoted ns}"
  | .badBinds typeName => s!"each() binds must be a mapping, a name or a callable, got {typeName}"
  | .failure .zeroDivision => "division by zero"
  | .failure .overflow => "number too large"
  | .failure _ => "unfit value"
  | .undecodable => "text not in UTF-8"
  | .path .null => "path with a null character"
  | .path .tooLong => "path too long"
  | .path .endless => "links in a circle"
  | .tooDeep => "nested too deeply"
  | .malformedTemplate => "malformed template"
  | .unknownFilter => "unknown filter or test"
  | .lateUnknown => "unknown filter or test"
  | .raised typeName => typeName

/-- The message of a fault. -/
def Fault.message : Fault → String
  | .notFound template none => s!"Template '{template.key}' not found"
  | .notFound template (some path) => s!"Template '{template.key}' not found (looked at {path})"
  | .uncompilable template error => s!"Failed to compile '{template.key}': {error.message}"
  | .unrenderable template cause => s!"Failed to render '{template.key}': {cause.message}"
  | .noVariable shape segment template =>
    s!"Variable '{segment}' not found in {shape.name} data (template '{template}')"
  | .config fault => fault.message
  | .usage fault => fault.message
  | .trouble cause => cause.message

end Stencil
