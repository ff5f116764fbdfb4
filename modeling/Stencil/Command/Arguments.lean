import Stencil.Template
import Stencil.Text.Pieces

/-! # Arguments — what a command line asks for

    Options stand before the command, or behind it if they are the command's
    own.  A long option may be cut short while it stays unique, and its value may
    follow an equals sign.  What starts with a hyphen is no operand, unless it is
    a negative number or has a space in it. -/

namespace Stencil.Command

open Stencil.Text

/-- A command with its operands and options. -/
inductive Job where
  | render (target : String) (data : Option String) (settings : List String)
      (layout : Option String)
  | compile (target : String)
  | list (role : Role)
  | cache (clear : Bool)
deriving DecidableEq, Repr

/-- What a command line asks for; `misuse` is a command line that asks for nothing that there
    is. -/
inductive Request where
  | version
  | misuse
  | command (root : String) (job : Job)
deriving DecidableEq, Repr

/-! ## Options -/

/-- An option: its names, and whether it takes a value. -/
structure Flag where
  names : List String
  takesValue : Bool
deriving DecidableEq, Repr

/-- The argument behind which there are operands only. -/
def separator : String := "--"

/-- What an argument is. -/
inductive Kind where
  | operand
  | flag (flag : Flag) (value : Option String)
  | separator
  | unknown
  | ambiguous
deriving DecidableEq, Repr

/-- The text before and after the first equals sign. -/
def cutAtEquals (argument : String) : String × Option String :=
  match cutAt? '=' argument.toList with
  | some (before, after) => (String.ofList before, some (String.ofList after))
  | none => (argument, none)

/-- The option of a name. -/
def flagOf? (flags : List Flag) (name : String) : Option Flag :=
  flags.find? fun flag => flag.names.contains name

/-- The options that an argument cuts short, each with the value it gives. -/
def shortened (flags : List Flag) (argument : String) : List (Flag × Option String) :=
  let names := flags.flatMap fun flag => flag.names.map fun name => (flag, name)
  let cs := argument.toList
  if ['-', '-'].isPrefixOf cs then
    let (start, value) := cutAtEquals argument
    names.filterMap fun (flag, name) =>
      if start.toList.isPrefixOf name.toList then some (flag, value) else none
  else
    names.filterMap fun (flag, name) =>
      if name.toList == cs.take 2 then some (flag, some (String.ofList (cs.drop 2)))
      else if cs.isPrefixOf name.toList then some (flag, none)
      else none

/-- Whether a text is a negative number: digits behind a hyphen, perhaps with a point among them. -/
def isNegativeNumber (cs : List Char) : Bool :=
  match cs with
  | '-' :: digits =>
    let rest := digits.dropWhile Char.isDigit
    match rest with
    | [] => !digits.isEmpty
    | '.' :: places => !places.isEmpty && places.all Char.isDigit
    | _ => false
  | _ => false

/-- What an argument is among some options. -/
def kindOf (flags : List Flag) (argument : String) : Kind :=
  let cs := argument.toList
  let (name, value) := cutAtEquals argument
  if cs.head? != some '-' || cs.length == 1 then .operand
  else if argument == separator then .separator
  else
    match flagOf? flags argument, value, flagOf? flags name with
    | some flag, _, _ => .flag flag none
    | none, some value, some flag => .flag flag (some value)
    | none, _, _ =>
      match shortened flags argument with
      | [(flag, value)] => .flag flag value
      | _ :: _ :: _ => .ambiguous
      | [] => if isNegativeNumber cs || cs.contains ' ' then .operand else .unknown

/-- An option found in a command line, with its value if it takes one. -/
abbrev Found := Flag × Option String

/-- The value of an option and what follows it; nothing if a value is missing or superfluous. -/
def valueAndRest? (flags : List Flag) (flag : Flag) (value : Option String)
    (arguments : List String) : Option (Option String × List String) :=
  match flag.takesValue, value, arguments with
  | false, none, _ => some (none, arguments)
  | false, some _, _ => none
  | true, some value, _ => some (some value, arguments)
  | true, none, next :: rest =>
    if kindOf flags next == .operand then some (some next, rest) else none
  | true, none, [] => none

/-! ## Arguments behind a command -/

/-- The operands and options behind a command; `fuel` bounds their number. -/
def readBehind? (flags : List Flag) : Nat → List String → Option (List String × List Found)
  | _, [] => some ([], [])
  | 0, _ => none
  | fuel + 1, argument :: arguments =>
    match kindOf flags argument with
    | .operand =>
      (readBehind? flags fuel arguments).map fun (operands, found) => (argument :: operands, found)
    | .flag flag value => do
      let (value, rest) ← valueAndRest? flags flag value arguments
      let (operands, found) ← readBehind? flags fuel rest
      return (operands, (flag, value) :: found)
    | .separator => some (arguments, [])
    | .unknown => none
    | .ambiguous => none

/-- The values given to an option. -/
def valuesOf (flag : Flag) (found : List Found) : List String :=
  found.filterMap fun (other, value) => if other == flag then value else none

/-- The option of a data file. -/
def dataFlag : Flag := ⟨["--data"], true⟩

/-- The option of one variable. -/
def setFlag : Flag := ⟨["--set"], true⟩

/-- The option of a layout. -/
def layoutFlag : Flag := ⟨["--layout"], true⟩

/-- The option that empties the cache. -/
def clearFlag : Flag := ⟨["--clear"], false⟩

/-- The command of a name with the arguments behind it. -/
def jobOf? (name : String) (arguments : List String) : Option Job := do
  let behind (flags : List Flag) : Option (List String × List Found) :=
    readBehind? flags arguments.length arguments
  match name with
  | "render" =>
    match ← behind [dataFlag, setFlag, layoutFlag] with
    | ([target], found) =>
      return .render target (valuesOf dataFlag found).getLast? (valuesOf setFlag found)
        (valuesOf layoutFlag found).getLast?
    | _ => none
  | "compile" =>
    match ← behind [] with
    | ([target], _) => return .compile target
    | _ => none
  | "list" =>
    match ← behind [] with
    | ([word], _) => return .list (← Role.all.find? fun role => role.name == word)
    | _ => none
  | "cache" =>
    match ← behind [clearFlag] with
    | ([], found) => return .cache (!found.isEmpty)
    | _ => none
  | _ => none

/-! ## Whole command lines -/

/-- The option that asks for the version. -/
def versionFlag : Flag := ⟨["-v", "--version"], false⟩

/-- The option of the project's folder. -/
def rootFlag : Flag := ⟨["--root"], true⟩

/-- The option that asks for more messages. -/
def verboseFlag : Flag := ⟨["--verbose"], false⟩

/-- The options before a command. -/
def frontFlags : List Flag := [versionFlag, rootFlag, verboseFlag]

/-- What the rest of a command line asks for; `isKnown` says whether all options before it were
    known, and `fuel` bounds the number of arguments. -/
def requestFrom (root : String) (isKnown : Bool) : Nat → List String → Request
  | _, [] => .misuse
  | 0, _ => .misuse
  | fuel + 1, argument :: arguments =>
    match kindOf frontFlags argument with
    | .operand =>
      match jobOf? argument arguments with
      | some job => if isKnown then .command root job else .misuse
      | none => .misuse
    | .flag flag value =>
      match valueAndRest? frontFlags flag value arguments with
      | none => .misuse
      | some (value, rest) =>
        if flag == versionFlag then .version
        else requestFrom (value.getD root) isKnown fuel rest
    | .unknown => requestFrom root false fuel arguments
    | .separator => .misuse
    | .ambiguous => .misuse

/-- What a command line asks for, in the present folder unless it names another. -/
def requestOf (arguments : List String) : Request :=
  let front := arguments.takeWhile (· != separator)
  if front.any fun argument => kindOf frontFlags argument == .ambiguous then .misuse
  else requestFrom "." true arguments.length arguments

end Stencil.Command
