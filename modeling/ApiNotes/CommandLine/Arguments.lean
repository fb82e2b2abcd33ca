/-
The command line.
Arguments are read from left to right. An option takes its value from the same argument or from the
next one, which must not look like an option itself; flags take none. A single argument that is
neither is the project path, and `--` makes everything after it such an argument. The value of an
option that stands in an argument of its own, and the project path, are looked at only when the next
option, flag or path comes, or at the end, so that a fault of a later argument can win over them.
-/
import ApiNotes.Annotation.Reader
import ApiNotes.Format
import ApiNotes.Resolution

namespace ApiNotes.CommandLine

/-! ## Requests -/

/-- What the command line asks for. -/
structure Request where
  projectPath : String
  format : Format := .yaml
  outputDirectory : String := "."
  toTerminal : Bool := false
  sentinel : String := defaultSentinel
  levelCap : Nat := defaultLevelCap
  lenient : Bool := false
  verbose : Bool := false
deriving DecidableEq, Repr

/-- Why there is no request. -/
inductive UsageError where
  | pathMissing
  | unknownArgument (argument : String)
  | invalidValue
  | notANumber (value : String)
  | repeated
  | unwantedValue (value : String)
  | helpAsked
  | versionAsked
deriving DecidableEq, Repr

/-- A usage error in words. -/
def UsageError.message : UsageError → String
  | pathMissing => "the project path is missing"
  | unknownArgument argument => s!"unexpected argument '{argument}'"
  | invalidValue => "an argument has no value or not one of its values"
  | notANumber value => s!"'{value}' is not a number of levels"
  | repeated => "an argument is given more than once"
  | unwantedValue value => s!"unexpected value '{value}' for a flag"
  | helpAsked => "help"
  | versionAsked => "version"

/-- Arguments that have a value. -/
inductive Parameter where
  | projectPath
  | format
  | outputDirectory
  | sentinel
  | levelCap
deriving DecidableEq, Repr

/-- Arguments that have none. -/
inductive Flag where
  | toTerminal
  | lenient
  | verbose
  | help
  | version
deriving DecidableEq, Repr

/-- What an option name stands for. -/
inductive OptionKind where
  | valued (p : Parameter)
  | plain (f : Flag)
deriving DecidableEq, Repr

/-- The option that is written as `--name`. -/
def OptionKind.ofLong? : String → Option OptionKind
  | "format" => some (.valued .format)
  | "output-dir" => some (.valued .outputDirectory)
  | "prefix" => some (.valued .sentinel)
  | "max-iterations" => some (.valued .levelCap)
  | "stdout" => some (.plain .toTerminal)
  | "lenient" => some (.plain .lenient)
  | "verbose" => some (.plain .verbose)
  | "help" => some (.plain .help)
  | "version" => some (.plain .version)
  | _ => none

/-- The option that is written as `-c`. -/
def OptionKind.ofShort? : Char → Option OptionKind
  | 'f' => some (.valued .format)
  | 'o' => some (.valued .outputDirectory)
  | 'p' => some (.valued .sentinel)
  | 'v' => some (.plain .verbose)
  | 'h' => some (.plain .help)
  | 'V' => some (.plain .version)
  | _ => none

/-! ## Values -/

/-- What has been given so far. -/
structure Given where
  projectPath : Option String := none
  format : Option Format := none
  outputDirectory : Option String := none
  sentinel : Option String := none
  levelCap : Option Nat := none
  toTerminal : Bool := false
  lenient : Bool := false
  verbose : Bool := false
deriving DecidableEq, Repr

/-- A path, which is not empty. -/
def pathOf (text : String) : Except UsageError String :=
  if text.isEmpty then .error .invalidValue else .ok text

/-- The format of that name. -/
def formatOf (text : String) : Except UsageError Format :=
  match Format.ofName? text with
  | some format => .ok format
  | none => .error .invalidValue

/-- The value of a list of decimal digits after the digits that make `n`. -/
def decimalFrom? (n : Nat) : List Char → Option Nat
  | [] => some n
  | c :: rest => if c.isDigit then decimalFrom? (10 * n + (c.toNat - 48)) rest else none

/-- The greatest number that can be asked for. -/
def greatestNumber : Nat :=
  18446744073709551615

/-- A number in decimal digits after an optional plus sign. -/
def numberOf (text : String) : Except UsageError Nat :=
  let digits := match text.toList with
    | '+' :: rest => rest
    | digits => digits
  match digits.isEmpty, decimalFrom? 0 digits with
  | false, some n => if n ≤ greatestNumber then .ok n else .error (.notANumber text)
  | _, _ => .error (.notANumber text)

/-- The value of a parameter that has not been given before. -/
def once {α : Type} (earlier : Option α) (read : String → Except UsageError α)
    (value : Option String) : Except UsageError (Option α) :=
  match value, earlier with
  | none, _ => .error .invalidValue
  | some _, some _ => .error .repeated
  | some text, none => (read text).map some

namespace Given

/-- Takes in the value of a parameter, or that it has none. -/
def take (g : Given) (p : Parameter) (value : Option String) : Except UsageError Given :=
  match p with
  | .projectPath => (once g.projectPath pathOf value).map fun v => { g with projectPath := v }
  | .format => (once g.format formatOf value).map fun v => { g with format := v }
  | .outputDirectory =>
    (once g.outputDirectory pathOf value).map fun v => { g with outputDirectory := v }
  | .sentinel => (once g.sentinel .ok value).map fun v => { g with sentinel := v }
  | .levelCap => (once g.levelCap numberOf value).map fun v => { g with levelCap := v }

/-- Takes in a flag. -/
def raise (g : Given) : Flag → Except UsageError Given
  | .toTerminal => if g.toTerminal then .error .repeated else .ok { g with toTerminal := true }
  | .lenient => if g.lenient then .error .repeated else .ok { g with lenient := true }
  | .verbose => if g.verbose then .error .repeated else .ok { g with verbose := true }
  | .help => .error .helpAsked
  | .version => .error .versionAsked

/-- The request, which must have a project path. -/
def request (g : Given) : Except UsageError Request :=
  match g.projectPath with
  | none => .error .pathMissing
  | some projectPath => .ok {
      projectPath
      format := g.format.getD .yaml
      outputDirectory := g.outputDirectory.getD "."
      toTerminal := g.toTerminal
      sentinel := g.sentinel.getD defaultSentinel
      levelCap := g.levelCap.getD defaultLevelCap
      lenient := g.lenient
      verbose := g.verbose }

end Given

/-! ## Arguments -/

/-- How far the command line has been read. -/
structure State where
  given : Given := {}
  /-- A parameter that has been named and not been looked at, with its value if that has come. -/
  pending : Option (Parameter × Option String) := none
  /-- Whether all further arguments are project paths. -/
  optionsEnded : Bool := false
deriving DecidableEq, Repr

namespace State

/-- Looks at the parameter that is pending. -/
def resolve (s : State) : Except UsageError State :=
  match s.pending with
  | none => .ok s
  | some (p, value) => (s.given.take p value).map fun given => { s with given, pending := none }

/-- Reads an option with the value that stands in the same argument. -/
def option (s : State) (argument : String) (kind : Option OptionKind) (attached : Option String) :
    Except UsageError State :=
  match kind, attached with
  | none, _ => .error (.unknownArgument argument)
  | some (.valued p), none => do
    let s ← s.resolve
    return { s with pending := some (p, none) }
  | some (.valued p), some value => do
    let s ← s.resolve
    let given ← s.given.take p (some value)
    return { s with given }
  | some (.plain _), some value => .error (.unwantedValue value)
  | some (.plain f), none => do
    let s ← s.resolve
    let given ← s.given.raise f
    return { s with given }

/-- Reads the short options of an argument. The first one that has a value takes what follows it,
less an equals sign. -/
def cluster (s : State) (argument : String) : List Char → Except UsageError State
  | [] => .ok s
  | c :: rest =>
    match OptionKind.ofShort? c with
    | some (.valued p) =>
      let attached := match rest with
        | [] => none
        | '=' :: value => some (String.ofList value)
        | value => some (String.ofList value)
      s.option argument (some (.valued p)) attached
    | kind => do
      let s ← s.option argument kind none
      s.cluster argument rest

/-- Reads a project path; there is only one. -/
def positional (s : State) (argument : String) : Except UsageError State :=
  if s.given.projectPath.isSome || (s.pending.map Prod.fst) == some .projectPath then
    .error (.unknownArgument argument)
  else do
    let s ← s.resolve
    return { s with pending := some (.projectPath, some argument) }

/-- A long option up to the equals sign, and the value after it. -/
def splitValue (name : List Char) : String × Option String :=
  match name.dropWhile (· != '=') with
  | [] => (String.ofList name, none)
  | _ :: value => (String.ofList (name.takeWhile (· != '=')), some (String.ofList value))

/-- Reads an argument. -/
def read (s : State) (argument : String) : Except UsageError State :=
  if s.optionsEnded then s.positional argument
  else
    match argument.toList with
    | ['-', '-'] => .ok { s with optionsEnded := true }
    | '-' :: '-' :: name =>
      let (name, value) := splitValue name
      s.option argument (OptionKind.ofLong? name) value
    | '-' :: c :: rest => s.cluster argument (c :: rest)
    | _ =>
      match s.pending with
      | some (p, none) => .ok { s with pending := some (p, some argument) }
      | _ => s.positional argument

end State

/-- The request that a list of arguments makes; the name of the program is not among them. -/
def Request.ofArguments (arguments : List String) : Except UsageError Request := do
  let s ← arguments.foldlM State.read {}
  let s ← s.resolve
  s.given.request

end ApiNotes.CommandLine
