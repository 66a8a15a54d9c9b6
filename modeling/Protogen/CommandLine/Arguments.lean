/-!
# Arguments

A setting is given as `--name value` or `--name=value`. Only the second form
takes a value that begins with a dash. A value that stands alone is settled when
the next setting comes or the arguments end, so an argument that is not known is
reported before a fault of the value in front of it.
-/

namespace Protogen

namespace CommandLine

/-- The first fault of the arguments, or what they ask for instead of a run. -/
inductive UsageError
  | help
  | version
  | nothingGiven
  | missingRequired
  | unknownArgument
  | repeated
  | invalidValue
  | unexpectedValue
  deriving DecidableEq, Repr

inductive Setting
  | apiKey
  | dataset
  | out
  | package
  | name
  | endpoint
  | plugin
  | pluginOption
  | pathMapping
  deriving DecidableEq, Repr

namespace Setting

def all : List (String × Setting) :=
  [("api-key", apiKey), ("dataset", dataset), ("out", out), ("package", package), ("name", name),
   ("endpoint", endpoint), ("plugin", plugin), ("plugin-opt", pluginOption),
   ("extern-path", pathMapping)]

def ofName? (s : String) : Option Setting := all.lookup s

def mayRepeat (s : Setting) : Bool := s = pathMapping

/-- Paths must not be empty. -/
def isPath (s : Setting) : Bool := s = out || s = plugin

end Setting

/-- A text before and behind its first equals sign. -/
def splitAtEquals? (s : String) : Option (String × String) :=
  match s.toList.dropWhile (· != '=') with
  | [] => none
  | _ :: behind => some (String.ofList (s.toList.takeWhile (· != '=')), String.ofList behind)

/-- How far the arguments are read. -/
structure Progress where
  given : List (Setting × String)
  /-- The last setting, if its value stands alone, and that value once it is
  there. -/
  pending? : Option (Setting × Option String)
  deriving DecidableEq, Repr

namespace Progress

def blank : Progress := ⟨[], none⟩

def give (p : Progress) (s : Setting) (value : String) : Except UsageError Progress :=
  if !s.mayRepeat && p.given.any (fun g => g.1 = s) then .error .repeated
  else if s.isPath && value.isEmpty then .error .invalidValue
  else .ok ⟨p.given ++ [(s, value)], none⟩

def settle (p : Progress) : Except UsageError Progress :=
  match p.pending? with
  | none => .ok p
  | some (_, none) => .error .invalidValue
  | some (s, some value) => p.give s value

/-- A request for something other than a run. The value before it is settled
first. -/
def instead (p : Progress) (what : UsageError) : Except UsageError Progress :=
  p.settle >>= fun _ => .error what

/-- Reads an argument that begins with two dashes, from behind them. -/
def long (p : Progress) (argument : String) : Except UsageError Progress :=
  let (name, value?) := match splitAtEquals? argument with
    | some (name, value) => (name, some value)
    | none => (argument, none)
  if name = "help" || name = "version" then
    if value?.isSome then .error .unexpectedValue
    else p.instead (if name = "help" then .help else .version)
  else match Setting.ofName? name with
    | none => .error .unknownArgument
    | some s => do
      let settled ← p.settle
      match value? with
      | some value => settled.give s value
      | none => .ok ⟨settled.given, some (s, none)⟩

/-- Reads an argument that begins with one dash, from behind it. -/
def short (p : Progress) : List Char → Except UsageError Progress
  | 'h' :: _ => p.instead .help
  | 'V' :: _ => p.instead .version
  | _ => .error .unknownArgument

/-- Reads an argument without a dash, which must be the value awaited. -/
def plain (p : Progress) (argument : String) : Except UsageError Progress :=
  match p.pending? with
  | some (s, none) => .ok ⟨p.given, some (s, some argument)⟩
  | _ => .error .unknownArgument

def argument (p : Progress) (argument : String) : Except UsageError Progress :=
  match argument.toList with
  | '-' :: '-' :: rest => p.long (String.ofList rest)
  | '-' :: c :: rest => p.short (c :: rest)
  | _ => p.plain argument

/-- Reads all arguments. Nothing may stand behind a double dash. -/
def arguments (p : Progress) : List String → Except UsageError Progress
  | [] => p.settle
  | argument :: rest =>
    if argument = "--" then
      if rest.isEmpty then p.settle else .error .unknownArgument
    else p.argument argument >>= fun next => next.arguments rest

end Progress

/-- The settings as they are given by arguments and environment. -/
structure Arguments where
  apiKey : String
  dataset : String
  out : String
  package : String
  name? : Option String
  endpoint : String
  plugin? : Option String
  pluginOption? : Option String
  pathMappings : List String
  deriving DecidableEq, Repr

/-- The variables of the environment that stand in for arguments. -/
structure Environment where
  apiKey? : Option String
  endpoint? : Option String
  deriving DecidableEq, Repr

namespace Arguments

def defaultOut : String := "protogen"

def defaultPackage : String := "tilebox.v1"

def ofGiven (environment : Environment) (defaultEndpoint : String)
    (given : List (Setting × String)) : Except UsageError Arguments :=
  match (given.lookup .apiKey).or environment.apiKey?, given.lookup .dataset with
  | some apiKey, some dataset =>
    .ok ⟨apiKey, dataset, (given.lookup .out).getD defaultOut,
      (given.lookup .package).getD defaultPackage, given.lookup .name,
      ((given.lookup .endpoint).or environment.endpoint?).getD defaultEndpoint,
      given.lookup .plugin, given.lookup .pluginOption,
      given.filterMap fun (s, value) => if s = .pathMapping then some value else none⟩
  | _, _ =>
    if given.isEmpty && environment = ⟨none, none⟩ then .error .nothingGiven
    else .error .missingRequired

def read (environment : Environment) (defaultEndpoint : String) (arguments : List String) :
    Except UsageError Arguments := do
  let p ← Progress.blank.arguments arguments
  ofGiven environment defaultEndpoint p.given

end Arguments

end CommandLine

end Protogen
