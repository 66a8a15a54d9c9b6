import Protogen.Catalog.Client
import Protogen.CommandLine.Configuration
import Protogen.Plugin
import Protogen.Verbosity

/-!
# One invocation of the program

The arguments are read, the dataset is fetched, and the pipeline runs with the
built-in generator or a plugin. What the program has to do with is given as
functions: the catalog that answers a request and the programs that can be
started.
-/

namespace Protogen

open Catalog CommandLine Files

/-- What surrounds the program. -/
structure Surroundings where
  environment : Environment
  /-- The rules of the verbosity, if there are any. -/
  verbosity? : Option String
  ask : HttpRequest → Reply
  start : String → Except OsError Plugin.Program
  device : Device
  tree : Tree

structure Outcome where
  exitCode : Nat
  output : String
  events : List Event
  request? : Option HttpRequest
  tree : Tree

def Outcome.lines (o : Outcome) (v : Verbosity) : List String :=
  (o.events.filter v.shows).map Event.line

namespace Invocation

def programName : String := "tilebox-generate"

def programVersion : String := "0.1.0"

/-- The generator that a configuration asks for. -/
def service (start : String → Except OsError Plugin.Program) (c : Configuration) :
    GeneratorService :=
  match c.plugin? with
  | none => Generator.service c.mapping
  | some plugin => fun request =>
    (Plugin.generate plugin (start plugin) request).mapError Plugin.PluginError.message

def verbosity (s : Surroundings) : Verbosity :=
  (s.verbosity?.map Verbosity.ofText).getD .standard

/-- The end of an invocation with a run. -/
def finished (fetched : Fetched) (request? : Option HttpRequest) (run : Run) : Outcome :=
  match run.result with
  | .ok _ => ⟨0, "", fetched.events ++ run.events, request?, run.tree⟩
  | .error f =>
    ⟨1, "", fetched.events ++ run.events ++ [.generationFailed f.report], request?, run.tree⟩

def configured (s : Surroundings) (c : Configuration) : Outcome :=
  let client := Client.ofEndpoint c.endpoint c.apiKey
  let fetched := client.fetch s.ask c.dataset
  finished fetched (client.sent? c.dataset)
    (Pipeline.run (service s.start c) c.options c.dataset fetched.result s.device s.tree)

/-- The end of an invocation without a run. -/
def refused (s : Surroundings) : UsageError → Outcome
  | .help => ⟨0, "", [], none, s.tree⟩
  | .version => ⟨0, programName ++ " " ++ programVersion ++ "\n", [], none, s.tree⟩
  | _ => ⟨2, "", [], none, s.tree⟩

def run (s : Surroundings) (arguments : List String) : Outcome :=
  match Arguments.read s.environment Client.defaultEndpoint arguments with
  | .error e => refused s e
  | .ok a =>
    match Configuration.ofArguments a with
    | .error e => ⟨1, "", [.invalidConfiguration e.message], none, s.tree⟩
    | .ok c => configured s c

end Invocation

end Protogen
