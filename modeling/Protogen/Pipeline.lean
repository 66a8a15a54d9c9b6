import Protogen.Event
import Protogen.Failure
import Protogen.Generator.Backend
import Protogen.WellKnown

/-!
# The pipeline

From a fetched descriptor set to a written file: the only file of the set gets its
overrides and is put into a request together with the well-known files, a
generator answers the request, and the first file of the answer is written. A generator sees the
request of a run at most once, and the tree is touched in the last stage only.

A run is a value. It says what came out, what was reported, which requests the
generator saw and what the tree looks like afterwards.
-/

namespace Protogen

open Catalog Descriptor Files

/-- Whatever answers requests, or fails to and says why. -/
abbrev GeneratorService := GeneratorRequest → Except String GeneratorResponse

/-- The built-in generator, which always answers. -/
def Generator.service (mapping : PathMapping) : GeneratorService := fun request =>
  .ok (Generator.respond mapping request)

/-- The settings of a run. -/
structure Options where
  overrides : Overrides
  out : String
  parameter? : Option String
  deriving DecidableEq, Repr

/-- A run that has come to its end. The result is the path of the written
file. -/
structure Run where
  result : Except Failure String
  events : List Event
  requests : List GeneratorRequest
  tree : Tree

namespace Run

/-- The run as it ends with a failure. -/
def failed (failure : Failure) (tree : Tree) : Run := ⟨.error failure, [], [], tree⟩

/-- The run with something reported before everything else. -/
def reporting (events : List Event) (run : Run) : Run := { run with events := events ++ run.events }

/-- The run with a request that was made before everything else. -/
def asking (request : GeneratorRequest) (run : Run) : Run :=
  { run with requests := request :: run.requests }

end Run

namespace GeneratorResponse

/-- The first file of an answer, if it is no failure. -/
def firstFile (response : GeneratorResponse) : Except Failure GeneratedFile :=
  match response.error?, response.files with
  | some error, _ => .error (.ungenerated error)
  | none, [] => .error (.ungenerated "backend returned no files")
  | none, file :: _ => .ok file

/-- The reports on the files of an answer that are not used. -/
def discarded (response : GeneratorResponse) : List Event :=
  if response.error?.isSome then []
  else response.files.tail.map fun file => .fileDiscarded file.name

end GeneratorResponse

namespace Pipeline

def write (out : String) (file : GeneratedFile) (device : Device) (tree : Tree) : Run :=
  match file.writeBelow out device tree with
  | (after, .ok path) => ⟨.ok path, [.fileWritten path], [], after⟩
  | (after, .error e) => .failed (.unwritten e) after

def answered (out : String) (response : GeneratorResponse) (device : Device) (tree : Tree) :
    Run :=
  match response.firstFile with
  | .ok file => (write out file device tree).reporting response.discarded
  | .error failure => .failed failure tree

def asked (service : GeneratorService) (out : String) (request : GeneratorRequest)
    (device : Device) (tree : Tree) : Run :=
  match service request with
  | .ok response => (answered out response device tree).asking request
  | .error text => (Run.failed (.ungenerated text) tree).asking request

/-- The run from the file with its overrides on. -/
def prepared (service : GeneratorService) (options : Options) (file : FileDescriptor)
    (device : Device) (tree : Tree) : Run :=
  match Request.build file.name (WellKnown.assemble file) options.parameter? with
  | .ok request =>
    (asked service options.out request device tree).reporting
      [.requestBuilt file.name request.files.length]
  | .error e => .failed (.invalid e) tree

/-- The run from the descriptor set on. -/
def fetched (service : GeneratorService) (options : Options) (files : List FileDescriptor)
    (device : Device) (tree : Tree) : Run :=
  match soleFile files >>= options.overrides.apply with
  | .ok file =>
    (prepared service options file device tree).reporting
      [.descriptorPrepared file.name file.package]
  | .error e => .failed (.malformed e) tree

/-- The run for the dataset of a slug, given what fetching it gives. -/
def run (service : GeneratorService) (options : Options) (slug : String)
    (fetching : Except FetchError (List FileDescriptor)) (device : Device) (tree : Tree) : Run :=
  match fetching with
  | .ok files =>
    (fetched service options files device tree).reporting [.descriptorFetched slug files.length]
  | .error e => .failed (.unfetched slug e) tree

end Pipeline

end Protogen
