import Protogen.CommandLine.Arguments
import Protogen.Pipeline
import Protogen.Text.Blank

/-!
# The configuration of a run

Arguments become a configuration if there is a key and a dataset and every path
mapping has two sides. The first fault counts, the mappings in the order in which
they are given.
-/

namespace Protogen

namespace CommandLine

open Text

inductive MappingFault
  | noSeparator
  | emptySide
  deriving DecidableEq, Repr

def MappingFault.message : MappingFault → String
  | noSeparator => "expected PROTO=RUST"
  | emptySide => "both the proto path and the Rust path must be non-empty"

inductive ConfigurationError
  | noApiKey
  | noDataset
  | badMapping (text : String) (fault : MappingFault)
  deriving DecidableEq, Repr

def ConfigurationError.message : ConfigurationError → String
  | noApiKey => "an API key is required"
  | noDataset => "a dataset slug is required"
  | badMapping text fault => "invalid --extern-path " ++ quoted text ++ ": " ++ fault.message

/-- The two sides of a path mapping. -/
def parseMapping (text : String) : Except MappingFault (String × String) :=
  match splitAtEquals? text with
  | none => .error .noSeparator
  | some (proto, path) =>
    if (trim proto).toList.all (· = '.') || (trim path).isEmpty then .error .emptySide
    else .ok (trim proto, trim path)

/-- The mapping with further entries. -/
def extend (mapping : PathMapping) : List String → Except ConfigurationError PathMapping
  | [] => .ok mapping
  | text :: texts =>
    match parseMapping text with
    | .ok (proto, path) => extend (mapping.insert proto path) texts
    | .error fault => .error (.badMapping text fault)

structure Configuration where
  apiKey : String
  dataset : String
  endpoint : String
  plugin? : Option String
  mapping : PathMapping
  options : Options
  deriving DecidableEq, Repr

def Configuration.ofArguments (a : Arguments) : Except ConfigurationError Configuration :=
  if isBlankText a.apiKey then .error .noApiKey
  else if isBlankText a.dataset then .error .noDataset
  else do
    let mapping ← extend PathMapping.standard a.pathMappings
    .ok ⟨a.apiKey, trim a.dataset, a.endpoint, a.plugin?, mapping,
      ⟨Overrides.ofTexts (some a.package) a.name?, a.out, a.pluginOption?⟩⟩

end CommandLine

end Protogen
