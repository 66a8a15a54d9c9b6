import Protogen.Main
import Protogen.Proofs.Generator.Collisions
import Protogen.Proofs.Generator.Containment
import Protogen.Proofs.Generator.LocalPaths
import Protogen.Proofs.Generator.Lookup
import Protogen.Proofs.Overrides.SelfContained
import Protogen.Proofs.Pipeline.Contract
import Protogen.Proofs.Request.FirstBreach
import Protogen.Proofs.Generator.TypePaths
import Protogen.Proofs.PathMapping
import Protogen.Proofs.Generator.MappedPaths
import Protogen.Proofs.Generator.Forms
import Protogen.Proofs.Generator.NamedTypes
import Protogen.Proofs.Request.Entered
import Protogen.Proofs.Generator.HiddenTypes
import Protogen.Proofs.Generator.Header
import Protogen.Proofs.Generator.FileOrder
import Protogen.Proofs.Files.Components
import Protogen.Proofs.Files.Confinement
import Protogen.Proofs.Files.Growth
import Protogen.Proofs.Files.Separation
import Protogen.Proofs.Name.Artifact
import Protogen.Proofs.Pipeline.Artifacts
import Protogen.Proofs.Wire.RoundTrip
import Protogen.Proofs.Wire.Parts
import Protogen.Proofs.Descriptor.RoundTrip
import Protogen.Proofs.Catalog.Fetch
import Protogen.Proofs.Files.Replacement
import Protogen.Proofs.Overrides.Composed
import Protogen.Proofs.Generator.EnumVariants
import Protogen.Proofs.PathMapping.Inserts
import Protogen.Proofs.Text.Lines
import Protogen.Proofs.Generator.DocLines
import Protogen.Proofs.Generator.ReferenceKinds
import Protogen.Proofs.Generator.Documentation
import Protogen.Proofs.Generator.MappedReferences
import Protogen.Proofs.Generator.KnownTypes
import Protogen.Proofs.Request.Resolution
import Protogen.Proofs.CommandLine.Mappings
import Protogen.Proofs.Descriptor.Fallback
import Protogen.Proofs.Overrides.Commented
import Protogen.Proofs.Plugin.Session
import Protogen.Proofs.Json.Tokens
import Protogen.Proofs.Plugin.Transport
import Protogen.Proofs.Json.Grammar
import Protogen.Proofs.Text.Lossy
import Protogen.Proofs.Catalog.Diagnostics
import Protogen.Proofs.Name.CaseStyles
import Protogen.Proofs.Name.Legal
import Protogen.Proofs.Name.Variants
import Protogen.Proofs.Files.FailedWrites
