import Protogen.Exchange
import Protogen.Generator.Message
import Protogen.Name.SchemaPath
import Protogen.Source.Render

/-!
# The built-in generator

Answers a request by itself: every file asked for is looked up among the files
of the request and written out. The first failure is the whole answer.
-/

namespace Protogen

namespace Generator

open Descriptor Name Source

/-- The items of the messages at the top of a file. -/
def rootItems (ctx : Context) : List MessageDescriptor → Generated (List Item)
  | [] => .ok []
  | m :: ms => do
    let first ← ctx.messageItems m.name 0 m
    let rest ← rootItems ctx ms
    .ok (first ++ rest)

/-- The items of a file. -/
def fileItems (file : FileDescriptor) (types : TypeIndex) (mapping : PathMapping) :
    Generated (List Item) :=
  match Edition.ofName? file.syntaxName with
  | none => .error (.unsupportedSyntax file.syntaxName file.name)
  | some edition => do
    let ctx : Context := ⟨file.name, types, mapping, Comments.ofFile file, edition⟩
    let messages ← rootItems ctx file.messages
    let enums ← file.enums.mapM fun e => ctx.enumItem e.name e
    .ok (messages ++ enums)

/-- The text generated for a file. The name of an enum variant must not be the
keyword for the enum itself, the only keyword that a converted name can be. -/
def fileText (file : FileDescriptor) (types : TypeIndex) (mapping : PathMapping) :
    Generated String := do
  let items ← fileItems file types mapping
  if anyHasEnumVariant "Self" items then .error .selfVariant
  else .ok (renderFile file.name items)

def generatedFile (request : GeneratorRequest) (mapping : PathMapping) (name : String) :
    Generated GeneratedFile :=
  match request.files.find? fun f => f.name == name with
  | none => .error (.missingFile name)
  | some file => do
    let text ← fileText file (TypeIndex.ofFiles request.files) mapping
    .ok ⟨some (outputFile name), none, some text, none⟩

/-- The answer of the built-in generator, which supports optional fields. -/
def respond (mapping : PathMapping) (request : GeneratorRequest) : GeneratorResponse :=
  match request.filesToGenerate.mapM (generatedFile request mapping) with
  | .ok files => ⟨none, some 1, files⟩
  | .error e => ⟨some e.message, none, []⟩

end Generator

end Protogen
