import Protogen.Descriptor.Record
import Protogen.Wire.Decode

/-!
# Requests and responses

What a code generator is asked and what it answers. A generator says in its
answer that it failed; a failure to get an answer at all is not part of it.
-/

namespace Protogen

open Descriptor Wire

/-- The version of the program that asks. -/
structure CompilerVersion where
  major? : Option Int32
  minor? : Option Int32
  patch? : Option Int32
  suffix? : Option String
  deriving DecidableEq, Repr

structure GeneratorRequest where
  filesToGenerate : List String
  parameter? : Option String
  files : List FileDescriptor
  compilerVersion? : Option CompilerVersion

/-- A stretch of a generated file and the element of the schema it belongs to. -/
structure CodeSpan where
  path : List Int32
  sourceFile? : Option String
  first? : Option Int32
  stop? : Option Int32
  deriving DecidableEq, Repr

structure GeneratedFile where
  name? : Option String
  insertionPoint? : Option String
  content? : Option String
  spans? : Option (List CodeSpan)
  deriving DecidableEq, Repr

namespace GeneratedFile

def name (f : GeneratedFile) : String := f.name?.getD ""

def content (f : GeneratedFile) : String := f.content?.getD ""

end GeneratedFile

structure GeneratorResponse where
  error? : Option String
  supportedFeatures? : Option UInt64
  files : List GeneratedFile
  deriving DecidableEq, Repr

namespace CompilerVersion

def toRecord (v : CompilerVersion) : Record :=
  Record.ofInt32? 1 v.major? ++ Record.ofInt32? 2 v.minor? ++ Record.ofInt32? 3 v.patch? ++
    Record.ofText? 4 v.suffix?

def ofRecord (r : Record) : CompilerVersion := ⟨r.int32? 1, r.int32? 2, r.int32? 3, r.text? 4⟩

end CompilerVersion

namespace GeneratorRequest

def toRecord (q : GeneratorRequest) : Record :=
  Record.ofTexts 1 q.filesToGenerate ++ Record.ofText? 2 q.parameter? ++
    Record.ofMessage? 3 (q.compilerVersion?.map CompilerVersion.toRecord) ++
    Record.ofMessages 15 (q.files.map FileDescriptor.toRecord)

def ofRecord (r : Record) : GeneratorRequest :=
  ⟨r.texts 1, r.text? 2, (r.messages 15).map FileDescriptor.ofRecord,
   (r.message? 3).map CompilerVersion.ofRecord⟩

def encode (q : GeneratorRequest) : List UInt8 := q.toRecord.encode

def decode (bs : List UInt8) : Except DecodeError GeneratorRequest :=
  (Wire.decode .generatorRequest bs).map ofRecord

end GeneratorRequest

namespace CodeSpan

def toRecord (s : CodeSpan) : Record :=
  Record.ofPacked 1 s.path ++ Record.ofText? 2 s.sourceFile? ++ Record.ofInt32? 3 s.first? ++
    Record.ofInt32? 4 s.stop?

def ofRecord (r : Record) : CodeSpan := ⟨r.int32s 1, r.text? 2, r.int32? 3, r.int32? 4⟩

end CodeSpan

namespace GeneratedFile

def spansRecord (spans : List CodeSpan) : Record :=
  Record.ofMessages 1 (spans.map CodeSpan.toRecord)

def toRecord (f : GeneratedFile) : Record :=
  Record.ofText? 1 f.name? ++ Record.ofText? 2 f.insertionPoint? ++ Record.ofText? 15 f.content? ++
    Record.ofMessage? 16 (f.spans?.map spansRecord)

def ofRecord (r : Record) : GeneratedFile :=
  ⟨r.text? 1, r.text? 2, r.text? 15,
   (r.message? 16).map fun spans => (spans.messages 1).map CodeSpan.ofRecord⟩

end GeneratedFile

namespace GeneratorResponse

def toRecord (a : GeneratorResponse) : Record :=
  Record.ofText? 1 a.error? ++ Record.ofUInt64? 2 a.supportedFeatures? ++
    Record.ofMessages 15 (a.files.map GeneratedFile.toRecord)

def ofRecord (r : Record) : GeneratorResponse :=
  ⟨r.text? 1, r.uint64? 2, (r.messages 15).map GeneratedFile.ofRecord⟩

def encode (a : GeneratorResponse) : List UInt8 := a.toRecord.encode

def decode (bs : List UInt8) : Except DecodeError GeneratorResponse :=
  (Wire.decode .generatorResponse bs).map ofRecord

end GeneratorResponse

end Protogen
