import Protogen.Descriptor.Record
import Protogen.Wire.Decode

/-!
# Datasets in the catalog

What the catalog is asked, and what it knows of a dataset: of interest is the
descriptor set of its type. Texts and bytes of these messages are never absent,
so empty ones are not written.
-/

namespace Protogen

namespace Catalog

open Descriptor Wire

structure UniqueId where
  bytes : List UInt8
  deriving DecidableEq, Repr

structure AnnotatedType where
  files? : Option (List FileDescriptor)
  url : String

structure Dataset where
  id? : Option UniqueId
  groupId? : Option UniqueId
  type? : Option AnnotatedType
  codeName : String
  name : String

namespace UniqueId

def toRecord (id : UniqueId) : Record := Record.ofPlainBytes 1 id.bytes

def ofRecord (r : Record) : UniqueId := ⟨(r.bytes? 1).getD []⟩

end UniqueId

def fileSetRecord (files : List FileDescriptor) : Record :=
  Record.ofMessages 1 (files.map FileDescriptor.toRecord)

def fileSetOfRecord (r : Record) : List FileDescriptor :=
  (r.messages 1).map FileDescriptor.ofRecord

namespace AnnotatedType

def toRecord (t : AnnotatedType) : Record :=
  Record.ofMessage? 1 (t.files?.map fileSetRecord) ++ Record.ofPlainText 2 t.url

def ofRecord (r : Record) : AnnotatedType :=
  ⟨(r.message? 1).map fileSetOfRecord, (r.text? 2).getD ""⟩

end AnnotatedType

namespace Dataset

def toRecord (d : Dataset) : Record :=
  Record.ofMessage? 1 (d.id?.map UniqueId.toRecord) ++
    Record.ofMessage? 2 (d.groupId?.map UniqueId.toRecord) ++
    Record.ofMessage? 3 (d.type?.map AnnotatedType.toRecord) ++
    Record.ofPlainText 4 d.codeName ++ Record.ofPlainText 5 d.name

def ofRecord (r : Record) : Dataset :=
  ⟨(r.message? 1).map UniqueId.ofRecord, (r.message? 2).map UniqueId.ofRecord,
   (r.message? 3).map AnnotatedType.ofRecord, (r.text? 4).getD "", (r.text? 5).getD ""⟩

def encode (d : Dataset) : List UInt8 := d.toRecord.encode

def decode (bs : List UInt8) : Except DecodeError Dataset := (Wire.decode .dataset bs).map ofRecord

/-- The descriptor set of the dataset's type. -/
def files? (d : Dataset) : Option (List FileDescriptor) := d.type?.bind AnnotatedType.files?

end Dataset

/-- The question for the dataset of a slug. -/
def encodeQuestion (slug : String) : List UInt8 := Record.encode (Record.ofPlainText 1 slug)

end Catalog

end Protogen
