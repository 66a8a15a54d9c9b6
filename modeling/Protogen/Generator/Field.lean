import Protogen.Descriptor.Comments
import Protogen.Generator.TypeIndex
import Protogen.PathMapping
import Protogen.Source.Item

/-!
# Members of a structure

How a field becomes a member of its structure or a variant of its oneof. The
type of a message or enum field is looked up by the name that the field gives.
A type of the same file is reached by going up to the root of the file and down
again; any other type needs a mapped path. A repeated field of a map entry is a
map.
-/

namespace Protogen

namespace Generator

open Descriptor Name Source

/-- The rules of a file that decide about presence and packing. -/
inductive Edition
  | proto2
  | proto3
  | editions
  deriving DecidableEq, Repr

namespace Edition

def ofName? : String → Option Edition
  | "" | "proto2" => some proto2
  | "proto3" => some proto3
  | "editions" => some editions
  | _ => none

end Edition

/-- What the generation of a file refers to. -/
structure Context where
  fileName : String
  types : TypeIndex
  mapping : PathMapping
  comments : Comments
  edition : Edition

namespace Context

/-- The documentation of the element at a place: the lines of its comment, each
after a space. -/
def docs (ctx : Context) (place : String) : List String :=
  match ctx.comments.find? place with
  | none => []
  | some comment => (Text.lines comment).map fun line => " " ++ line

/-- The path of a type as seen from an item that lies `depth` modules deep. -/
def reference (ctx : Context) (typeName : String) (depth : Nat) : Generated Reference := do
  let info ← ctx.types.get typeName
  if info.file = ctx.fileName then
    .ok (.inFile depth (info.path.dropLast.map moduleName)
      (Name.typeName (info.path.getLast?.getD "")))
  else
    match ctx.mapping.resolve? typeName with
    | some path => .ok (.elsewhere path)
    | none => .error (.unmappedType typeName info.package)

/-- The element of a message type, whose path has to be a type. -/
def messageElement (ctx : Context) (typeName : String) (depth : Nat) : Generated Element := do
  let reference ← ctx.reference typeName depth
  match TypeExpr.parse reference.text with
  | .ok type => .ok (.message reference type)
  | .error cause => .error (.invalidPath reference.text cause)

def enumElement (ctx : Context) (typeName : String) (depth : Nat) : Generated Element := do
  let reference ← ctx.reference typeName depth
  .ok (.enumeration reference)

def expectKind (ctx : Context) (field : FieldDescriptor) (kind : TypeKind) (declared : String) :
    Generated Unit := do
  let info ← ctx.types.get field.typeName
  if info.kind = kind then .ok () else .error (.wrongKind field.name declared field.typeName)

/-- The element of a field that is not a map. -/
def element (ctx : Context) (field : FieldDescriptor) (depth : Nat) : Generated Element :=
  match field.type with
  | .message => do
    ctx.expectKind field .message "Message"
    ctx.messageElement field.typeName depth
  | .enum => do
    ctx.expectKind field .enum "Enum"
    ctx.enumElement field.typeName depth
  | .group => .error (.groupField field.name)
  | .scalar type => .ok (.scalar type)

/-- The key and the value of a field that is a map. -/
def mapFields? (ctx : Context) (field : FieldDescriptor) :
    Option (FieldDescriptor × FieldDescriptor) :=
  if field.label = .repeated ∧ field.type = .message then
    (ctx.types.find? field.typeName).bind TypeInfo.mapFields?
  else none

/-- The scalar types that the keys of a map may have. -/
def isMapKey : Scalar → Bool
  | .float | .double | .bytes => false
  | _ => true

def mapKey (field key : FieldDescriptor) : Generated Scalar :=
  match key.type with
  | .scalar type => if isMapKey type then .ok type else .error (.invalidMapKey field.name)
  | .message | .enum | .group => .error (.invalidMapKey field.name)

def mapValue (ctx : Context) (field value : FieldDescriptor) (depth : Nat) : Generated Element :=
  match value.type with
  | .message => ctx.messageElement value.typeName depth
  | .enum => ctx.enumElement value.typeName depth
  | .group => .error (.groupMapValue field.name)
  | .scalar type => .ok (.scalar type)

/-- Whether a missing single value differs from the default one. -/
def hasPresence (ctx : Context) (field : FieldDescriptor) : Bool :=
  field.type == .message || field.isProto3Optional || ctx.edition != .proto3

/-- Whether the elements of a repeated field could be packed. -/
def isPackable (field : FieldDescriptor) : Bool :=
  match field.type with
  | .scalar type => type.isPackable
  | .enum | .group => true
  | .message => false

def cardinality (ctx : Context) (field : FieldDescriptor) : Cardinality :=
  match field.label with
  | .repeated =>
    .repeated (isPackable field && ctx.edition == .proto2 && field.packed? != some true)
  | .required => .required
  | .optional => if ctx.hasPresence field then .optional else .plain

/-- The member for a field of the message at `place`. -/
def member (ctx : Context) (place : String) (field : FieldDescriptor) (depth : Nat) :
    Generated Member := do
  named (checkName field.name "field")
  let name ← named (fieldIdentifier field.name)
  let docs := ctx.docs (placeIn place field.name)
  match ctx.mapFields? field with
  | some (key, value) =>
    let key ← mapKey field key
    let value ← ctx.mapValue field value depth
    .ok (.map docs name field.number key value)
  | none =>
    let element ← ctx.element field depth
    .ok (.field docs name field.number element (ctx.cardinality field))

/-- The variant for a field of a oneof; it lies one module deeper than the
message. -/
def variant (ctx : Context) (place : String) (depth : Nat) (field : FieldDescriptor) :
    Generated Variant := do
  named (checkName field.name "field")
  let name ← named (typeIdentifier field.name)
  let element ← ctx.element field (depth + 1)
  .ok ⟨ctx.docs (placeIn place field.name), name, field.number, element⟩

end Context

end Generator

end Protogen
