import Protogen.Descriptor.Record
import Protogen.Link.Lookup
import Protogen.Wire.Decode

/-!
# Options as messages

A set of files may define the messages that options are, and then every option
that is set has to be readable as a field of its message. A field is found by its
number among the fields of the message and then among the extensions of it; an
option without a field is passed over. What the options say plays no part here,
and those that no tool has interpreted are not interpreted here either.
-/

namespace Protogen

namespace Link

open Descriptor Name Wire

/-- Options of one kind, as they travel. -/
structure OptionRecord where
  type : MessageType
  record : Record

def fieldOptions (f : FieldDescriptor) : List OptionRecord :=
  f.options?.toList.map fun o => ⟨.fieldOptions, o.toRecord⟩

def oneofOptions (o : OneofDescriptor) : List OptionRecord :=
  o.options?.toList.map fun os => ⟨.oneofOptions, PlainOptions.toRecord os⟩

def extensionRangeOptions (r : ExtensionRange) : List OptionRecord :=
  r.options?.toList.map fun os => ⟨.extensionRangeOptions, PlainOptions.toRecord os⟩

def enumValueOptions (v : EnumValueDescriptor) : List OptionRecord :=
  v.options?.toList.map fun o => ⟨.enumValueOptions, o.toRecord 1⟩

def enumOptions (e : EnumDescriptor) : List OptionRecord :=
  e.options?.toList.map (fun o => ⟨.enumOptions, o.toRecord⟩) ++ e.values.flatMap enumValueOptions

mutual

def messageOptions : MessageDescriptor → List OptionRecord
  | ⟨m, nested⟩ =>
    m.options?.toList.map (fun o => ⟨.messageOptions, o.toRecord⟩) ++
      m.extensionRanges.flatMap extensionRangeOptions ++ m.fields.flatMap fieldOptions ++
      m.oneofs.flatMap oneofOptions ++ m.enums.flatMap enumOptions ++
      m.extensions.flatMap fieldOptions ++ messagesOptions nested

def messagesOptions : List MessageDescriptor → List OptionRecord
  | [] => []
  | m :: ms => messageOptions m ++ messagesOptions ms

end

def methodOptions (m : MethodDescriptor) : List OptionRecord :=
  m.options?.toList.map fun o => ⟨.methodOptions, o.toRecord⟩

def serviceOptions (s : ServiceDescriptor) : List OptionRecord :=
  s.options?.toList.map (fun o => ⟨.serviceOptions, o.toRecord 33⟩) ++
    s.methods.flatMap methodOptions

/-- All options that a file sets. -/
def fileOptions (file : FileDescriptor) : List OptionRecord :=
  file.options?.toList.map (fun o => ⟨.fileOptions, o.toRecord⟩) ++
    messagesOptions file.messages ++ file.enums.flatMap enumOptions ++
    file.services.flatMap serviceOptions ++ file.extensions.flatMap fieldOptions

/-- An extension with its file and the scope that it is declared in. -/
structure ScopedExtension where
  file : FileDescriptor
  scope : String
  field : FieldDescriptor

mutual

def messageExtensions (file : FileDescriptor) (scope : String) :
    MessageDescriptor → List ScopedExtension
  | ⟨m, nested⟩ =>
    messagesExtensions file (inScope scope m.name) nested ++
      m.extensions.map fun f => ⟨file, inScope scope m.name, f⟩

def messagesExtensions (file : FileDescriptor) (scope : String) :
    List MessageDescriptor → List ScopedExtension
  | [] => []
  | m :: ms => messageExtensions file scope m ++ messagesExtensions file scope ms

end

def fileExtensions (file : FileDescriptor) : List ScopedExtension :=
  messagesExtensions file file.package file.messages ++
    file.extensions.map fun f => ⟨file, file.package, f⟩

/-- Files with the table of their names. -/
structure Pool where
  files : List FileDescriptor
  table : NameTable

/-- How the values of a field are written. -/
inductive ValueForm
  | scalar (type : Scalar)
  | number
  | message (full : String)
  | group (full : String)
  | mapEntry (full : String)
  deriving DecidableEq, Repr

structure FieldForm where
  value : ValueForm
  isRepeated : Bool
  deriving DecidableEq, Repr

namespace Pool

def viewOf (pool : Pool) (file : FileDescriptor) : View :=
  ⟨pool.table, visibleFiles pool.files file⟩

def message? (pool : Pool) (full : String) : Option (FileDescriptor × MessageBody) :=
  (pool.table.find? full).bind fun d =>
    match d.kind with
    | .message m => (pool.files.find? fun f => f.name == d.file).map fun f => (f, m)
    | _ => none

/-- The form of a field that is declared in a scope of a file. -/
def form? (pool : Pool) (file : FileDescriptor) (scope : String) (f : FieldDescriptor) :
    Option FieldForm :=
  match linkType (pool.viewOf file) (inScope scope f.name) [] f with
  | .error _ => none
  | .ok (.scalar type) => some ⟨.scalar type, f.label == .repeated⟩
  | .ok (.entity full (.message m)) =>
    if f.label == .repeated && m.isMapEntry then some ⟨.mapEntry full, true⟩
    else if f.type == .group then some ⟨.group full, f.label == .repeated⟩
    else some ⟨.message full, f.label == .repeated⟩
  | .ok (.entity _ _) => some ⟨.number, f.label == .repeated⟩

def extends? (pool : Pool) (full : String) (e : ScopedExtension) : Bool :=
  match (pool.viewOf e.file).resolve .message (inScope e.scope e.field.name)
      (e.field.extendee?.getD "") with
  | .ok (extended, _) => extended == full
  | .error _ => false

/-- The field or extension of a message that has the given number. -/
def field? (pool : Pool) (full : String) (number : Nat) : Option FieldForm :=
  match pool.message? full with
  | none => none
  | some (file, m) =>
    match m.fields.find? fun f => f.number.toInt == Int.ofNat number with
    | some f => pool.form? file full f
    | none =>
      ((pool.files.flatMap fileExtensions).find? fun e =>
        e.field.number.toInt == Int.ofNat number && pool.extends? full e).bind fun e =>
          pool.form? e.file e.scope e.field

end Pool

def scalarWire : Scalar → WireType
  | .double | .fixed64 | .sfixed64 => .sixtyFourBit
  | .float | .fixed32 | .sfixed32 => .thirtyTwoBit
  | .string | .bytes => .lengthDelimited
  | .int64 | .uint64 | .int32 | .bool | .uint32 | .sint32 | .sint64 => .varint

/-- The bytes after a scalar. -/
def passScalar (type : Scalar) (bs : List UInt8) : Except DecodeError (List UInt8) :=
  match scalarWire type with
  | .sixtyFourBit => skipBytes 8 bs
  | .thirtyTwoBit => skipBytes 4 bs
  | .lengthDelimited => do
    let (value, bs) ← readDelimited bs
    if type = .string && (Text.ofUtf8? value).isNone then fails .invalidText else .ok bs
  | _ => do
    let (_, bs) ← readVarint bs
    .ok bs

/-- The bytes after scalars that end where only `stop` bytes are left. -/
def passPacked (type : Scalar) : Nat → Nat → List UInt8 → Except DecodeError (List UInt8)
  | 0, _, bs => .ok bs
  | fuel + 1, stop, bs =>
    if bs.length ≤ stop then do
      expectStop stop bs
      .ok bs
    else do
      let bs ← passScalar type bs
      passPacked type fuel stop bs

/-- The bytes after one scalar, or after a packed row of them where that is
allowed. -/
def passScalars (type : Scalar) (isRepeated : Bool) (wire : WireType) (bs : List UInt8) :
    Except DecodeError (List UInt8) :=
  if isRepeated && type.isPackable && wire = .lengthDelimited then do
    let (length, bs) ← readLength bs
    passPacked type (length + 1) (bs.length - length) bs
  else do
    expectWire wire (scalarWire type)
    passScalar type bs

mutual

/-- The bytes after a value without a field; only groups count as levels. -/
def passUnknown : Nat → Nat → Nat → WireType → List UInt8 → Except DecodeError (List UInt8)
  | 0, _, _, _, bs => .ok bs
  | fuel + 1, limit, number, wire, bs =>
    match wire with
    | .startGroup =>
      if limit = 0 then fails .recursionLimit else passUnknownGroup fuel (limit - 1) number bs
    | _ => skipValue 1 1 number wire bs

def passUnknownGroup : Nat → Nat → Nat → List UInt8 → Except DecodeError (List UInt8)
  | 0, _, _, bs => .ok bs
  | fuel + 1, limit, number, bs => do
    let (inner, wire, bs) ← readKey bs
    if wire = .endGroup then
      if inner = number then .ok bs else fails .unexpectedEndGroup
    else do
      let bs ← passUnknown fuel limit inner wire bs
      passUnknownGroup fuel limit number bs

end

namespace Pool

mutual

/-- The bytes after the value of a field, or after one that no field takes. -/
def passField (pool : Pool) :
    Nat → Option FieldForm → Nat → Nat → WireType → List UInt8 → Except DecodeError (List UInt8)
  | 0, _, _, _, _, bs => .ok bs
  | _ + 1, none, limit, number, wire, bs => passUnknown (2 * bs.length + 2) limit number wire bs
  | fuel + 1, some form, limit, number, wire, bs =>
    match form.value with
    | .scalar type => passScalars type form.isRepeated wire bs
    | .number => passScalars .int32 form.isRepeated wire bs
    | .message full => do
      expectWire wire .lengthDelimited
      if limit = 0 then fails .recursionLimit
      else do
        let (length, bs) ← readLength bs
        passEntries pool fuel full (limit - 1) (bs.length - length) bs
    | .group full => do
      expectWire wire .startGroup
      if limit = 0 then fails .recursionLimit else passGroup pool fuel full (limit - 1) number bs
    | .mapEntry full => do
      let (length, bs) ← readLength bs
      passPair pool fuel full (limit - 1) (bs.length - length) bs

/-- The bytes after the entries of a message. -/
def passEntries (pool : Pool) :
    Nat → String → Nat → Nat → List UInt8 → Except DecodeError (List UInt8)
  | 0, _, _, _, bs => .ok bs
  | fuel + 1, full, limit, stop, bs =>
    if bs.length ≤ stop then do
      expectStop stop bs
      .ok bs
    else do
      let (number, wire, bs) ← readKey bs
      let bs ← passField pool fuel (pool.field? full number) limit number wire bs
      passEntries pool fuel full limit stop bs

/-- The bytes after the entries of a group and its end. -/
def passGroup (pool : Pool) :
    Nat → String → Nat → Nat → List UInt8 → Except DecodeError (List UInt8)
  | 0, _, _, _, bs => .ok bs
  | fuel + 1, full, limit, number, bs => do
    let (inner, wire, bs) ← readKey bs
    if wire = .endGroup then
      if inner = number then .ok bs else fails .unexpectedEndGroup
    else do
      let bs ← passField pool fuel (pool.field? full inner) limit inner wire bs
      passGroup pool fuel full limit number bs

/-- The bytes after the entry of a map, of which only key and value are read. -/
def passPair (pool : Pool) :
    Nat → String → Nat → Nat → List UInt8 → Except DecodeError (List UInt8)
  | 0, _, _, _, bs => .ok bs
  | fuel + 1, full, limit, stop, bs =>
    if bs.length ≤ stop then do
      expectStop stop bs
      .ok bs
    else do
      let (number, wire, bs) ← readKey bs
      let bs ←
        if number = 1 || number = 2 then
          passField pool fuel (pool.field? full number) limit number wire bs
        else skipValue (bs.length + 1) limit number wire bs
      passPair pool fuel full limit stop bs

end

/-- Whether options can be read as the message of their type, if it is defined. -/
def reads (pool : Pool) (options : OptionRecord) : Bool :=
  match pool.message? ("google.protobuf." ++ options.type.name) with
  | none => true
  | some _ =>
    (pool.passEntries (3 * options.record.encode.length + 3)
      ("google.protobuf." ++ options.type.name) nestingLimit 0 options.record.encode).isOk

end Pool

end Link

end Protogen
