import Protogen.Descriptor.Basic
import Protogen.Wire.Record

/-!
# Descriptors as records

Each descriptor has one record, in which the entries follow the numbers of the
fields, and is read back from any record of its type.
-/

namespace Protogen

namespace Descriptor

open Wire

namespace OptionNamePart

/-- Both entries are always there. -/
def toRecord (p : OptionNamePart) : Record :=
  Record.ofText? 1 (some p.text) ++ Record.ofBool? 2 (some p.isExtension)

def ofRecord (r : Record) : OptionNamePart := ⟨(r.text? 1).getD "", (r.bool? 2).getD false⟩

end OptionNamePart

namespace UninterpretedOption

def toRecord (o : UninterpretedOption) : Record :=
  Record.ofMessages 2 (o.name.map OptionNamePart.toRecord) ++ Record.ofText? 3 o.identifier? ++
    Record.ofUInt64? 4 o.positive? ++ Record.ofInt64? 5 o.negative? ++
    Record.ofDoubleBits? 6 o.doubleBits? ++ Record.ofBytes? 7 o.bytes? ++
    Record.ofText? 8 o.aggregate?

def ofRecord (r : Record) : UninterpretedOption :=
  ⟨(r.messages 2).map OptionNamePart.ofRecord, r.text? 3, r.uint64? 4, r.int64? 5,
   r.doubleBits? 6, r.bytes? 7, r.text? 8⟩

end UninterpretedOption

namespace PlainOptions

/-- The options that are not interpreted, which have the same number among options
of every kind. -/
def toRecord (os : PlainOptions) : Record :=
  Record.ofMessages 999 (os.map UninterpretedOption.toRecord)

def ofRecord (r : Record) : PlainOptions := (r.messages 999).map UninterpretedOption.ofRecord

end PlainOptions

namespace FieldOptions

def toRecord (o : FieldOptions) : Record :=
  Record.ofInt32? 1 o.stringRepresentation? ++ Record.ofBool? 2 o.packed? ++
    Record.ofBool? 3 o.deprecated? ++ Record.ofBool? 5 o.isLazy? ++
    Record.ofInt32? 6 o.numberRepresentation? ++ Record.ofBool? 10 o.weak? ++
    PlainOptions.toRecord o.uninterpreted

def ofRecord (r : Record) : FieldOptions :=
  ⟨r.int32? 1, r.bool? 2, r.bool? 3, r.bool? 5, r.int32? 6, r.bool? 10, PlainOptions.ofRecord r⟩

end FieldOptions

namespace FieldDescriptor

def toRecord (f : FieldDescriptor) : Record :=
  Record.ofText? 1 f.name? ++ Record.ofText? 2 f.extendee? ++ Record.ofInt32? 3 f.number? ++
    Record.ofInt32? 4 f.label? ++ Record.ofInt32? 5 f.type? ++ Record.ofText? 6 f.typeName? ++
    Record.ofText? 7 f.defaultValue? ++
    Record.ofMessage? 8 (f.options?.map FieldOptions.toRecord) ++
    Record.ofInt32? 9 f.oneofIndex? ++ Record.ofText? 10 f.jsonName? ++
    Record.ofBool? 17 f.proto3Optional?

def ofRecord (r : Record) : FieldDescriptor :=
  ⟨r.text? 1, r.text? 2, r.int32? 3, r.int32? 4, r.int32? 5, r.text? 6, r.text? 7,
   (r.message? 8).map FieldOptions.ofRecord, r.int32? 9, r.text? 10, r.bool? 17⟩

end FieldDescriptor

namespace OneofDescriptor

def toRecord (o : OneofDescriptor) : Record :=
  Record.ofText? 1 o.name? ++ Record.ofMessage? 2 (o.options?.map PlainOptions.toRecord)

def ofRecord (r : Record) : OneofDescriptor :=
  ⟨r.text? 1, (r.message? 2).map PlainOptions.ofRecord⟩

end OneofDescriptor

namespace DeprecationOptions

/-- The flag has one number among the options of an enum value and another one
among those of a service. -/
def toRecord (flag : Nat) (o : DeprecationOptions) : Record :=
  Record.ofBool? flag o.deprecated? ++ PlainOptions.toRecord o.uninterpreted

def ofRecord (flag : Nat) (r : Record) : DeprecationOptions :=
  ⟨r.bool? flag, PlainOptions.ofRecord r⟩

end DeprecationOptions

namespace EnumValueDescriptor

def toRecord (v : EnumValueDescriptor) : Record :=
  Record.ofText? 1 v.name? ++ Record.ofInt32? 2 v.number? ++
    Record.ofMessage? 3 (v.options?.map (DeprecationOptions.toRecord 1))

def ofRecord (r : Record) : EnumValueDescriptor :=
  ⟨r.text? 1, r.int32? 2, (r.message? 3).map (DeprecationOptions.ofRecord 1)⟩

end EnumValueDescriptor

namespace EnumOptions

def toRecord (o : EnumOptions) : Record :=
  Record.ofBool? 2 o.allowAlias? ++ Record.ofBool? 3 o.deprecated? ++
    PlainOptions.toRecord o.uninterpreted

def ofRecord (r : Record) : EnumOptions := ⟨r.bool? 2, r.bool? 3, PlainOptions.ofRecord r⟩

end EnumOptions

namespace NumberRange

def toRecord (r : NumberRange) : Record := Record.ofInt32? 1 r.start? ++ Record.ofInt32? 2 r.stop?

def ofRecord (r : Record) : NumberRange := ⟨r.int32? 1, r.int32? 2⟩

end NumberRange

namespace ExtensionRange

def toRecord (r : ExtensionRange) : Record :=
  r.range.toRecord ++ Record.ofMessage? 3 (r.options?.map PlainOptions.toRecord)

def ofRecord (r : Record) : ExtensionRange :=
  ⟨NumberRange.ofRecord r, (r.message? 3).map PlainOptions.ofRecord⟩

end ExtensionRange

namespace EnumDescriptor

def toRecord (e : EnumDescriptor) : Record :=
  Record.ofText? 1 e.name? ++ Record.ofMessages 2 (e.values.map EnumValueDescriptor.toRecord) ++
    Record.ofMessage? 3 (e.options?.map EnumOptions.toRecord) ++
    Record.ofMessages 4 (e.reservedRanges.map NumberRange.toRecord) ++
    Record.ofTexts 5 e.reservedNames

def ofRecord (r : Record) : EnumDescriptor :=
  ⟨r.text? 1, (r.messages 2).map EnumValueDescriptor.ofRecord,
   (r.message? 3).map EnumOptions.ofRecord, (r.messages 4).map NumberRange.ofRecord, r.texts 5⟩

end EnumDescriptor

namespace MessageOptions

def toRecord (o : MessageOptions) : Record :=
  Record.ofBool? 1 o.messageSetWireFormat? ++ Record.ofBool? 2 o.noStandardDescriptorAccessor? ++
    Record.ofBool? 3 o.deprecated? ++ Record.ofBool? 7 o.mapEntryFlag? ++
    PlainOptions.toRecord o.uninterpreted

def ofRecord (r : Record) : MessageOptions :=
  ⟨r.bool? 1, r.bool? 2, r.bool? 3, r.bool? 7, PlainOptions.ofRecord r⟩

end MessageOptions

namespace MessageBody

/-- The record of a message, given the records of the messages nested in it. -/
def toRecord (m : MessageBody) (nested : List Record) : Record :=
  Record.ofText? 1 m.name? ++ Record.ofMessages 2 (m.fields.map FieldDescriptor.toRecord) ++
    Record.ofMessages 3 nested ++ Record.ofMessages 4 (m.enums.map EnumDescriptor.toRecord) ++
    Record.ofMessages 5 (m.extensionRanges.map ExtensionRange.toRecord) ++
    Record.ofMessages 6 (m.extensions.map FieldDescriptor.toRecord) ++
    Record.ofMessage? 7 (m.options?.map MessageOptions.toRecord) ++
    Record.ofMessages 8 (m.oneofs.map OneofDescriptor.toRecord) ++
    Record.ofMessages 9 (m.reservedRanges.map NumberRange.toRecord) ++
    Record.ofTexts 10 m.reservedNames

def ofRecord (r : Record) : MessageBody :=
  ⟨r.text? 1, (r.messages 2).map FieldDescriptor.ofRecord,
   (r.messages 4).map EnumDescriptor.ofRecord, (r.messages 5).map ExtensionRange.ofRecord,
   (r.messages 6).map FieldDescriptor.ofRecord, (r.message? 7).map MessageOptions.ofRecord,
   (r.messages 8).map OneofDescriptor.ofRecord, (r.messages 9).map NumberRange.ofRecord,
   r.texts 10⟩

end MessageBody

namespace MessageDescriptor

mutual

def toRecord : MessageDescriptor → Record
  | ⟨body, nested⟩ => body.toRecord (toRecords nested)

def toRecords : List MessageDescriptor → List Record
  | [] => []
  | m :: ms => m.toRecord :: toRecords ms

end

/-- The message of a record that is nested at most `levels` deep. -/
def ofRecordWithin : Nat → Record → MessageDescriptor
  | 0, r => ⟨MessageBody.ofRecord r, []⟩
  | levels + 1, r => ⟨MessageBody.ofRecord r, (r.messages 3).map (ofRecordWithin levels)⟩

def ofRecord (r : Record) : MessageDescriptor := ofRecordWithin r.depth r

end MessageDescriptor

namespace MethodOptions

def toRecord (o : MethodOptions) : Record :=
  Record.ofBool? 33 o.deprecated? ++ Record.ofInt32? 34 o.idempotencyLevel? ++
    PlainOptions.toRecord o.uninterpreted

def ofRecord (r : Record) : MethodOptions :=
  ⟨r.bool? 33, r.int32? 34, PlainOptions.ofRecord r⟩

end MethodOptions

namespace MethodDescriptor

def toRecord (m : MethodDescriptor) : Record :=
  Record.ofText? 1 m.name? ++ Record.ofText? 2 m.inputType? ++ Record.ofText? 3 m.outputType? ++
    Record.ofMessage? 4 (m.options?.map MethodOptions.toRecord) ++
    Record.ofBool? 5 m.clientStreaming? ++ Record.ofBool? 6 m.serverStreaming?

def ofRecord (r : Record) : MethodDescriptor :=
  ⟨r.text? 1, r.text? 2, r.text? 3, (r.message? 4).map MethodOptions.ofRecord, r.bool? 5,
   r.bool? 6⟩

end MethodDescriptor

namespace ServiceDescriptor

def toRecord (s : ServiceDescriptor) : Record :=
  Record.ofText? 1 s.name? ++ Record.ofMessages 2 (s.methods.map MethodDescriptor.toRecord) ++
    Record.ofMessage? 3 (s.options?.map (DeprecationOptions.toRecord 33))

def ofRecord (r : Record) : ServiceDescriptor :=
  ⟨r.text? 1, (r.messages 2).map MethodDescriptor.ofRecord,
   (r.message? 3).map (DeprecationOptions.ofRecord 33)⟩

end ServiceDescriptor

namespace FileOptions

def toRecord (o : FileOptions) : Record :=
  Record.ofText? 1 o.javaPackage? ++ Record.ofText? 8 o.javaOuterClassname? ++
    Record.ofInt32? 9 o.optimizeFor? ++ Record.ofBool? 10 o.javaMultipleFiles? ++
    Record.ofText? 11 o.goPackage? ++ Record.ofBool? 16 o.ccGenericServices? ++
    Record.ofBool? 17 o.javaGenericServices? ++ Record.ofBool? 18 o.pyGenericServices? ++
    Record.ofBool? 20 o.javaGenerateEqualsAndHash? ++ Record.ofBool? 23 o.deprecated? ++
    Record.ofBool? 27 o.javaStringCheckUtf8? ++ Record.ofBool? 31 o.ccEnableArenas? ++
    Record.ofText? 36 o.objcClassPrefix? ++ Record.ofText? 37 o.csharpNamespace? ++
    Record.ofText? 39 o.swiftPrefix? ++ Record.ofText? 40 o.phpClassPrefix? ++
    Record.ofText? 41 o.phpNamespace? ++ Record.ofBool? 42 o.phpGenericServices? ++
    Record.ofText? 44 o.phpMetadataNamespace? ++ Record.ofText? 45 o.rubyPackage? ++
    PlainOptions.toRecord o.uninterpreted

def ofRecord (r : Record) : FileOptions :=
  ⟨r.text? 1, r.text? 8, r.int32? 9, r.bool? 10, r.text? 11, r.bool? 16, r.bool? 17, r.bool? 18,
   r.bool? 20, r.bool? 23, r.bool? 27, r.bool? 31, r.text? 36, r.text? 37, r.text? 39, r.text? 40,
   r.text? 41, r.bool? 42, r.text? 44, r.text? 45, PlainOptions.ofRecord r⟩

end FileOptions

namespace Location

def toRecord (l : Location) : Record :=
  Record.ofPacked 1 l.path ++ Record.ofPacked 2 l.span ++ Record.ofText? 3 l.leadingComments? ++
    Record.ofText? 4 l.trailingComments? ++ Record.ofTexts 6 l.leadingDetachedComments

def ofRecord (r : Record) : Location :=
  ⟨r.int32s 1, r.int32s 2, r.text? 3, r.text? 4, r.texts 6⟩

end Location

def sourceInfoRecord (locations : List Location) : Record :=
  Record.ofMessages 1 (locations.map Location.toRecord)

def sourceInfoOfRecord (r : Record) : List Location := (r.messages 1).map Location.ofRecord

namespace FileDescriptor

def toRecord (f : FileDescriptor) : Record :=
  Record.ofText? 1 f.name? ++ Record.ofText? 2 f.package? ++ Record.ofTexts 3 f.dependencies ++
    Record.ofMessages 4 (MessageDescriptor.toRecords f.messages) ++
    Record.ofMessages 5 (f.enums.map EnumDescriptor.toRecord) ++
    Record.ofMessages 6 (f.services.map ServiceDescriptor.toRecord) ++
    Record.ofMessages 7 (f.extensions.map FieldDescriptor.toRecord) ++
    Record.ofMessage? 8 (f.options?.map FileOptions.toRecord) ++
    Record.ofMessage? 9 (f.sourceInfo?.map sourceInfoRecord) ++
    Record.ofInt32s 10 f.publicDependencies ++ Record.ofInt32s 11 f.weakDependencies ++
    Record.ofText? 12 f.syntaxName?

def ofRecord (r : Record) : FileDescriptor :=
  ⟨r.text? 1, r.text? 2, r.texts 3, (r.messages 4).map MessageDescriptor.ofRecord,
   (r.messages 5).map EnumDescriptor.ofRecord, (r.messages 6).map ServiceDescriptor.ofRecord,
   (r.messages 7).map FieldDescriptor.ofRecord, (r.message? 8).map FileOptions.ofRecord,
   (r.message? 9).map sourceInfoOfRecord, r.int32s 10, r.int32s 11, r.text? 12⟩

end FileDescriptor

end Descriptor

end Protogen
