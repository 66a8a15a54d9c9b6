import Protogen.Descriptor.Type

/-!
# Descriptors

What a schema file says, as data. A value that may be missing is an option and
has a question mark in its name; the same name without the mark reads a missing
text as empty, a missing number as zero and a missing flag as unset. A message
keeps the messages nested in it apart from everything else it says, so that a
recursion over the tree of messages has one case. All options have room for those
that no tool has interpreted yet; some have nothing else.
-/

namespace Protogen

namespace Descriptor

/-- A part of the name of an option; that of an extension stands in parentheses. -/
structure OptionNamePart where
  text : String
  isExtension : Bool
  deriving DecidableEq, Repr

/-- An option as it was written, before a tool interprets it. Its value has one of
six forms; a double is kept as its 64 bits. -/
structure UninterpretedOption where
  name : List OptionNamePart
  identifier? : Option String
  positive? : Option UInt64
  negative? : Option Int64
  doubleBits? : Option UInt64
  bytes? : Option (List UInt8)
  aggregate? : Option String
  deriving DecidableEq, Repr

structure FieldOptions where
  stringRepresentation? : Option Int32
  packed? : Option Bool
  deprecated? : Option Bool
  isLazy? : Option Bool
  numberRepresentation? : Option Int32
  weak? : Option Bool
  uninterpreted : List UninterpretedOption
  deriving DecidableEq, Repr

structure FieldDescriptor where
  name? : Option String
  extendee? : Option String
  number? : Option Int32
  label? : Option Int32
  type? : Option Int32
  typeName? : Option String
  defaultValue? : Option String
  options? : Option FieldOptions
  oneofIndex? : Option Int32
  jsonName? : Option String
  proto3Optional? : Option Bool
  deriving DecidableEq, Repr

namespace FieldDescriptor

def blank : FieldDescriptor :=
  ⟨none, none, none, none, none, none, none, none, none, none, none⟩

def name (f : FieldDescriptor) : String := f.name?.getD ""

def number (f : FieldDescriptor) : Int32 := f.number?.getD 0

def label (f : FieldDescriptor) : Label := Label.ofNumber f.label?

def type (f : FieldDescriptor) : DeclaredType := DeclaredType.ofNumber f.type?

def typeName (f : FieldDescriptor) : String := f.typeName?.getD ""

def isProto3Optional (f : FieldDescriptor) : Bool := f.proto3Optional?.getD false

def packed? (f : FieldDescriptor) : Option Bool := f.options?.bind FieldOptions.packed?

/-- Whether the field is a member of a oneof that its message spells out. -/
def isOneofMember (f : FieldDescriptor) : Bool := f.oneofIndex?.isSome && !f.isProto3Optional

end FieldDescriptor

/-- Options without settings of their own, as a oneof and an extension range have
them. -/
abbrev PlainOptions := List UninterpretedOption

structure OneofDescriptor where
  name? : Option String
  options? : Option PlainOptions
  deriving DecidableEq, Repr

def OneofDescriptor.name (o : OneofDescriptor) : String := o.name?.getD ""

/-- The options of an enum value and of a service. -/
structure DeprecationOptions where
  deprecated? : Option Bool
  uninterpreted : List UninterpretedOption
  deriving DecidableEq, Repr

structure EnumValueDescriptor where
  name? : Option String
  number? : Option Int32
  options? : Option DeprecationOptions
  deriving DecidableEq, Repr

namespace EnumValueDescriptor

def name (v : EnumValueDescriptor) : String := v.name?.getD ""

def number (v : EnumValueDescriptor) : Int32 := v.number?.getD 0

end EnumValueDescriptor

structure EnumOptions where
  allowAlias? : Option Bool
  deprecated? : Option Bool
  uninterpreted : List UninterpretedOption
  deriving DecidableEq, Repr

/-- A range of numbers, written with its first number and its end. -/
structure NumberRange where
  start? : Option Int32
  stop? : Option Int32
  deriving DecidableEq, Repr

namespace NumberRange

def start (r : NumberRange) : Int := (r.start?.getD 0).toInt

def stop (r : NumberRange) : Int := (r.stop?.getD 0).toInt

end NumberRange

structure ExtensionRange where
  range : NumberRange
  options? : Option PlainOptions
  deriving DecidableEq, Repr

structure EnumDescriptor where
  name? : Option String
  values : List EnumValueDescriptor
  options? : Option EnumOptions
  reservedRanges : List NumberRange
  reservedNames : List String
  deriving DecidableEq, Repr

namespace EnumDescriptor

def name (e : EnumDescriptor) : String := e.name?.getD ""

def allowsAlias (e : EnumDescriptor) : Bool :=
  (e.options?.bind EnumOptions.allowAlias?).getD false

end EnumDescriptor

structure MessageOptions where
  messageSetWireFormat? : Option Bool
  noStandardDescriptorAccessor? : Option Bool
  deprecated? : Option Bool
  mapEntryFlag? : Option Bool
  uninterpreted : List UninterpretedOption
  deriving DecidableEq, Repr

/-- What a message says of itself, without the messages nested in it. -/
structure MessageBody where
  name? : Option String
  fields : List FieldDescriptor
  enums : List EnumDescriptor
  extensionRanges : List ExtensionRange
  extensions : List FieldDescriptor
  options? : Option MessageOptions
  oneofs : List OneofDescriptor
  reservedRanges : List NumberRange
  reservedNames : List String
  deriving DecidableEq, Repr

namespace MessageBody

def blank : MessageBody := ⟨none, [], [], [], [], none, [], [], []⟩

def name (m : MessageBody) : String := m.name?.getD ""

/-- Whether the message was made up to hold the entries of a map field. -/
def isMapEntry (m : MessageBody) : Bool := (m.options?.bind MessageOptions.mapEntryFlag?).getD false

end MessageBody

structure MessageDescriptor where
  body : MessageBody
  nested : List MessageDescriptor

namespace MessageDescriptor

def name (m : MessageDescriptor) : String := m.body.name

def isMapEntry (m : MessageDescriptor) : Bool := m.body.isMapEntry

end MessageDescriptor

structure MethodOptions where
  deprecated? : Option Bool
  idempotencyLevel? : Option Int32
  uninterpreted : List UninterpretedOption
  deriving DecidableEq, Repr

structure MethodDescriptor where
  name? : Option String
  inputType? : Option String
  outputType? : Option String
  options? : Option MethodOptions
  clientStreaming? : Option Bool
  serverStreaming? : Option Bool
  deriving DecidableEq, Repr

namespace MethodDescriptor

def name (m : MethodDescriptor) : String := m.name?.getD ""

def inputType (m : MethodDescriptor) : String := m.inputType?.getD ""

def outputType (m : MethodDescriptor) : String := m.outputType?.getD ""

end MethodDescriptor

structure ServiceDescriptor where
  name? : Option String
  methods : List MethodDescriptor
  options? : Option DeprecationOptions
  deriving DecidableEq, Repr

def ServiceDescriptor.name (s : ServiceDescriptor) : String := s.name?.getD ""

structure FileOptions where
  javaPackage? : Option String
  javaOuterClassname? : Option String
  optimizeFor? : Option Int32
  javaMultipleFiles? : Option Bool
  goPackage? : Option String
  ccGenericServices? : Option Bool
  javaGenericServices? : Option Bool
  pyGenericServices? : Option Bool
  javaGenerateEqualsAndHash? : Option Bool
  deprecated? : Option Bool
  javaStringCheckUtf8? : Option Bool
  ccEnableArenas? : Option Bool
  objcClassPrefix? : Option String
  csharpNamespace? : Option String
  swiftPrefix? : Option String
  phpClassPrefix? : Option String
  phpNamespace? : Option String
  phpGenericServices? : Option Bool
  phpMetadataNamespace? : Option String
  rubyPackage? : Option String
  uninterpreted : List UninterpretedOption
  deriving DecidableEq, Repr

def FileOptions.blank : FileOptions :=
  ⟨none, none, none, none, none, none, none, none, none, none, none, none, none, none, none,
   none, none, none, none, none, []⟩

/-- Where an element stands in the source, and the comments around it. -/
structure Location where
  path : List Int32
  span : List Int32
  leadingComments? : Option String
  trailingComments? : Option String
  leadingDetachedComments : List String
  deriving DecidableEq, Repr

structure FileDescriptor where
  name? : Option String
  package? : Option String
  dependencies : List String
  messages : List MessageDescriptor
  enums : List EnumDescriptor
  services : List ServiceDescriptor
  extensions : List FieldDescriptor
  options? : Option FileOptions
  sourceInfo? : Option (List Location)
  publicDependencies : List Int32
  weakDependencies : List Int32
  syntaxName? : Option String

namespace FileDescriptor

def blank : FileDescriptor :=
  ⟨none, none, [], [], [], [], [], none, none, [], [], none⟩

def name (f : FileDescriptor) : String := f.name?.getD ""

def package (f : FileDescriptor) : String := f.package?.getD ""

def syntaxName (f : FileDescriptor) : String := f.syntaxName?.getD ""

end FileDescriptor

end Descriptor

end Protogen
