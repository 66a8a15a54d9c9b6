import Protogen.Name.Identifier

/-!
# Message schemas

For every kind of message that travels: its name and its fields with their
numbers and types. A reader needs nothing else; a field that is not listed is
skipped. Enumeration fields are plain numbers here, since an unknown value is
kept as it is.
-/

namespace Protogen

namespace Wire

inductive MessageType
  | fileDescriptorSet
  | fileDescriptor
  | messageDescriptor
  | extensionRange
  | extensionRangeOptions
  | reservedRange
  | fieldDescriptor
  | oneofDescriptor
  | enumDescriptor
  | enumReservedRange
  | enumValueDescriptor
  | serviceDescriptor
  | methodDescriptor
  | fileOptions
  | messageOptions
  | fieldOptions
  | oneofOptions
  | enumOptions
  | enumValueOptions
  | serviceOptions
  | methodOptions
  | uninterpretedOption
  | optionNamePart
  | sourceCodeInfo
  | location
  | generatorRequest
  | compilerVersion
  | generatorResponse
  | generatedFile
  | generatedCodeInfo
  | annotatedSpan
  | datasetRequest
  | dataset
  | annotatedType
  | uniqueId
  deriving DecidableEq, Repr

/-- The type of a field. Of repeated numbers there are two kinds: both are read
in either form, but only packed ones are written as one entry. -/
inductive FieldType
  | int32
  | repeatedInt32
  | packedInt32
  | int64
  | uint64
  | double
  | bool
  | text
  | repeatedText
  | bytes
  | message (type : MessageType)
  | repeatedMessage (type : MessageType)
  deriving DecidableEq, Repr

structure FieldSchema where
  number : Nat
  name : String
  type : FieldType
  deriving DecidableEq, Repr

namespace MessageType

/-- The name under which a reading error mentions the message. -/
def name : MessageType → String
  | fileDescriptorSet => "FileDescriptorSet"
  | fileDescriptor => "FileDescriptorProto"
  | messageDescriptor => "DescriptorProto"
  | extensionRange => "ExtensionRange"
  | extensionRangeOptions => "ExtensionRangeOptions"
  | reservedRange => "ReservedRange"
  | fieldDescriptor => "FieldDescriptorProto"
  | oneofDescriptor => "OneofDescriptorProto"
  | enumDescriptor => "EnumDescriptorProto"
  | enumReservedRange => "EnumReservedRange"
  | enumValueDescriptor => "EnumValueDescriptorProto"
  | serviceDescriptor => "ServiceDescriptorProto"
  | methodDescriptor => "MethodDescriptorProto"
  | fileOptions => "FileOptions"
  | messageOptions => "MessageOptions"
  | fieldOptions => "FieldOptions"
  | oneofOptions => "OneofOptions"
  | enumOptions => "EnumOptions"
  | enumValueOptions => "EnumValueOptions"
  | serviceOptions => "ServiceOptions"
  | methodOptions => "MethodOptions"
  | uninterpretedOption => "UninterpretedOption"
  | optionNamePart => "NamePart"
  | sourceCodeInfo => "SourceCodeInfo"
  | location => "Location"
  | generatorRequest => "CodeGeneratorRequest"
  | compilerVersion => "Version"
  | generatorResponse => "CodeGeneratorResponse"
  | generatedFile => "File"
  | generatedCodeInfo => "GeneratedCodeInfo"
  | annotatedSpan => "Annotation"
  | datasetRequest => "GetDatasetRequest"
  | dataset => "Dataset"
  | annotatedType => "AnnotatedType"
  | uniqueId => "Id"

/-- The field of all options for those that no tool has interpreted. -/
def uninterpretedField : FieldSchema :=
  ⟨999, "uninterpreted_option", .repeatedMessage uninterpretedOption⟩

/-- The fields in the order of their numbers, which is the order in which they
are written. -/
def fields : MessageType → List FieldSchema
  | fileDescriptorSet => [⟨1, "file", .repeatedMessage fileDescriptor⟩]
  | fileDescriptor =>
    [⟨1, "name", .text⟩,
     ⟨2, "package", .text⟩,
     ⟨3, "dependency", .repeatedText⟩,
     ⟨4, "message_type", .repeatedMessage messageDescriptor⟩,
     ⟨5, "enum_type", .repeatedMessage enumDescriptor⟩,
     ⟨6, "service", .repeatedMessage serviceDescriptor⟩,
     ⟨7, "extension", .repeatedMessage fieldDescriptor⟩,
     ⟨8, "options", .message fileOptions⟩,
     ⟨9, "source_code_info", .message sourceCodeInfo⟩,
     ⟨10, "public_dependency", .repeatedInt32⟩,
     ⟨11, "weak_dependency", .repeatedInt32⟩,
     ⟨12, "syntax", .text⟩]
  | messageDescriptor =>
    [⟨1, "name", .text⟩,
     ⟨2, "field", .repeatedMessage fieldDescriptor⟩,
     ⟨3, "nested_type", .repeatedMessage messageDescriptor⟩,
     ⟨4, "enum_type", .repeatedMessage enumDescriptor⟩,
     ⟨5, "extension_range", .repeatedMessage extensionRange⟩,
     ⟨6, "extension", .repeatedMessage fieldDescriptor⟩,
     ⟨7, "options", .message messageOptions⟩,
     ⟨8, "oneof_decl", .repeatedMessage oneofDescriptor⟩,
     ⟨9, "reserved_range", .repeatedMessage reservedRange⟩,
     ⟨10, "reserved_name", .repeatedText⟩]
  | extensionRange =>
    [⟨1, "start", .int32⟩, ⟨2, "end", .int32⟩, ⟨3, "options", .message extensionRangeOptions⟩]
  | extensionRangeOptions => [uninterpretedField]
  | reservedRange => [⟨1, "start", .int32⟩, ⟨2, "end", .int32⟩]
  | fieldDescriptor =>
    [⟨1, "name", .text⟩,
     ⟨2, "extendee", .text⟩,
     ⟨3, "number", .int32⟩,
     ⟨4, "label", .int32⟩,
     ⟨5, "type", .int32⟩,
     ⟨6, "type_name", .text⟩,
     ⟨7, "default_value", .text⟩,
     ⟨8, "options", .message fieldOptions⟩,
     ⟨9, "oneof_index", .int32⟩,
     ⟨10, "json_name", .text⟩,
     ⟨17, "proto3_optional", .bool⟩]
  | oneofDescriptor => [⟨1, "name", .text⟩, ⟨2, "options", .message oneofOptions⟩]
  | enumDescriptor =>
    [⟨1, "name", .text⟩,
     ⟨2, "value", .repeatedMessage enumValueDescriptor⟩,
     ⟨3, "options", .message enumOptions⟩,
     ⟨4, "reserved_range", .repeatedMessage enumReservedRange⟩,
     ⟨5, "reserved_name", .repeatedText⟩]
  | enumReservedRange => [⟨1, "start", .int32⟩, ⟨2, "end", .int32⟩]
  | enumValueDescriptor =>
    [⟨1, "name", .text⟩, ⟨2, "number", .int32⟩, ⟨3, "options", .message enumValueOptions⟩]
  | serviceDescriptor =>
    [⟨1, "name", .text⟩,
     ⟨2, "method", .repeatedMessage methodDescriptor⟩,
     ⟨3, "options", .message serviceOptions⟩]
  | methodDescriptor =>
    [⟨1, "name", .text⟩,
     ⟨2, "input_type", .text⟩,
     ⟨3, "output_type", .text⟩,
     ⟨4, "options", .message methodOptions⟩,
     ⟨5, "client_streaming", .bool⟩,
     ⟨6, "server_streaming", .bool⟩]
  | fileOptions =>
    [⟨1, "java_package", .text⟩,
     ⟨8, "java_outer_classname", .text⟩,
     ⟨9, "optimize_for", .int32⟩,
     ⟨10, "java_multiple_files", .bool⟩,
     ⟨11, "go_package", .text⟩,
     ⟨16, "cc_generic_services", .bool⟩,
     ⟨17, "java_generic_services", .bool⟩,
     ⟨18, "py_generic_services", .bool⟩,
     ⟨20, "java_generate_equals_and_hash", .bool⟩,
     ⟨23, "deprecated", .bool⟩,
     ⟨27, "java_string_check_utf8", .bool⟩,
     ⟨31, "cc_enable_arenas", .bool⟩,
     ⟨36, "objc_class_prefix", .text⟩,
     ⟨37, "csharp_namespace", .text⟩,
     ⟨39, "swift_prefix", .text⟩,
     ⟨40, "php_class_prefix", .text⟩,
     ⟨41, "php_namespace", .text⟩,
     ⟨42, "php_generic_services", .bool⟩,
     ⟨44, "php_metadata_namespace", .text⟩,
     ⟨45, "ruby_package", .text⟩,
     uninterpretedField]
  | messageOptions =>
    [⟨1, "message_set_wire_format", .bool⟩,
     ⟨2, "no_standard_descriptor_accessor", .bool⟩,
     ⟨3, "deprecated", .bool⟩,
     ⟨7, "map_entry", .bool⟩,
     uninterpretedField]
  | fieldOptions =>
    [⟨1, "ctype", .int32⟩,
     ⟨2, "packed", .bool⟩,
     ⟨3, "deprecated", .bool⟩,
     ⟨5, "lazy", .bool⟩,
     ⟨6, "jstype", .int32⟩,
     ⟨10, "weak", .bool⟩,
     uninterpretedField]
  | oneofOptions => [uninterpretedField]
  | enumOptions =>
    [⟨2, "allow_alias", .bool⟩, ⟨3, "deprecated", .bool⟩, uninterpretedField]
  | enumValueOptions => [⟨1, "deprecated", .bool⟩, uninterpretedField]
  | serviceOptions => [⟨33, "deprecated", .bool⟩, uninterpretedField]
  | methodOptions =>
    [⟨33, "deprecated", .bool⟩, ⟨34, "idempotency_level", .int32⟩, uninterpretedField]
  | uninterpretedOption =>
    [⟨2, "name", .repeatedMessage optionNamePart⟩,
     ⟨3, "identifier_value", .text⟩,
     ⟨4, "positive_int_value", .uint64⟩,
     ⟨5, "negative_int_value", .int64⟩,
     ⟨6, "double_value", .double⟩,
     ⟨7, "string_value", .bytes⟩,
     ⟨8, "aggregate_value", .text⟩]
  | optionNamePart => [⟨1, "name_part", .text⟩, ⟨2, "is_extension", .bool⟩]
  | sourceCodeInfo => [⟨1, "location", .repeatedMessage location⟩]
  | location =>
    [⟨1, "path", .packedInt32⟩,
     ⟨2, "span", .packedInt32⟩,
     ⟨3, "leading_comments", .text⟩,
     ⟨4, "trailing_comments", .text⟩,
     ⟨6, "leading_detached_comments", .repeatedText⟩]
  | generatorRequest =>
    [⟨1, "file_to_generate", .repeatedText⟩,
     ⟨2, "parameter", .text⟩,
     ⟨3, "compiler_version", .message compilerVersion⟩,
     ⟨15, "proto_file", .repeatedMessage fileDescriptor⟩]
  | compilerVersion =>
    [⟨1, "major", .int32⟩, ⟨2, "minor", .int32⟩, ⟨3, "patch", .int32⟩, ⟨4, "suffix", .text⟩]
  | generatorResponse =>
    [⟨1, "error", .text⟩,
     ⟨2, "supported_features", .uint64⟩,
     ⟨15, "file", .repeatedMessage generatedFile⟩]
  | generatedFile =>
    [⟨1, "name", .text⟩,
     ⟨2, "insertion_point", .text⟩,
     ⟨15, "content", .text⟩,
     ⟨16, "generated_code_info", .message generatedCodeInfo⟩]
  | generatedCodeInfo => [⟨1, "annotation", .repeatedMessage annotatedSpan⟩]
  | annotatedSpan =>
    [⟨1, "path", .packedInt32⟩,
     ⟨2, "source_file", .text⟩,
     ⟨3, "begin", .int32⟩,
     ⟨4, "end", .int32⟩]
  | datasetRequest => [⟨1, "slug", .text⟩]
  | dataset =>
    [⟨1, "id", .message uniqueId⟩,
     ⟨2, "group_id", .message uniqueId⟩,
     ⟨3, "type", .message annotatedType⟩,
     ⟨4, "code_name", .text⟩,
     ⟨5, "name", .text⟩]
  | annotatedType =>
    [⟨1, "descriptor_set", .message fileDescriptorSet⟩, ⟨2, "type_url", .text⟩]
  | uniqueId => [⟨1, "uuid", .bytes⟩]

def field? (type : MessageType) (number : Nat) : Option FieldSchema :=
  type.fields.find? fun f => f.number == number

end MessageType

/-- The name under which a reading error mentions the field. -/
def FieldSchema.label (field : FieldSchema) : String := Name.safeField field.name

end Wire

end Protogen
