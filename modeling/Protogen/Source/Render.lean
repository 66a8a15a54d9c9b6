import Protogen.Source.Item
import Protogen.Source.TypeRow
import Protogen.Text.Blank
import Protogen.Text.Quoted

/-!
# Writing items

The text of generated items: documentation and attributes first, each on lines
of their own, then the declaration, with its members four columns further in.
-/

namespace Protogen

namespace Source

open Descriptor Text

/-- A documentation line, without the spaces at its end. -/
def docLine (columns : Nat) (doc : String) : String :=
  indentation columns ++ "///" ++ String.ofList (dropTrailing (· == ' ') doc.toList) ++ "\n"

def docLines (columns : Nat) (docs : List String) : String :=
  String.join (docs.map (docLine columns))

/-- A generic type with its arguments. -/
def genericRow (name : String) (arguments : List (List Piece)) : List Piece :=
  .text name :: argumentsRow arguments

/-- An attribute with its arguments. -/
def attributeLine (columns : Nat) (name : String) (arguments : List String) : String :=
  layoutLine columns
    (.text ("#[" ++ name ++ "(") :: Piece.items (arguments.map fun a => [.text a]) "" ++
      [.text ")]"])

def scalarArgument (s : Scalar) : String :=
  match s with
  | .bytes => "bytes = " ++ literal "vec"
  | s => s.name

def scalarRow (s : Scalar) : List Piece :=
  match s with
  | .double => [.text "f64"]
  | .float => [.text "f32"]
  | .int64 | .sfixed64 | .sint64 => [.text "i64"]
  | .uint64 | .fixed64 => [.text "u64"]
  | .int32 | .sfixed32 | .sint32 => [.text "i32"]
  | .uint32 | .fixed32 => [.text "u32"]
  | .bool => [.text "bool"]
  | .string => [.text "::prost::alloc::string::String"]
  | .bytes => genericRow "::prost::alloc::vec::Vec" [[.text "u8"]]

namespace Element

/-- How an attribute names the kind of the element. -/
def argument : Element → String
  | scalar type => scalarArgument type
  | message _ _ => "message"
  | enumeration reference => "enumeration = " ++ literal reference.text

/-- How the attribute of a map names the kind of its values. -/
def mapArgument : Element → String
  | scalar type => type.name
  | message _ _ => "message"
  | enumeration reference => "enumeration(" ++ reference.text ++ ")"

/-- The type of the element; enumerations are open and kept as numbers. -/
def row : Element → List Piece
  | scalar type => scalarRow type
  | message _ type => type.row
  | enumeration _ => [.text "i32"]

end Element

namespace Cardinality

def arguments : Cardinality → List String
  | plain => []
  | optional => ["optional"]
  | required => ["required"]
  | repeated unpacked =>
    "repeated" :: (if unpacked then ["packed = " ++ literal "false"] else [])

/-- The type of a field whose elements have the given type. -/
def around (element : List Piece) : Cardinality → List Piece
  | plain | required => element
  | optional => genericRow "::core::option::Option" [element]
  | repeated _ => genericRow "::prost::alloc::vec::Vec" [element]

end Cardinality

def numberText (n : Int32) : String := toString n.toInt

def tagArgument (n : Int32) : String := "tag = " ++ literal (numberText n)

def tagsArgument (ns : List Int32) : String :=
  "tags = " ++ literal (", ".intercalate (ns.map numberText))

def declarationLine (columns : Nat) (name : String) (type : List Piece) : String :=
  layoutLine columns (.text ("pub " ++ name ++ ": ") :: type ++ [.text ","])

def Member.render (columns : Nat) : Member → String
  | .field docs name number element cardinality =>
    docLines columns docs ++
      attributeLine columns "prost"
        ([element.argument] ++ cardinality.arguments ++ [tagArgument number]) ++
      declarationLine columns name (cardinality.around element.row)
  | .map docs name number key value =>
    docLines columns docs ++
      attributeLine columns "prost"
        ["map = " ++ literal (key.name ++ ", " ++ value.mapArgument), tagArgument number] ++
      declarationLine columns name
        (genericRow "::std::collections::HashMap" [scalarRow key, value.row])
  | .oneof docs name moduleName typeName numbers =>
    docLines columns docs ++
      attributeLine columns "prost"
        ["oneof = " ++ literal (moduleName ++ "::" ++ typeName), tagsArgument numbers] ++
      declarationLine columns name
        (Cardinality.around [.text (moduleName ++ "::" ++ typeName)] .optional)

def Variant.render (columns : Nat) (v : Variant) : String :=
  docLines columns v.docs ++
    attributeLine columns "prost" [v.element.argument, tagArgument v.number] ++
    layoutLine columns (.text (v.name ++ "(") :: Piece.items [v.element.row] "," ++ [.text "),"])

namespace EnumVariant

def render (columns : Nat) (v : EnumVariant) : String :=
  docLines columns v.docs ++
    layoutLine columns [.text (v.name ++ " = " ++ numberText v.number ++ ",")]

/-- The arm that finds the name of the variant. -/
def nameArm (columns : Nat) (v : EnumVariant) : String :=
  layoutLine columns
    [.text ("Self::" ++ v.name ++ " => "), Piece.answer [.text (literal v.schemaName)]]

/-- The arm that finds the variant of the name. -/
def variantArm (columns : Nat) (v : EnumVariant) : String :=
  layoutLine columns
    [.text (literal v.schemaName ++ " => "),
     Piece.answer
      (.text "::core::option::Option::Some(" ::
        Piece.items [[.text ("Self::" ++ v.name)]] "," ++ [.text ")"])]

end EnumVariant

def plainLine (columns : Nat) (text : String) : String := layoutLine columns [.text text]

/-- A declaration with its body between braces; an empty body stays on the line
of its head. -/
def block (columns : Nat) (head body : String) : String :=
  if body.isEmpty then plainLine columns (head ++ " \x7b\x7d")
  else plainLine columns (head ++ " \x7b") ++ body ++ plainLine columns "\x7d"

/-- The conversions between the variants of an enum and their schema names. -/
def conversions (columns : Nat) (name : String) (variants : List EnumVariant) : String :=
  let inner := columns + 4
  block columns ("impl " ++ name)
    (docLine inner " String value of the enum field names used in the ProtoBuf definition." ++
      plainLine inner "pub fn as_str_name(&self) -> &'static str \x7b" ++
      block (inner + 4) "match self"
        (String.join (variants.map (EnumVariant.nameArm (inner + 8)))) ++
      plainLine inner "\x7d" ++
      docLine inner " Creates an enum from field names used in the ProtoBuf definition." ++
      layoutLine inner
        (.text "pub fn from_str_name(" :: Piece.items [[.text "value: &str"]] "," ++
          .text ") -> " :: genericRow "::core::option::Option" [[.text "Self"]] ++
          [.text " \x7b"]) ++
      block (inner + 4) "match value"
        (String.join (variants.map (EnumVariant.variantArm (inner + 8))) ++
          layoutLine (inner + 8)
            [.text "_ => ", Piece.answer [.text "::core::option::Option::None"]]) ++
      plainLine inner "\x7d")

def messageTraits : List String := ["Clone", "PartialEq", "::prost::Message"]

def oneofTraits : List String := ["Clone", "PartialEq", "::prost::Oneof"]

def enumTraits : List String :=
  ["Clone", "Copy", "Debug", "PartialEq", "Eq", "Hash", "PartialOrd", "Ord", "::prost::Enumeration"]

mutual

def Item.render (columns : Nat) : Item → String
  | .struct docs name members =>
    docLines columns docs ++ attributeLine columns "derive" messageTraits ++
      block columns ("pub struct " ++ name)
        (String.join (members.map (Member.render (columns + 4))))
  | .oneof docs name variants =>
    docLines columns docs ++ attributeLine columns "derive" oneofTraits ++
      block columns ("pub enum " ++ name)
        (String.join (variants.map (Variant.render (columns + 4))))
  | .enum docs name variants =>
    docLines columns docs ++ attributeLine columns "derive" enumTraits ++
      attributeLine columns "repr" ["i32"] ++
      block columns ("pub enum " ++ name)
        (String.join (variants.map (EnumVariant.render (columns + 4)))) ++
      conversions columns name variants
  | .module docs name items =>
    docLines columns docs ++ block columns ("pub mod " ++ name) (renderItems (columns + 4) items)

def renderItems (columns : Nat) : List Item → String
  | [] => ""
  | item :: items => item.render columns ++ renderItems columns items

end

/-- The line that says where a generated file comes from. -/
def headerLine (schemaFile : String) : String :=
  "// @generated by tilebox-generate from " ++ schemaFile ++ ". DO NOT EDIT.\n"

/-- The text of a generated file. -/
def renderFile (schemaFile : String) (items : List Item) : String :=
  headerLine schemaFile ++ "\n" ++ renderItems 0 items

end Source

end Protogen
