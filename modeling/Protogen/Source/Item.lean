import Protogen.Descriptor.Type
import Protogen.Source.TypeExpr

/-!
# Generated items

What is generated for a file, before it is written out: a structure for each
message, an enumeration for each oneof, an enumeration for each enum, and a
module for whatever is nested in a message. Every member knows its number and
the kind of its elements, so that the attributes and types that are written can
be read off.
-/

namespace Protogen

namespace Source

open Descriptor

/-- The path under which a type is referred to. -/
inductive Reference
  /-- A type of the same file: up `supers` modules, then down to the item. -/
  | inFile (supers : Nat) (modules : List String) (item : String)
  /-- A type that lives elsewhere. -/
  | elsewhere (path : String)
  deriving DecidableEq, Repr

namespace Reference

/-- The names of a path inside the file. -/
def steps (supers : Nat) (modules : List String) (item : String) : List String :=
  List.replicate supers "super" ++ modules ++ [item]

def text : Reference → String
  | inFile supers modules item => "::".intercalate (steps supers modules item)
  | elsewhere path => path

end Reference

/-- The kind of a single element. -/
inductive Element
  | scalar (type : Scalar)
  | message (reference : Reference) (type : TypeExpr)
  | enumeration (reference : Reference)

/-- How many elements a field has; repeated elements may be kept unpacked. -/
inductive Cardinality
  | plain
  | optional
  | required
  | repeated (unpacked : Bool)
  deriving DecidableEq, Repr

/-- A member of a structure. -/
inductive Member
  | field (docs : List String) (name : String) (number : Int32) (element : Element)
      (cardinality : Cardinality)
  | map (docs : List String) (name : String) (number : Int32) (key : Scalar) (value : Element)
  | oneof (docs : List String) (name moduleName typeName : String) (numbers : List Int32)

/-- A variant of a oneof. -/
structure Variant where
  docs : List String
  name : String
  number : Int32
  element : Element

/-- A variant of an enum; `schemaName` is the name of the value in the schema. -/
structure EnumVariant where
  docs : List String
  name : String
  number : Int32
  schemaName : String
  deriving DecidableEq, Repr

inductive Item
  | struct (docs : List String) (name : String) (members : List Member)
  | oneof (docs : List String) (name : String) (variants : List Variant)
  | enum (docs : List String) (name : String) (variants : List EnumVariant)
  | module (docs : List String) (name : String) (items : List Item)

mutual

/-- Whether an enum in the item has a variant with the given name. -/
def Item.hasEnumVariant (name : String) : Item → Bool
  | .enum _ _ variants => variants.any fun v => v.name == name
  | .module _ _ items => anyHasEnumVariant name items
  | .struct _ _ _ | .oneof _ _ _ => false

def anyHasEnumVariant (name : String) : List Item → Bool
  | [] => false
  | item :: items => item.hasEnumVariant name || anyHasEnumVariant name items

end

end Source

end Protogen
