import Protogen.Name.Identifier
import Protogen.Source.TypeParser

/-!
# Why nothing is generated

Every way in which a file can fail to be generated, with the text that is
reported for it.
-/

namespace Protogen

namespace Generator

open Text Name Source

inductive GenerateError
  | badName (cause : NameError)
  | reservedMessageName (name : String)
  | unknownType (typeName : String)
  /-- The field declares a `declared`, but its type is not one. -/
  | wrongKind (field declared typeName : String)
  | unmappedType (typeName package : String)
  | invalidPath (path : String) (cause : TypeError)
  | groupField (field : String)
  | invalidMapKey (field : String)
  | groupMapValue (field : String)
  | enumValueName (enum value : String) (cause : NameError)
  | emptyEnum (name : String)
  | unsupportedSyntax (name file : String)
  /-- A variant would be called like the type that it belongs to. -/
  | selfVariant
  | missingFile (name : String)
  deriving DecidableEq, Repr

def GenerateError.message : GenerateError → String
  | badName cause => cause.message
  | reservedMessageName name => "message name " ++ quoted name ++ " is reserved in Rust"
  | unknownType typeName => "unknown type " ++ typeName
  | wrongKind field declared typeName =>
    "field " ++ field ++ " declares " ++ declared ++ " but " ++ typeName ++ " is not one"
  | unmappedType typeName package =>
    "no Rust path for " ++ typeName ++ " (package " ++ package ++
      "); map it with an extern path"
  | invalidPath path cause => "invalid Rust path " ++ quoted path ++ ": " ++ cause.message
  | groupField field => "group field " ++ field ++ " is not supported"
  | invalidMapKey field => "invalid key type for map field " ++ field
  | groupMapValue field => "group value in map field " ++ field ++ " is not supported"
  | enumValueName enum value cause =>
    "value " ++ quoted value ++ " of enum " ++ enum ++ ": " ++ cause.message
  | emptyEnum name => "enum " ++ name ++ " has no values"
  | unsupportedSyntax name file => "unsupported syntax " ++ quoted name ++ " in " ++ file
  | selfVariant => "expected identifier, found keyword `Self`"
  | missingFile name => "file " ++ name ++ " not found in request"

abbrev Generated (α : Type) := Except GenerateError α

/-- The outcome of a check of a name. -/
def named {α : Type} (result : Except NameError α) : Generated α := result.mapError .badName

end Generator

end Protogen
