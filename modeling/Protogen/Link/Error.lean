/-!
# Faults of a set of files

What can be wrong with files that refer to one another, with the text that is
reported for it.
-/

namespace Protogen

namespace Link

inductive LinkError
  | definedTwice (name : String)
  | definedElsewhere (name file : String)
  | camelCaseConflict (first second : String)
  | emptyEnum
  | nonzeroFirstValue
  | invalidImportIndex
  | invalidFieldNumber (number : Int)
  | reservedFieldNumber (number start last : Int)
  | extensionFieldNumber (number start last : Int)
  | noExtensionNumber (message : String) (number : Int)
  | missingField (path : List Nat)
  | undefinedName (name : String)
  | shadowedName (name candidate : String)
  | notAType (name : String)
  | notAMessage (name : String)
  | invalidDefault (text kind : String)
  | invalidOneofIndex
  | usedFieldNumber (number : Int)
  | usedJsonName (name : String)
  | reservedEnumNumber (number start stop : Int)
  | usedEnumNumber (number : Int)
  | unreadableOptions
  deriving DecidableEq, Repr

namespace LinkError

def apostrophed (text : String) : String := "'" ++ text ++ "'"

def rangeText (start last : Int) : String := apostrophed (toString start ++ " to " ++ toString last)

def pathText (path : List Nat) : String :=
  "[" ++ ", ".intercalate (path.map fun n => toString n) ++ "]"

def message : LinkError → String
  | definedTwice name => "name " ++ apostrophed name ++ " is defined twice"
  | definedElsewhere name file =>
    "name " ++ apostrophed name ++ " is already defined in file " ++ apostrophed file
  | camelCaseConflict first second =>
    "camel-case name of field " ++ apostrophed first ++ " conflicts with field " ++
      apostrophed second
  | emptyEnum => "enums must have at least one value"
  | nonzeroFirstValue => "the first value for proto3 enums must be 0"
  | invalidImportIndex => "invalid import index"
  | invalidFieldNumber n => "invalid field number " ++ apostrophed (toString n)
  | reservedFieldNumber n start last =>
    "field number " ++ apostrophed (toString n) ++ " conflicts with reserved range " ++
      rangeText start last
  | extensionFieldNumber n start last =>
    "field number " ++ apostrophed (toString n) ++ " conflicts with extension range " ++
      rangeText start last
  | noExtensionNumber message n =>
    "message " ++ apostrophed message ++ " does not define " ++ apostrophed (toString n) ++
      " as an extension number"
  | missingField path => "missing required field at " ++ pathText path
  | undefinedName name => "name " ++ apostrophed name ++ " is not defined"
  | shadowedName name candidate =>
    apostrophed name ++ " resolves to " ++ apostrophed candidate ++ ", which is not defined"
  | notAType name => apostrophed name ++ " is not a message or enum type"
  | notAMessage name => apostrophed name ++ " is not a message type"
  | invalidDefault text kind =>
    "invalid default value " ++ apostrophed text ++ " for type " ++ apostrophed kind
  | invalidOneofIndex => "invalid oneof index"
  | usedFieldNumber n => "field number " ++ apostrophed (toString n) ++ " is already used"
  | usedJsonName name => "a field with JSON name " ++ apostrophed name ++ " is already defined"
  | reservedEnumNumber n start stop =>
    "enum number " ++ apostrophed (toString n) ++ " conflicts with reserved range " ++
      rangeText start stop
  | usedEnumNumber n => "enum number " ++ apostrophed (toString n) ++ " has already been used"
  | unreadableOptions => "failed to decode file descriptor set"

end LinkError

end Link

end Protogen
