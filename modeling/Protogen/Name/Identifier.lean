import Protogen.Name.Case
import Protogen.Text.Quoted

/-!
# Identifiers

How the names of a schema become identifiers of the generated source. A name of
the schema has to be an identifier itself; its converted form is checked once
more, since a change of case can leave a digit in front or nothing at all. A
field that would be a keyword is written as a raw identifier where the language
has one, and a module or a type that would be a keyword gets an underscore.
-/

namespace Protogen

namespace Name

open Text

def keywords : List String :=
  ["as", "break", "const", "continue", "crate", "else", "enum", "extern", "false", "fn", "for",
   "if", "impl", "in", "let", "loop", "match", "mod", "move", "mut", "pub", "ref", "return",
   "self", "Self", "static", "struct", "super", "trait", "true", "type", "unsafe", "use", "where",
   "while", "async", "await", "dyn", "abstract", "become", "box", "do", "final", "macro",
   "override", "priv", "typeof", "unsized", "virtual", "yield", "try", "gen"]

/-- The keywords that name a place in the module tree and have no raw form. -/
def pathKeywords : List String := ["crate", "self", "Self", "super"]

def isKeyword (name : String) : Bool := keywords.contains name

def isPathKeyword (name : String) : Bool := pathKeywords.contains name

def isAsciiLetter (c : Char) : Bool :=
  (decide ('a' ≤ c) && decide (c ≤ 'z')) || (decide ('A' ≤ c) && decide (c ≤ 'Z'))

def isAsciiDigit (c : Char) : Bool := decide ('0' ≤ c) && decide (c ≤ '9')

def isIdentifierStart (c : Char) : Bool := isAsciiLetter c || c == '_'

def isIdentifierPart (c : Char) : Bool := isAsciiLetter c || isAsciiDigit c || c == '_'

/-- An ASCII identifier other than a lone underscore. -/
def isIdentifierChars : List Char → Bool
  | [] => false
  | c :: cs => isIdentifierStart c && cs.all isIdentifierPart && !(c == '_' && cs.isEmpty)

def isIdentifier (name : String) : Bool := isIdentifierChars name.toList

/-- What an identifier is needed for. -/
inductive Role
  | type
  | field
  | module
  deriving DecidableEq, Repr

def Role.description : Role → String
  | .type => "type"
  | .field => "field"
  | .module => "module for"

/-- Why a name cannot be used. -/
inductive NameError
  /-- The schema's name of a `what` is no identifier. -/
  | malformed (what name : String)
  /-- The converted name is no identifier. -/
  | illegal (converted : String)
  /-- The same, met while looking for the identifier of `name`. -/
  | illegalFor (role : Role) (name converted : String)
  deriving DecidableEq, Repr

def NameError.message : NameError → String
  | .malformed what name => what ++ " name " ++ quoted name ++ " is not a valid identifier"
  | .illegal converted => quoted converted ++ " is not a valid Rust identifier"
  | .illegalFor role name converted =>
    role.description ++ " " ++ quoted name ++ ": " ++ quoted converted ++
      " is not a valid Rust identifier"

/-- Accepts the names of a schema that are identifiers. -/
def checkName (name what : String) : Except NameError Unit :=
  if isIdentifier name then .ok () else .error (.malformed what name)

/-- The name behind an optional mark of a raw identifier. -/
def withoutRawMark : List Char → List Char
  | 'r' :: '#' :: cs => cs
  | cs => cs

def isWritable (name : String) : Bool := isIdentifierChars (withoutRawMark name.toList)

/-- An identifier from a converted name, which may be marked as raw. -/
def identifier (name : String) : Except NameError String :=
  if isWritable name then .ok name else .error (.illegal name)

def identifierFor (role : Role) (name converted : String) : Except NameError String :=
  if isWritable converted then .ok converted else .error (.illegalFor role name converted)

def safeField (name : String) : String :=
  if isPathKeyword name then name ++ "_"
  else if isKeyword name then "r#" ++ name
  else name

def safeModule (name : String) : String := if isKeyword name then name ++ "_" else name

def safeType (name : String) : String := if isPathKeyword name then name ++ "_" else name

def typeName (name : String) : String := safeType (pascal name)

def moduleName (name : String) : String := safeModule (snake name)

def fieldName (name : String) : String := safeField (snake name)

def typeIdentifier (name : String) : Except NameError String :=
  identifierFor .type name (typeName name)

def fieldIdentifier (name : String) : Except NameError String :=
  identifierFor .field name (fieldName name)

def moduleIdentifier (name : String) : Except NameError String :=
  identifierFor .module name (moduleName name)

/-- The value's name without the enum's own name in front, unless what is left
would not begin with a letter. -/
def withoutEnumName (enum value : String) : String :=
  match (screaming enum ++ "_").toList.isPrefixOf? value.toList with
  | some (c :: cs) => if isAlphabetic c then String.ofList (c :: cs) else value
  | _ => value

/-- The variant of a value: `PROCESSING_LEVEL_L1A` of `ProcessingLevel` is `L1a`. -/
def variantName (enum value : String) : String := pascal (lowercase (withoutEnumName enum value))

end Name

end Protogen
