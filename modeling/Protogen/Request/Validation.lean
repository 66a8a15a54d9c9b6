import Protogen.Exchange
import Protogen.Link.Check

/-!
# Valid requests

A request is valid if it asks for something, its files have distinct names, and
everything it mentions is part of it: the files asked for, the imports, and the
type of every field. A type name that begins with a dot is taken as it is; any
other is looked up in the scope of the message and then in the scopes around it.
At last the files are linked.
-/

namespace Protogen

namespace Request

open Descriptor Name

/-- The first rule that a request breaks. -/
inductive ValidationError
  | nothingToGenerate
  | missingFile (name : String)
  | duplicateFile (name : String)
  | missingDependency (file dependency : String)
  | unresolvedType (file field typeName : String)
  | unlinked (cause : Link.LinkError)
  deriving DecidableEq, Repr

def ValidationError.message : ValidationError → String
  | nothingToGenerate => "request lists no file to generate"
  | missingFile name =>
    "file to generate " ++ name ++ " is not part of the descriptor set"
  | duplicateFile name => "duplicate file " ++ name ++ " in descriptor set"
  | missingDependency file dependency =>
    "file " ++ file ++ " imports " ++ dependency ++
      ", which is not part of the descriptor set"
  | unresolvedType file field typeName =>
    "field " ++ field ++ " in " ++ file ++ " refers to unknown type " ++ typeName
  | unlinked cause => cause.message

def packageScope (package : String) : String := if package.isEmpty then "" else "." ++ package

mutual

/-- The full names of a message and of everything nested in it. -/
def definedByMessage (scope : String) : MessageDescriptor → List String
  | ⟨m, nested⟩ =>
    definedByMessages (scope ++ "." ++ m.name) nested ++
      m.enums.map (fun e => scope ++ "." ++ m.name ++ "." ++ e.name) ++
      [scope ++ "." ++ m.name]

def definedByMessages (scope : String) : List MessageDescriptor → List String
  | [] => []
  | m :: ms => definedByMessage scope m ++ definedByMessages scope ms

end

def definedByFile (file : FileDescriptor) : List String :=
  definedByMessages (packageScope file.package) file.messages ++
    file.enums.map fun e => packageScope file.package ++ "." ++ e.name

/-- The full names of all messages and enums of the files. -/
def definedTypes (files : List FileDescriptor) : List String := files.flatMap definedByFile

/-- The defined type that a name stands for in a scope. -/
def resolveType? (types : List String) (scope name : String) : Option String :=
  if name.toList.head? = some '.' then
    if types.contains name then some name else none
  else ((outerScopes scope).map fun s => s ++ "." ++ name).find? types.contains

def withoutLeadingDots (s : String) : String :=
  String.ofList (s.toList.dropWhile fun c => c == '.')

/-- The first field of a message with a type that is not defined. -/
def unresolvedField? (types : List String) (scope : String) (fields : List FieldDescriptor) :
    Option FieldDescriptor :=
  fields.find? fun f => !f.typeName.isEmpty && (resolveType? types scope f.typeName).isNone

mutual

def checkMessageTypes (types : List String) (file scope : String) :
    MessageDescriptor → Except ValidationError Unit
  | ⟨m, nested⟩ =>
    match unresolvedField? types (scope ++ "." ++ m.name) m.fields with
    | some f =>
      .error (.unresolvedType file
        (withoutLeadingDots (scope ++ "." ++ m.name) ++ "." ++ f.name) f.typeName)
    | none => checkMessagesTypes types file (scope ++ "." ++ m.name) nested

def checkMessagesTypes (types : List String) (file scope : String) :
    List MessageDescriptor → Except ValidationError Unit
  | [] => .ok ()
  | m :: ms => do
    checkMessageTypes types file scope m
    checkMessagesTypes types file scope ms

end

def checkFileTypes (types : List String) (file : FileDescriptor) : Except ValidationError Unit :=
  checkMessagesTypes types file.name (packageScope file.package) file.messages

/-- The first name that an earlier one repeats. -/
def firstRepeated? (seen : List String) : List String → Option String
  | [] => none
  | name :: names =>
    if seen.contains name then some name else firstRepeated? (name :: seen) names

/-- The first file that imports something which is no file of the request, and
what it imports. -/
def missingImport? (names : List String) : List FileDescriptor → Option (String × String)
  | [] => none
  | file :: files =>
    match file.dependencies.find? fun d => !names.contains d with
    | some d => some (file.name, d)
    | none => missingImport? names files

def checkTypes (types : List String) : List FileDescriptor → Except ValidationError Unit
  | [] => .ok ()
  | file :: files => do
    checkFileTypes types file
    checkTypes types files

def validate (q : GeneratorRequest) : Except ValidationError Unit :=
  let names := q.files.map FileDescriptor.name
  if q.filesToGenerate.isEmpty then .error .nothingToGenerate
  else match firstRepeated? [] names with
    | some name => .error (.duplicateFile name)
    | none =>
      match q.filesToGenerate.find? fun name => !names.contains name with
      | some name => .error (.missingFile name)
      | none =>
        match missingImport? names q.files with
        | some (file, d) => .error (.missingDependency file d)
        | none => do
          checkTypes (definedTypes q.files) q.files
          (Link.link q.files).mapError .unlinked

/-- A valid request for one file. -/
def build (file : String) (files : List FileDescriptor) (parameter? : Option String) :
    Except ValidationError GeneratorRequest := do
  let q : GeneratorRequest := ⟨[file], parameter?, files, none⟩
  validate q
  .ok q

end Request

end Protogen
