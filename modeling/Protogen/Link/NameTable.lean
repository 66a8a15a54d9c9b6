import Protogen.Descriptor.Basic
import Protogen.Link.Error
import Protogen.Name.Scope

/-!
# The names of a set of files

Every package, message, oneof, field, enum, value, service, method and extension
has a full name, and all of them share one table, in which only packages may be
entered more than once. The values of an enum are named in the scope around the
enum, not inside it. What can be wrong with an entity on its own is found on the
way, at the place where the entity is entered.
-/

namespace Protogen

namespace Link

open Descriptor Name

inductive NameKind
  | package
  | message (body : MessageBody)
  | enum (descriptor : EnumDescriptor)
  | service
  | other
  deriving DecidableEq, Repr

/-- Whether other names can lie in the scope of the name. -/
def NameKind.isScope : NameKind → Bool
  | package | message _ | enum _ | service => true
  | other => false

structure Definition where
  file : String
  kind : NameKind
  deriving DecidableEq, Repr

/-- A step of entering a file: a name, or a fault found at that place. -/
inductive Declaration
  | name (full : String) (kind : NameKind)
  | fault (error : LinkError)
  deriving DecidableEq, Repr

def usesProto2Rules (file : FileDescriptor) : Bool :=
  file.syntaxName? == none || file.syntaxName? == some "proto2"

def asciiLower (c : Char) : Char :=
  if 'A' ≤ c ∧ c ≤ 'Z' then Char.ofNat (c.toNat + 32) else c

/-- A field name without underscores and in small letters. -/
def camelKey (name : String) : List Char :=
  (name.toList.filter fun c => c != '_').map asciiLower

/-- The fields whose camel-case name is that of an earlier one, with the first
field that has it. -/
def camelConflicts (seen : List String) : List String → List (String × String)
  | [] => []
  | name :: names =>
    match seen.find? fun s => camelKey s == camelKey name with
    | some first => (first, name) :: camelConflicts seen names
    | none => camelConflicts (seen ++ [name]) names

def camelFaults (proto2 : Bool) (m : MessageBody) : List Declaration :=
  if proto2 then []
  else
    (camelConflicts [] (m.fields.map FieldDescriptor.name)).map fun (first, second) =>
      .fault (.camelCaseConflict first second)

def enumFaults (proto2 : Bool) (e : EnumDescriptor) : List Declaration :=
  match e.values with
  | [] => [.fault .emptyEnum]
  | v :: _ => if !proto2 && v.number != 0 then [.fault .nonzeroFirstValue] else []

def enumDeclarations (proto2 : Bool) (scope : String) (e : EnumDescriptor) : List Declaration :=
  .name (inScope scope e.name) (.enum e) :: enumFaults proto2 e ++
    e.values.map fun v => .name (inScope scope v.name) .other

def fieldDeclaration (scope : String) (f : FieldDescriptor) : Declaration :=
  .name (inScope scope f.name) .other

mutual

def messageDeclarations (proto2 : Bool) (scope : String) : MessageDescriptor → List Declaration
  | ⟨m, nested⟩ =>
    .name (inScope scope m.name) (.message m) :: camelFaults proto2 m ++
      m.oneofs.map (fun o => .name (inScope (inScope scope m.name) o.name) .other) ++
      m.fields.map (fieldDeclaration (inScope scope m.name)) ++
      messagesDeclarations proto2 (inScope scope m.name) nested ++
      m.enums.flatMap (enumDeclarations proto2 (inScope scope m.name)) ++
      m.extensions.map (fieldDeclaration (inScope scope m.name))

def messagesDeclarations (proto2 : Bool) (scope : String) :
    List MessageDescriptor → List Declaration
  | [] => []
  | m :: ms => messageDeclarations proto2 scope m ++ messagesDeclarations proto2 scope ms

end

/-- The package and every package around it, from the outside inwards. -/
def packageDeclarations (package : String) : List Declaration :=
  if package.isEmpty then []
  else (beforeDots package.toList.reverse).reverse.map (fun p => .name p .package) ++
    [.name package .package]

def serviceDeclarations (scope : String) (s : ServiceDescriptor) : List Declaration :=
  .name (inScope scope s.name) .service ::
    s.methods.map fun m => .name (inScope (inScope scope s.name) m.name) .other

def fileDeclarations (file : FileDescriptor) : List Declaration :=
  packageDeclarations file.package ++
    messagesDeclarations (usesProto2Rules file) file.package file.messages ++
    file.enums.flatMap (enumDeclarations (usesProto2Rules file) file.package) ++
    file.services.flatMap (serviceDeclarations file.package) ++
    file.extensions.map (fieldDeclaration file.package)

abbrev NameTable := List (String × Definition)

namespace NameTable

def find? (table : NameTable) (name : String) : Option Definition := table.lookup name

def enter (file : String) (table : NameTable) : Declaration → Except LinkError NameTable
  | .fault e => .error e
  | .name full kind =>
    match table.find? full with
    | none => .ok ((full, ⟨file, kind⟩) :: table)
    | some first =>
      if first.kind = .package ∧ kind = .package then .ok table
      else if first.file = file then .error (.definedTwice full)
      else .error (.definedElsewhere full first.file)

def enterFile (table : NameTable) (file : FileDescriptor) : Except LinkError NameTable :=
  (fileDeclarations file).foldlM (enter file.name) table

def ofFiles (files : List FileDescriptor) : Except LinkError NameTable :=
  files.foldlM enterFile []

end NameTable

end Link

end Protogen
