import Protogen.Link.NameTable

/-!
# Finding a name

A reference sees its own file, the files imported by it and the public imports
of those; a public import that is seen already brings its own public imports
along. An absolute name is taken as it is. A relative name without dots
is the innermost fitting entity of that name; of a name with dots the first
component alone decides which scope is meant, and the rest has to exist there.
-/

namespace Protogen

namespace Link

open Descriptor Name

/-- What a reference has to lead to. -/
inductive Wanted
  | messageOrEnum
  | message
  deriving DecidableEq, Repr

namespace Wanted

def accepts : Wanted → NameKind → Bool
  | _, .message _ => true
  | messageOrEnum, .enum _ => true
  | _, _ => false

def refusal : Wanted → String → LinkError
  | messageOrEnum, name => .notAType name
  | message, name => .notAMessage name

end Wanted

/-- The names that a file imports publicly. -/
def publicImports (file : FileDescriptor) : List String :=
  file.publicDependencies.filterMap fun i =>
    if 0 ≤ i.toInt then file.dependencies[i.toInt.toNat]? else none

/-- Adds the public imports of the file `name` to the files seen. One that was
seen before is followed, at most `fuel` times in a row. -/
def withPublicImports (files : List FileDescriptor) :
    Nat → List String → String → List String
  | 0, seen, _ => seen
  | fuel + 1, seen, name =>
    (((files.find? fun f => f.name == name).map publicImports).getD []).foldl
      (fun seen x =>
        if seen.contains x then withPublicImports files fuel seen x else seen ++ [x])
      seen

/-- The files that the references of a file see. -/
def visibleFiles (files : List FileDescriptor) (file : FileDescriptor) : List String :=
  file.dependencies.foldl
    (fun seen d =>
      withPublicImports files (files.length + 1) (if seen.contains d then seen else seen ++ [d]) d)
    [file.name]

/-- What a file sees of the name table. -/
structure View where
  table : NameTable
  visible : List String

namespace View

/-- The definition of a full name; `none` if there is none at all. -/
def find? (view : View) (wanted : Wanted) (full : String) :
    Option (Except LinkError (String × NameKind)) :=
  (view.table.find? full).map fun d =>
    if !view.visible.contains d.file then .error (.undefinedName full)
    else if wanted.accepts d.kind then .ok (full, d.kind)
    else .error (wanted.refusal full)

/-- The innermost fitting entity with a plain name. If there is none, the first
entity that did not fit is reported. -/
def findPlain (view : View) (wanted : Wanted) (name : String) (failure : Option LinkError) :
    List String → Except LinkError (String × NameKind)
  | [] => .error (failure.getD (.undefinedName name))
  | scope :: scopes =>
    match view.find? wanted (inScope scope name) with
    | some (.ok found) => .ok found
    | some (.error e) => view.findPlain wanted name (failure.or (some e)) scopes
    | none => view.findPlain wanted name failure scopes

/-- The entity below the innermost scope that has `first` as a scope. -/
def findBelow (view : View) (wanted : Wanted) (first name : String) :
    List String → Except LinkError (String × NameKind)
  | [] => .error (.undefinedName name)
  | scope :: scopes =>
    match view.table.find? (inScope scope first) with
    | some d =>
      if d.kind.isScope then
        (view.find? wanted (inScope scope name)).getD
          (.error (.shadowedName name (inScope scope name)))
      else view.findBelow wanted first name scopes
    | none => view.findBelow wanted first name scopes

/-- The entity that a name stands for in a scope. -/
def resolve (view : View) (wanted : Wanted) (scope name : String) :
    Except LinkError (String × NameKind) :=
  match name.toList with
  | '.' :: full => (view.find? wanted (String.ofList full)).getD (.error (.undefinedName name))
  | cs =>
    if cs.contains '.' then
      view.findBelow wanted (String.ofList (cs.takeWhile fun c => c != '.')) name
        (outerScopes scope)
    else view.findPlain wanted name none (outerScopes scope)

end View

/-- The type of a field: a scalar, or the entity that it names. -/
inductive LinkedType
  | scalar (type : Scalar)
  | entity (full : String) (kind : NameKind)

/-- The type of the field at `path`, whose full name is `scope`. A type name
decides even if the field declares a scalar type. -/
def linkType (view : View) (scope : String) (path : List Nat) (f : FieldDescriptor) :
    Except LinkError LinkedType :=
  if f.typeName.isEmpty then
    match f.type with
    | .scalar type => .ok (.scalar type)
    | .message | .enum | .group => .error (.missingField (path ++ [6]))
  else
    (view.resolve .messageOrEnum scope f.typeName).map fun (full, kind) => .entity full kind

end Link

end Protogen
