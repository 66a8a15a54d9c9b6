import Protogen.Link.DefaultValue
import Protogen.Link.Options

/-!
# Linking a set of files

After all names are entered, every reference is resolved and every number is
checked, in the order of the files; last, all options are read as messages of
their types. Linking succeeds if nothing is wrong and otherwise tells the first
thing that is, so a fault among the names comes before every other.
-/

namespace Protogen

namespace Link

open Descriptor Name

abbrev Checked := Except LinkError Unit

def require (condition : Bool) (e : LinkError) : Checked := if condition then .ok () else .error e

def checkAll {α : Type} (check : α → Checked) : List α → Checked
  | [] => .ok ()
  | x :: xs => do
    check x
    checkAll check xs

def isImportIndex (file : FileDescriptor) (i : Int32) : Bool :=
  decide (0 ≤ i.toInt) && decide (i.toInt < file.dependencies.length)

def checkImports (file : FileDescriptor) : Checked :=
  checkAll (fun i => require (isImportIndex file i) .invalidImportIndex)
    (file.publicDependencies ++ file.weakDependencies)

def isFieldNumber (n : Int) : Bool :=
  decide (1 ≤ n) && decide (n ≤ 536870911) && !(decide (19000 ≤ n) && decide (n ≤ 19999))

/-- Whether a number lies in a range that does not contain its end. -/
def NumberRange.holds (r : NumberRange) (n : Int) : Bool :=
  decide (r.start ≤ n) && decide (n < r.stop)

/-- The checks of the number of a field or an extension of a message. -/
def checkReserved (m : MessageBody) (n : Int) : Checked := do
  require (isFieldNumber n) (.invalidFieldNumber n)
  match m.reservedRanges.find? fun r => NumberRange.holds r n with
  | some r => .error (.reservedFieldNumber n r.start (r.stop - 1))
  | none => .ok ()

def checkFieldNumber (m : MessageBody) (n : Int) : Checked := do
  checkReserved m n
  match m.extensionRanges.find? fun r => NumberRange.holds r.range n with
  | some r => .error (.extensionFieldNumber n r.range.start (r.range.stop - 1))
  | none => .ok ()

def checkExtensionNumber (full : String) (m : MessageBody) (n : Int) : Checked := do
  checkReserved m n
  require (m.extensionRanges.any fun r => NumberRange.holds r.range n) (.noExtensionNumber full n)

def checkDefault (type : LinkedType) (f : FieldDescriptor) : Checked :=
  match f.defaultValue? with
  | none => .ok ()
  | some text =>
    match type with
    | .scalar s => require (isScalarDefault s text) (.invalidDefault text s.name)
    | .entity full (.enum e) =>
      require (e.values.any fun v => v.name == text) (.invalidDefault text full)
    | .entity _ _ => .error (.invalidDefault text "message type")

def checkOneofIndex (m : MessageBody) (f : FieldDescriptor) : Checked :=
  match f.oneofIndex? with
  | none => .ok ()
  | some i =>
    require (decide (0 ≤ i.toInt) && decide (i.toInt < m.oneofs.length)) .invalidOneofIndex

def asciiUpper (c : Char) : Char :=
  if 'a' ≤ c ∧ c ≤ 'z' then Char.ofNat (c.toNat - 32) else c

/-- A name in lower camel case: underscores vanish and raise the next letter. -/
def lowerCamel (raise : Bool) : List Char → List Char
  | [] => []
  | c :: cs =>
    if c = '_' then lowerCamel true cs
    else (if raise then asciiUpper c else c) :: lowerCamel false cs

def jsonKey (f : FieldDescriptor) : String :=
  f.jsonName?.getD (String.ofList (lowerCamel false f.name.toList))

/-- What the fields of a message before the current one have used up. -/
structure UsedFields where
  numbers : List Int
  jsonKeys : List String

/-- The checks of a field of the message with the given full name. A field that
claims to extend a message takes its number from the ranges for extensions. -/
def checkField (view : View) (full : String) (path : List Nat) (m : MessageBody)
    (used : UsedFields) (f : FieldDescriptor) : Checked := do
  if f.extendee?.isSome then checkExtensionNumber full m f.number.toInt
  else checkFieldNumber m f.number.toInt
  let type ← linkType view (inScope full f.name) path f
  checkDefault type f
  checkOneofIndex m f
  require (!used.numbers.contains f.number.toInt) (.usedFieldNumber f.number.toInt)
  require (!used.jsonKeys.contains (jsonKey f)) (.usedJsonName (f.jsonName?.getD ""))

def checkFields (view : View) (full : String) (path : List Nat) (m : MessageBody)
    (used : UsedFields) (index : Nat) : List FieldDescriptor → Checked
  | [] => .ok ()
  | f :: fs => do
    checkField view full (path ++ [2, index]) m used f
    checkFields view full path m ⟨f.number.toInt :: used.numbers, jsonKey f :: used.jsonKeys⟩
      (index + 1) fs

/-- The checks of an extension, first against the message that it extends. -/
def checkExtension (view : View) (scope : String) (path : List Nat) (f : FieldDescriptor) :
    Checked := do
  let (full, kind) ← view.resolve .message (inScope scope f.name) (f.extendee?.getD "")
  match kind with
  | .message m => checkExtensionNumber full m f.number.toInt
  | _ => .ok ()
  let type ← linkType view (inScope scope f.name) path f
  checkDefault type f

def checkExtensions (view : View) (scope : String) (path : List Nat) (index : Nat) :
    List FieldDescriptor → Checked
  | [] => .ok ()
  | f :: fs => do
    checkExtension view scope (path ++ [index]) f
    checkExtensions view scope path (index + 1) fs

/-- Values of an enum; a reserved range contains its end. -/
def checkEnumValues (e : EnumDescriptor) (used : List Int) : List EnumValueDescriptor → Checked
  | [] => .ok ()
  | v :: vs => do
    match e.reservedRanges.find? fun r =>
        decide (r.start ≤ v.number.toInt) && decide (v.number.toInt ≤ r.stop) with
    | some r => .error (.reservedEnumNumber v.number.toInt r.start r.stop)
    | none => .ok ()
    require (e.allowsAlias || !used.contains v.number.toInt) (.usedEnumNumber v.number.toInt)
    checkEnumValues e (v.number.toInt :: used) vs

def checkEnum (e : EnumDescriptor) : Checked := checkEnumValues e [] e.values

mutual

/-- The checks of the message at `path`, in the scope around it. -/
def checkMessage (view : View) (scope : String) (path : List Nat) : MessageDescriptor → Checked
  | ⟨m, nested⟩ => do
    checkFields view (inScope scope m.name) path m ⟨[], []⟩ 0 m.fields
    checkMessages view (inScope scope m.name) (path ++ [3]) 0 nested
    checkAll checkEnum m.enums
    checkExtensions view (inScope scope m.name) (path ++ [6]) 0 m.extensions

def checkMessages (view : View) (scope : String) (path : List Nat) (index : Nat) :
    List MessageDescriptor → Checked
  | [] => .ok ()
  | m :: ms => do
    checkMessage view scope (path ++ [index]) m
    checkMessages view scope path (index + 1) ms

end

def checkMethod (view : View) (scope : String) (m : MethodDescriptor) : Checked := do
  let _ ← view.resolve .message (inScope scope m.name) m.inputType
  let _ ← view.resolve .message (inScope scope m.name) m.outputType

def checkService (view : View) (scope : String) (s : ServiceDescriptor) : Checked :=
  checkAll (checkMethod view (inScope scope s.name)) s.methods

def checkFile (files : List FileDescriptor) (table : NameTable) (file : FileDescriptor) :
    Checked := do
  checkImports file
  let view : View := ⟨table, visibleFiles files file⟩
  checkMessages view file.package [4] 0 file.messages
  checkAll checkEnum file.enums
  checkAll (checkService view file.package) file.services
  checkExtensions view file.package [7] 0 file.extensions

/-- Links a set of files with distinct names. -/
def link (files : List FileDescriptor) : Checked := do
  let table ← NameTable.ofFiles files
  checkAll (checkFile files table) files
  require ((files.flatMap fileOptions).all (Pool.reads ⟨files, table⟩)) .unreadableOptions

end Link

end Protogen
