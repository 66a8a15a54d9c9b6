import Protogen.Descriptor.Basic
import Protogen.Name.SchemaPath
import Protogen.Text.Quoted

/-!
# Overrides

A dataset is published as one file with one message. Before anything is
generated from it, its package and the name of its message may be replaced, and
it gets the file name that belongs to both. A new package takes the place of all
file options, since they speak of the old one.
-/

namespace Protogen

open Descriptor Text

/-- The replacements asked for. -/
structure Overrides where
  package? : Option String
  messageName? : Option String
  deriving DecidableEq, Repr

/-- What keeps a fetched descriptor from being a dataset. -/
inductive PreconditionError
  | fileCount (found : Nat)
  | messageCount (file : String) (found : Nat)
  | unnamedMessage
  deriving DecidableEq, Repr

def PreconditionError.message : PreconditionError → String
  | fileCount found => "expected exactly one file descriptor, got " ++ toString found
  | messageCount file found =>
    "file " ++ quoted file ++ " must define exactly one message, found " ++ toString found
  | unnamedMessage => "dataset message has no name"

/-- An empty text asks for nothing. -/
def nonEmptyText (s : String) : Bool := !s.isEmpty

namespace Overrides

def ofTexts (package messageName : Option String) : Overrides :=
  ⟨package.filter nonEmptyText, messageName.filter nonEmptyText⟩

/-- The file with another package, if one is asked for. -/
def onPackage (o : Overrides) (file : FileDescriptor) : FileDescriptor :=
  match o.package? with
  | none => file
  | some package =>
    { file with
      package? := some package
      options? := some { FileOptions.blank with goPackage? := some (Name.packagePath package) } }

/-- The message with another name, if one is asked for. -/
def onMessage (o : Overrides) (m : MessageDescriptor) : MessageDescriptor :=
  match o.messageName? with
  | none => m
  | some name => { m with body := { m.body with name? := some name } }

/-- Applies the overrides to the file of a dataset. Its name is always computed
anew. -/
def apply (o : Overrides) (file : FileDescriptor) : Except PreconditionError FileDescriptor :=
  match file.messages with
  | [m] =>
    if (o.onMessage m).name.isEmpty then .error .unnamedMessage
    else .ok { o.onPackage file with
      messages := [o.onMessage m]
      name? := some (Name.canonicalFile (o.onPackage file).package (o.onMessage m).name) }
  | ms => .error (.messageCount file.name ms.length)

end Overrides

/-- The only file of a descriptor set. -/
def soleFile : List FileDescriptor → Except PreconditionError FileDescriptor
  | [file] => .ok file
  | files => .error (.fileCount files.length)

end Protogen
