import Protogen.Descriptor.Basic
import Protogen.Generator.Error

/-!
# The types of a request

Every message and enum of the files of a request, by full name. The full name
consists of the non-empty components of the package and of the names of the
enclosing messages, each with a dot in front. Of several types with one full
name the one entered last counts; a message is entered after everything nested
in it.
-/

namespace Protogen

namespace Generator

open Descriptor

inductive TypeKind
  | message
  | enum
  deriving DecidableEq, Repr

structure TypeInfo where
  file : String
  package : String
  /-- The names of the enclosing messages and of the type itself. -/
  path : List String
  kind : TypeKind
  /-- The key and the value of a map entry that has both. -/
  mapFields? : Option (FieldDescriptor × FieldDescriptor)
  deriving DecidableEq, Repr

abbrev TypeIndex := List (String × TypeInfo)

/-- The components of a package, without empty ones. -/
def packageParts (package : String) : List String :=
  ((package.toList.splitOn '.').filter fun part => !part.isEmpty).map String.ofList

def dotted (parts : List String) : String := String.join (parts.map fun part => "." ++ part)

def fullName (package : String) (path : List String) : String :=
  dotted (packageParts package ++ path)

/-- The key and the value of a map entry: its fields with the numbers 1 and 2. -/
def mapEntryFields? (m : MessageBody) : Option (FieldDescriptor × FieldDescriptor) :=
  if m.isMapEntry then
    match m.fields.find? (fun f => f.number == 1), m.fields.find? (fun f => f.number == 2) with
    | some key, some value => some (key, value)
    | _, _ => none
  else none

def indexed (file : FileDescriptor) (path : List String) (kind : TypeKind)
    (mapFields? : Option (FieldDescriptor × FieldDescriptor)) : String × TypeInfo :=
  (fullName file.package path, ⟨file.name, file.package, path, kind, mapFields?⟩)

def enumIndex (file : FileDescriptor) (parents : List String) (e : EnumDescriptor) :
    String × TypeInfo :=
  indexed file (parents ++ [e.name]) .enum none

mutual

def messageIndex (file : FileDescriptor) (parents : List String) : MessageDescriptor → TypeIndex
  | ⟨body, nested⟩ =>
    messagesIndex file (parents ++ [body.name]) nested ++
      body.enums.map (enumIndex file (parents ++ [body.name])) ++
      [indexed file (parents ++ [body.name]) .message (mapEntryFields? body)]

def messagesIndex (file : FileDescriptor) (parents : List String) :
    List MessageDescriptor → TypeIndex
  | [] => []
  | m :: ms => messageIndex file parents m ++ messagesIndex file parents ms

end

def fileIndex (file : FileDescriptor) : TypeIndex :=
  messagesIndex file [] file.messages ++ file.enums.map (enumIndex file [])

namespace TypeIndex

def ofFiles (files : List FileDescriptor) : TypeIndex := files.flatMap fileIndex

def find? (types : TypeIndex) (name : String) : Option TypeInfo :=
  ((types.filter fun t => t.1 == name).getLast?).map Prod.snd

def get (types : TypeIndex) (name : String) : Generated TypeInfo :=
  match types.find? name with
  | some info => .ok info
  | none => .error (.unknownType name)

end TypeIndex

end Generator

end Protogen
