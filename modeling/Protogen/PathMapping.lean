import Protogen.Name.Identifier
import Protogen.WellKnown

/-!
# Mapped paths

Types that live outside the generated file are found through a mapping from
packages, or single types, to paths of the generated language. Among the entries
that cover a type the longest decides, and what remains of the type's name is
appended as modules and a type name. An entry covers a name if the name goes on
after it with a dot or not at all, so `.google.protobuf` does not cover
`.google.protobufx.Duration`.
-/

namespace Protogen

open Text Name

/-- Pairs of a proto path with one leading dot and the path it stands for. -/
structure PathMapping where
  entries : List (String × String)
  deriving DecidableEq, Repr

namespace PathMapping

def empty : PathMapping := ⟨[]⟩

/-- A proto path with exactly one leading dot. -/
def normalProto (proto : String) : String :=
  String.ofList ('.' :: proto.toList.dropWhile (· == '.'))

/-- The rest of a reversed path after the double colons in front. -/
def dropColonPairs : List Char → List Char
  | ':' :: ':' :: cs => dropColonPairs cs
  | cs => cs

/-- A path without the double colons at its end. -/
def normalPath (path : String) : String :=
  String.ofList (dropColonPairs path.toList.reverse).reverse

/-- Maps `proto`, with or without its leading dot, to `path`. A later entry for
the same proto path replaces the earlier one. -/
def insert (mapping : PathMapping) (proto path : String) : PathMapping :=
  ⟨mapping.entries.filter (fun e => e.1 != normalProto proto) ++
    [(normalProto proto, normalPath path)]⟩

def standard : PathMapping :=
  (empty.insert ".google.protobuf" "::prost_types").insert ("." ++ WellKnown.sharedTypesPackage)
    "crate::datasets::v1"

/-- What follows `proto` in a type name that it covers. -/
def remainder? (proto typeName : String) : Option (List Char) :=
  match proto.toList.isPrefixOf? typeName.toList with
  | some [] => some []
  | some ('.' :: cs) => some ('.' :: cs)
  | _ => none

/-- The longest of the entries that cover the type name, with the remainder. -/
def bestCover? (typeName : String) : List (String × String) → Option (String × List Char)
  | [] => none
  | (proto, path) :: es =>
    match remainder? proto typeName, bestCover? typeName es with
    | some rest, some (path', rest') =>
      if rest.length < rest'.length then some (path, rest) else some (path', rest')
    | some rest, none => some (path, rest)
    | none, best => best

/-- The components between the dots, without empty ones. -/
def dottedParts (cs : List Char) : List String :=
  ((cs.splitOn '.').filter (fun part => !part.isEmpty)).map String.ofList

/-- The path of a type below `root`: a module for each component but the last. -/
def pathBelow (root : String) : List String → String
  | [] => root
  | [last] => root ++ "::" ++ Name.typeName last
  | part :: parts => pathBelow (root ++ "::" ++ moduleName part) parts

/-- The path of a fully qualified type name. -/
def resolve? (mapping : PathMapping) (typeName : String) : Option String :=
  (bestCover? typeName mapping.entries).map fun (path, rest) => pathBelow path (dottedParts rest)

end PathMapping

end Protogen
