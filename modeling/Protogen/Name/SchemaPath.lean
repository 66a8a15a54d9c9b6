/-!
# File names of schema units

A schema unit lives in the directory of its package, under the name of its
message; the file generated from it has the same name with another extension.
-/

namespace Protogen

namespace Name

def schemaExtension : String := "proto"

def outputExtension : String := "pb.rs"

def slashForDot (c : Char) : Char := if c = '.' then '/' else c

/-- The directory of a package: `foo.bar` is `foo/bar`. -/
def packagePath (package : String) : String :=
  String.ofList (package.toList.map slashForDot)

/-- The name of the schema unit that holds `message` in `package`. -/
def canonicalFile (package message : String) : String :=
  let file := message ++ "." ++ schemaExtension
  if package.isEmpty then file else packagePath package ++ "/" ++ file

/-- The name without the schema extension, if it has it. -/
def schemaStem (file : String) : String :=
  match ("." ++ schemaExtension).toList.reverse.isPrefixOf? file.toList.reverse with
  | some stem => String.ofList stem.reverse
  | none => file

/-- The name of the file generated from the schema unit `file`. -/
def outputFile (file : String) : String := schemaStem file ++ "." ++ outputExtension

end Name

end Protogen
