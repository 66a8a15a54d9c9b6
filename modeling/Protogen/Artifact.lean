import Protogen.Exchange
import Protogen.Files.Tree

/-!
# Artifacts

A generated file is written below the output directory, and nowhere else: its
name comes from the generator, so a name that could lead out of the directory is
refused before anything is touched. Missing directories are created, and they
stay if the file cannot be written after all. Nothing that was written is taken
back when the rest cannot be.
-/

namespace Protogen

open Files

/-- Why a file is not written. -/
inductive FileCause
  | outside
  | failed (cause : OsError)
  deriving DecidableEq, Repr

def FileCause.message : FileCause → String
  | outside => "generated file name must be a relative path inside the output directory"
  | failed cause => cause.message

inductive ArtifactError
  | directory (path : String) (cause : OsError)
  | file (path : String) (cause : FileCause)
  deriving DecidableEq, Repr

namespace ArtifactError

def causeMessage : ArtifactError → String
  | directory _ cause => cause.message
  | file _ cause => cause.message

def message : ArtifactError → String
  | directory path cause => "failed to create output directory " ++ path ++ ": " ++ cause.message
  | file path cause => "failed to write file " ++ path ++ ": " ++ cause.message

end ArtifactError

namespace GeneratedFile

/-- Where the file is written below an output directory. -/
def pathBelow (file : GeneratedFile) (out : String) : String := join out file.name

/-- What is written of the file. -/
def bytes (file : GeneratedFile) : List UInt8 := Text.utf8Bytes file.content

/-- Writes the file below an output directory and returns its path. -/
def writeBelow (file : GeneratedFile) (out : String) (device : Device) (tree : Tree) :
    Tree × Except ArtifactError String :=
  if staysInside file.name then
    match tree.makeDirectories device (ancestors (file.pathBelow out)).tail with
    | (grown, .ok ()) =>
      match grown.writeFile device fileMode (file.pathBelow out) file.bytes with
      | (written, .ok ()) => (written, .ok (file.pathBelow out))
      | (left, .error e) => (left, .error (.file (file.pathBelow out) (.failed e)))
    | (grown, .error e) => (grown, .error (.directory (parent (file.pathBelow out)) e))
  else (tree, .error (.file (file.pathBelow out) .outside))

end GeneratedFile

end Protogen
