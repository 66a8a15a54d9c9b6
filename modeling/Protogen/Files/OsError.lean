/-!
# Errors of the system

The ways in which an operation on files or programs is refused or breaks off, with
the texts under which they are reported.
-/

namespace Protogen

namespace Files

inductive OsError
  | missing
  | permissionDenied
  | alreadyExists
  | notDirectory
  | isDirectory
  | nameTooLong
  | tooManyLinks
  /-- A path that contains a NUL can name nothing. -/
  | nulInPath
  | deviceFault
  | fileTooLarge
  | noSpace
  | readOnly
  | quotaExceeded
  deriving DecidableEq, Repr

def OsError.message : OsError → String
  | missing => "No such file or directory (os error 2)"
  | permissionDenied => "Permission denied (os error 13)"
  | alreadyExists => "File exists (os error 17)"
  | notDirectory => "Not a directory (os error 20)"
  | isDirectory => "Is a directory (os error 21)"
  | nameTooLong => "File name too long (os error 36)"
  | tooManyLinks => "Too many levels of symbolic links (os error 40)"
  | nulInPath => "file name contained an unexpected NUL byte"
  | deviceFault => "Input/output error (os error 5)"
  | fileTooLarge => "File too large (os error 27)"
  | noSpace => "No space left on device (os error 28)"
  | readOnly => "Read-only file system (os error 30)"
  | quotaExceeded => "Disk quota exceeded (os error 122)"

end Files

end Protogen
