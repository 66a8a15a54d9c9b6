import Protogen.Files.OsError
import Protogen.Files.Path

/-!
# The directory tree

A tree is a table from locations to entries. A location is the list of names
from the root down, so it is free of links and dots, and whether two paths name
the same file is a question about the locations they lead to.

`locate` follows a path from the working directory. Links are followed by
putting the pieces of the target before the pieces that are left; there may be
forty of them on the way. What it finds need not exist, as long as its directory
does. A last name with slashes behind it is not looked up at all: its place is
`slashed`, which can be no file, and the same holds at the end of a link.

The device below the tree may refuse to make a directory or to open a file, in
which case the tree is as it was. Once a file is open nothing of what was in it is
left. So if the device fails then, the file holds what was written until then.
-/

namespace Protogen

namespace Files

/-- The names from the root down. -/
abbrev Location := List String

inductive Entry
  | directory (mode : Nat)
  | file (mode : Nat) (content : List UInt8)
  | link (target : String)
  deriving DecidableEq, Repr

structure Tree where
  entries : List (Location × Entry)
  workingDirectory : Location
  deriving DecidableEq, Repr

/-- Where a path leads. -/
inductive Place
  | existing (location : Location)
  | vacant (directory : Location) (name : String)
  | slashed
  deriving DecidableEq, Repr

/-- What a tree is kept on. -/
structure Device where
  /-- The paths under which nothing is made and no file is opened, and why. -/
  refusals : List (String × OsError)
  /-- How many bytes there is room for, and what comes of more. -/
  room? : Option (Nat × OsError)
  deriving DecidableEq, Repr

namespace Device

def sound : Device := ⟨[], none⟩

/-- Takes so many bytes of what is written, and fails if there are more. -/
def failing (room : Nat) (fault : OsError) : Device := ⟨[], some (room, fault)⟩

def permits (device : Device) (path : String) : Except OsError Unit :=
  match device.refusals.lookup path with
  | some cause => .error cause
  | none => .ok ()

/-- The bytes that are taken of those that are written, and how that ends. -/
def take (device : Device) (bytes : List UInt8) : List UInt8 × Except OsError Unit :=
  match device.room? with
  | none => (bytes, .ok ())
  | some (room, fault) =>
    if bytes.length ≤ room then (bytes, .ok ()) else (bytes.take room, .error fault)

end Device

/-- Mode of a created directory: all may enter, the owner may change it. -/
def directoryMode : Nat := 0o755

/-- Mode of a created file: closed to others. -/
def fileMode : Nat := 0o640

/-- The longest name in bytes. -/
def nameLimit : Nat := 255

/-- The length in bytes that no path may reach. -/
def pathLimit : Nat := 4096

/-- The number of links that may be met on the way. -/
def linkLimit : Nat := 40

def onlySlashes (rest : List String) : Bool := rest.all String.isEmpty

namespace Tree

/-- The entry at a location. The root is always there. -/
def get? (tree : Tree) (location : Location) : Option Entry :=
  if location.isEmpty then some (.directory directoryMode) else tree.entries.lookup location

/-- The tree with another entry at a location. -/
def put (tree : Tree) (location : Location) (entry : Entry) : Tree :=
  { tree with entries := (location, entry) :: tree.entries.filter fun e => e.1 != location }

/-- Where the first piece of a path is looked up. -/
def start (here : Location) (path : String) : Location := if isAbsolute path then [] else here

/-- Goes down the pieces from the directory `here`; `follow` goes on behind a
link. -/
def locateWith (tree : Tree) (follow : Location → List String → Except OsError Place) :
    Location → List String → Except OsError Place
  | here, [] => .ok (.existing here)
  | here, piece :: rest =>
    match Component.ofPiece? piece with
    | some (.normal name) =>
      if !rest.isEmpty && onlySlashes rest then .ok .slashed
      else if nameLimit < name.utf8ByteSize then .error .nameTooLong
      else match tree.get? (here ++ [name]) with
        | some (.directory _) => tree.locateWith follow (here ++ [name]) rest
        | some (.link target) => follow (start here target) (pieces target ++ rest)
        | some (.file _ _) =>
          if rest.isEmpty then .ok (.existing (here ++ [name])) else .error .notDirectory
        | none => if rest.isEmpty then .ok (.vacant here name) else .error .missing
    | some .parent => tree.locateWith follow here.dropLast rest
    | _ => tree.locateWith follow here rest

def locateFrom (tree : Tree) : Nat → Location → List String → Except OsError Place
  | 0 => tree.locateWith fun _ _ => .error .tooManyLinks
  | links + 1 => tree.locateWith (tree.locateFrom links)

/-- A path that may be looked up at all. -/
def checkPath (path : String) : Except OsError Unit :=
  if path.toList.contains '\x00' then .error .nulInPath
  else if pathLimit ≤ path.utf8ByteSize then .error .nameTooLong
  else .ok ()

/-- Where a path leads from the working directory. -/
def locate (tree : Tree) (path : String) : Except OsError Place := do
  checkPath path
  tree.locateFrom linkLimit (start tree.workingDirectory path) (pieces path)

/-- The directory that the pieces of a path lead to. -/
def directoryOf (tree : Tree) (here : Location) (path : List String) : Except OsError Location :=
  match tree.locateFrom linkLimit here (path ++ ["."]) with
  | .ok (.existing location) => .ok location
  | .ok _ => .error .missing
  | .error e => .error e

def isDirectory (tree : Tree) (path : String) : Bool :=
  (checkPath path).isOk &&
    (tree.directoryOf (start tree.workingDirectory path) (pieces path)).isOk

/-- The content of the file that a path leads to. -/
def read? (tree : Tree) (path : String) : Option (List UInt8) :=
  match tree.locate path with
  | .ok (.existing location) =>
    match tree.get? location with
    | some (.file _ content) => some content
    | _ => none
  | _ => none

/-- The location of a new entry. Slashes behind its name do not matter, and a
link that bears the name is in the way even if it leads nowhere. -/
def newLocation (tree : Tree) (path : String) : Except OsError Location := do
  checkPath path
  match (pieces path).reverse.dropWhile String.isEmpty with
  | [] => .error .alreadyExists
  | piece :: above =>
    let directory ←
      tree.directoryOf (start tree.workingDirectory path) above.reverse
    match Component.ofPiece? piece with
    | some (.normal name) =>
      if nameLimit < name.utf8ByteSize then .error .nameTooLong
      else if (tree.get? (directory ++ [name])).isSome then .error .alreadyExists
      else .ok (directory ++ [name])
    | _ => .error .alreadyExists

def makeDirectory (tree : Tree) (device : Device) (path : String) : Except OsError Tree := do
  let location ← tree.newLocation path
  device.permits path
  return tree.put location (.directory directoryMode)

def makeLink (tree : Tree) (path target : String) : Except OsError Tree :=
  (tree.newLocation path).map fun location => tree.put location (.link target)

/-- Makes the first of the directories, each of which is inside the next one, and
those of the others that it needs. Directories made before a failure stay. -/
def makeDirectories (tree : Tree) (device : Device) : List String → Tree × Except OsError Unit
  | [] => (tree, .ok ())
  | path :: above =>
    match tree.makeDirectory device path with
    | .ok made => (made, .ok ())
    | .error .missing =>
      match tree.makeDirectories device above with
      | (grown, .ok ()) =>
        match grown.makeDirectory device path with
        | .ok made => (made, .ok ())
        | .error e => (grown, if grown.isDirectory path then .ok () else .error e)
      | failed => failed
    | .error e => (tree, if tree.isDirectory path then .ok () else .error e)

/-- Lets a file hold the content. What was in it before is gone, but a file that was
there keeps its mode. -/
def fillFile (tree : Tree) (mode : Nat) (path : String) (content : List UInt8) :
    Except OsError Tree :=
  match tree.locate path with
  | .ok (.existing location) =>
    match tree.get? location with
    | some (.file old _) => .ok (tree.put location (.file old content))
    | _ => .error .isDirectory
  | .ok (.vacant directory name) => .ok (tree.put (directory ++ [name]) (.file mode content))
  | .ok .slashed => .error .isDirectory
  | .error e => .error e

/-- Writes a file. If the device lets it be opened, it is left with what the device
takes. -/
def writeFile (tree : Tree) (device : Device) (mode : Nat) (path : String)
    (content : List UInt8) : Tree × Except OsError Unit :=
  match tree.fillFile mode path (device.take content).1, device.permits path with
  | .ok filled, .ok () => (filled, (device.take content).2)
  | .ok _, .error e => (tree, .error e)
  | .error e, _ => (tree, .error e)

end Tree

end Files

end Protogen
