/-!
# Path texts

A path is a text, and it keeps the form in which it was put together. What it
names depends on its components only: slashes that are repeated or at the end
and dots that stand alone are no components, except for a dot in front.
-/

namespace Protogen

namespace Files

/-- The parts between the slashes, empty ones and dots included. -/
def pieces (path : String) : List String := (path.toList.splitOn '/').map String.ofList

inductive Component
  | root
  | current
  | parent
  | normal (name : String)
  deriving DecidableEq, Repr

/-- The component that a piece is, wherever it stands. -/
def Component.ofPiece? (piece : String) : Option Component :=
  if piece = "" ∨ piece = "." then none
  else if piece = ".." then some .parent
  else some (.normal piece)

def isAbsolute (path : String) : Bool := path.toList.head? = some '/'

/-- The component that only the front of a path can have. -/
def frontComponents (path : String) : List Component :=
  if isAbsolute path then [.root]
  else if (pieces path).head? = some "." then [.current]
  else []

def components (path : String) : List Component :=
  frontComponents path ++ (pieces path).filterMap Component.ofPiece?

/-- Whether a path leads from a directory to something inside it. -/
def staysInside (path : String) : Bool :=
  !path.isEmpty && !isAbsolute path && !(components path).contains .parent

/-- The path of `path` as seen from `base`. An absolute path is its own. -/
def join (base path : String) : String :=
  if isAbsolute path then path
  else if base.isEmpty || base.toList.getLast? = some '/' then base ++ path
  else base ++ "/" ++ path

/-- A path as the text of its front component and the pieces after it. -/
def anchored (path : String) : String × List String :=
  match pieces path with
  | "" :: piece :: rest => ("/", piece :: rest)
  | "." :: rest => (".", "" :: rest)
  | all => ("", all)

/-- A piece that is a component wherever it stands. -/
def isSolid (piece : String) : Bool := (Component.ofPiece? piece).isSome

/-- The paths that end in each solid piece, given the pieces from the last to
the first. -/
def ancestorsFrom (anchor : String) : List String → List String
  | [] => if anchor.isEmpty then [] else [anchor]
  | piece :: above =>
    if isSolid piece then
      (anchor ++ "/".intercalate (piece :: above).reverse) :: ancestorsFrom anchor above
    else ancestorsFrom anchor above

/-- A path and the directories above it, as far as its text tells. -/
def ancestors (path : String) : List String :=
  ancestorsFrom (anchored path).1 (anchored path).2.reverse

/-- The directory of a path; empty if it is the working directory. -/
def parent (path : String) : String := ((ancestors path)[1]?).getD ""

end Files

end Protogen
