/-!
# Scopes

A dotted name is looked up from a scope outwards: in the scope itself, then in
what is left of it before each of its dots, the last dot first, and at last in
the empty scope.
-/

namespace Protogen

namespace Name

/-- What stands before each dot of a text, the longest first. The text is given
backwards. -/
def beforeDots : List Char → List String
  | [] => []
  | c :: cs =>
    if c = '.' then String.ofList cs.reverse :: beforeDots cs else beforeDots cs

/-- The scope and the scopes around it. -/
def outerScopes (scope : String) : List String :=
  scope :: beforeDots scope.toList.reverse ++ [""]

/-- A name in a scope; the empty scope adds nothing. -/
def inScope (scope name : String) : String :=
  if scope.isEmpty then name else scope ++ "." ++ name

end Name

end Protogen
