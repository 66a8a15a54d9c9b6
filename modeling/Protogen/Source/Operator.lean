import Protogen.Source.TypeExpr

/-!
# Operations on two values

The signs of operations, and how tightly each of them binds what stands around it.
-/

namespace Protogen

namespace Source

/-- How tightly an operation binds. -/
abbrev Level := Nat

namespace Level

def assignment : Level := 1

def range : Level := 2

def comparison : Level := 5

def cast : Level := 12

end Level

/-- The signs of operations on two values, the longer ones first. -/
def operators : List (String × Level) :=
  [("+=", 1), ("-=", 1), ("*=", 1), ("/=", 1), ("%=", 1), ("^=", 1), ("&=", 1), ("|=", 1),
   ("<<=", 1), (">>=", 1), ("&&", 4), ("||", 3), ("<<", 9), (">>", 9), ("==", 5), ("<=", 5),
   ("!=", 5), (">=", 5), ("+", 10), ("-", 10), ("*", 11), ("/", 11), ("%", 11), ("^", 7),
   ("&", 8), ("|", 6), ("<", 5), (">", 5)]

end Source

end Protogen
