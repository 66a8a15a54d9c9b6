import Protogen.Source.Operator

/-!
# Forms of values

What a value expression begins and ends with decides what may stand next to it,
and how it is set.
-/

namespace Protogen

namespace Source

namespace ValueExpr

def withAttributes (value : ValueExpr) (attributes : List Attribute) : ValueExpr :=
  if attributes.isEmpty then value else .attributed attributes value

/-- The value without the attributes before it. -/
def bare : ValueExpr → ValueExpr
  | .attributed _ value => value.bare
  | value => value

def isComparison : ValueExpr → Bool
  | .binary _ mark _ => operators.lookup mark == some Level.comparison
  | _ => false

def isRange : ValueExpr → Bool
  | .range _ _ _ => true
  | _ => false

/-- Whether a value is a block, or a form that is made of blocks. -/
def endsWithItsBlock (value : ValueExpr) : Bool :=
  match value.bare with
  | .block _ _ | .conditional _ _ _ | .choice _ _ | .endless _ _ | .whileTrue _ _ _
  | .forEach _ _ _ _ => true
  | .special words _ => !"async".isPrefixOf words
  | _ => false

/-- The value with attributes on what it begins with. -/
def withFirstAttributes (value : ValueExpr) (attributes : List Attribute) : ValueExpr :=
  match value with
  | .assignment place value => .assignment (place.withFirstAttributes attributes) value
  | .binary left mark right => .binary (left.withFirstAttributes attributes) mark right
  | .cast value type => .cast (value.withFirstAttributes attributes) type
  | value => value.withAttributes attributes

/-- Whether a value is written with a brace at its end. -/
def endsInBrace : ValueExpr → Bool
  | .record _ _ _ _ | .block _ _ | .special _ _ | .conditional _ _ _ | .choice _ _ | .endless _ _
  | .whileTrue _ _ _ | .forEach _ _ _ _ => true
  | .call _ _ bracket _ => bracket = .curly
  | .assignment _ value | .binary _ _ value | .closure _ _ _ _ value | .matching _ value
  | .range _ _ (some value) | .jump _ (some value) | .marked _ value
  | .attributed _ value => value.endsInBrace
  | _ => false

/-- Whether a value is a name so short that its members begin on the same line. -/
def isShortName : ValueExpr → Bool
  | .path false [.plain name] => decide (name.utf8ByteSize ≤ 4)
  | _ => false

/-- Whether a value is written with what is taken of another one at its end. -/
def isChain : ValueExpr → Bool
  | .member _ _ | .method _ _ _ _ | .apply _ _ | .index _ _ | .attempt _ => true
  | _ => false

/-- Whether a value has brackets of its own around it. -/
def isBracketed : ValueExpr → Bool
  | .array _ | .block _ _ | .special _ _ | .closure _ _ _ _ _ | .record _ _ _ _ | .tuple _ => true
  | _ => false

/-- Whether a line that holds only the value needs a semicolon. -/
def isJump : ValueExpr → Bool
  | .assignment _ _ => true
  | .binary _ mark _ => operators.lookup mark == some Level.assignment
  | .jump _ _ => true
  | _ => false

/-- Whether a value never has a result, so that no semicolon is written behind it. -/
def hasNoResult : ValueExpr → Bool
  | .whileTrue _ _ _ | .forEach _ _ _ _ => true
  | .conditional _ _ none => true
  | .conditional _ _ (some otherwise) => otherwise.hasNoResult
  | _ => false

/-- Whether a brace behind the value has to be told from it by a line of its own. -/
def needsGap : ValueExpr → Bool
  | .assignment _ _ | .binary _ _ _ | .cast _ _ | .member _ _ | .index _ _
  | .method _ _ _ _ => true
  | .jump _ (some value) | .apply value _ | .matching _ value | .group value
  | .range _ _ (some value) | .marked _ value | .attempt value => value.needsGap
  | _ => false

/-- What a case of a choice answers, without the blocks that hold nothing else. -/
def sole : ValueExpr → ValueExpr
  | .block none [.value value false] => value.sole
  | value => value

end ValueExpr

end Source

end Protogen
