import Protogen.Source.Grammar

/-!
# Reading paths and bounds

A path is read component by component, each with its arguments. A bound is a
path too, with the marks that say how it binds.
-/

namespace Protogen

namespace Source

open Reader

/-- The words that stand in a path for a place and take no arguments. -/
def placeWords : List String := ["super", "self", "crate", "try"]

def startsPlace (ts : List Token) : Bool := startsAnyOf placeWords ts

/-- The segment that a type consists of, if it is one without a root. -/
def loneSegment? : TypeExpr → Option Segment
  | .path false [segment] => some segment
  | _ => none

namespace Segment

def arguments : Segment → List Argument
  | generic _ arguments => arguments
  | plain _ | call _ _ _ => []

end Segment

namespace Grammar

/-- The bounds behind a colon, up to a sign that ends them. -/
def boundsUntil (g : Grammar) (ends : List Token → Bool) : Reader (List Bound) :=
  whileStarts (fun ts => !ends ts) (g.bound false true) (marks? "+")

def endsArgument (ts : List Token) : Bool := starts "," ts || starts ">" ts

/-- What follows an argument that is a name, if it is more than that. -/
def argumentBehind (g : Grammar) (type : TypeExpr) (segment : Segment) : Reader Argument := do
  if ← marks? "=" then
    if startsFixedValue (← tokens) then
      return .valueBinding segment.name segment.arguments (← g.argumentValue)
    else return .binding segment.name segment.arguments (← g.type true)
  else if ← marks? ":" then
    return .bounded segment.name segment.arguments (← g.boundsUntil endsArgument)
  else return .type type

def argument (g : Grammar) : Reader Argument := do
  if startsLifetime (← tokens) && !starts "+" (← tokens).tail then return .lifetime (← lifetime)
  else if startsFixedValue (← tokens) then return .value (← g.argumentValue)
  else
    let type ← g.type true
    match loneSegment? type with
    | some segment => g.argumentBehind type segment
    | none => return .type type

def arguments (g : Grammar) : Reader (List Argument) := do
  marks "<"
  angled g.argument

/-- Whether the arguments of a component begin; in a value they need a double
colon. -/
def startsArguments (inValue : Bool) (ts : List Token) : Bool :=
  (!inValue && starts "<" ts && !starts "<=" ts && !starts "<<=" ts) ||
    (starts "::" ts && starts "<" (ts.drop 2))

/-- A component of a path with its arguments. -/
def segment (g : Grammar) (inValue : Bool) : Reader Segment := do
  if startsPlace (← tokens) then return .plain (← anyWord)
  else
    let name ← if startsWord "Self" (← tokens) then anyWord else name
    if startsArguments inValue (← tokens) then
      let _ ← marks? "::"
      return .generic name (← g.arguments)
    else return .plain name

/-- Further components, each behind a double colon. -/
def moreSegments (g : Grammar) (inValue : Bool) (goesOn : List Token → Bool) :
    Reader (List Segment) :=
  whileStarts (fun ts => starts "::" ts && goesOn ts)
    (do
      marks "::"
      g.segment inValue)
    (pure true)

/-- A path, and whether it begins at the root. It ends before a double colon with
parentheses behind it. -/
def path (g : Grammar) (inValue : Bool) : Reader (Bool × List Segment) := do
  let rooted ← marks? "::"
  let first ← g.segment inValue
  let more ← g.moreSegments inValue fun ts => !startsGroup .round (ts.drop 2)
  return (rooted, first :: more)

/-- A path that is meant for a type in angles: the type, its role there with the
root of it, and the components. -/
def qualifiedPath (g : Grammar) (inValue : Bool) :
    Reader (TypeExpr × (Bool × List Segment) × List Segment) := do
  marks "<"
  let owner ← g.type true
  let role ← if ← word? "as" then g.path false else pure (false, [])
  marks ">"
  marks "::"
  let first ← g.segment inValue
  let more ← g.moreSegments inValue fun _ => true
  return (owner, role, first :: more)

/-- A path as a value, which may be meant for a type. -/
def pathValue (g : Grammar) : Reader ValueExpr := do
  if starts "<" (← tokens) then
    let (owner, (roleRooted, role), segments) ← g.qualifiedPath true
    return .qualified owner roleRooted role segments
  else
    let (rooted, segments) ← g.path true
    return .path rooted segments

/-- What a path with an exclamation mark behind it stands for. -/
def callOr (value : ValueExpr) (otherwise : Reader ValueExpr) : Reader ValueExpr := do
  match value with
  | .path rooted segments =>
    if starts "!" (← tokens) && !starts "!=" (← tokens) && segments.all Segment.isPlain then
      drop 1
      let (bracket, inner) ← anyGroup
      return .call rooted (segments.map Segment.name) bracket inner
    else otherwise
  | _ => otherwise

/-- The result of a function, if it has one. -/
def output (g : Grammar) : Reader (Option TypeExpr) := do
  if ← marks? "->" then return some (← g.type false) else return none

def lifetimeBounds : Reader (List String) := do
  if ← marks? ":" then
    whileStarts (fun ts => !(ts.isEmpty || endsArgument ts)) lifetime (marks? "+")
  else return []

def plainParameter (g : Grammar) : Reader Parameter := do
  if startsName (← tokens) then
    let name ← name
    let bounds ←
      if ← marks? ":" then
        g.boundsUntil fun ts => ts.isEmpty || endsArgument ts || starts "=" ts
      else pure []
    return .type name bounds (← if ← marks? "=" then some <$> g.type true else pure none)
  else if startsLifetime (← tokens) then
    let text ← lifetime
    return .lifetime text (← lifetimeBounds)
  else if ← word? "const" then
    let name ← name
    marks ":"
    let type ← g.type true
    return .value name type (← if ← marks? "=" then some <$> g.argumentValue else pure none)
  else missing "one of: identifier, lifetime, `const`"

def parameter (g : Grammar) : Reader Parameter := do
  let attributes ← g.attributes
  let parameter ← g.plainParameter
  return if attributes.isEmpty then parameter else .attributed attributes parameter

/-- The parameters of a binder, if there is one. -/
def binder? (g : Grammar) : Reader (Option (List Parameter)) := do
  if ← word? "for" then
    marks "<"
    return some (← angled g.parameter)
  else return none

/-- Takes the word for a constant bound, which may stand in brackets. -/
def constantMark (allowed : Bool) : Reader Unit := do
  if startsGroup .square (← tokens) then
    inside .square (word "const")
    if !allowed then throw (.misplaced "`[const]`")
  else if ← word? "const" then
    if !allowed then throw (.misplaced "`const`")

/-- The components of a trait. The last one may have the arguments of a function. -/
def traitSegments (g : Grammar) (segments : List Segment) : Reader (List Segment) := do
  match segments.getLast? with
  | none => return segments
  | some last =>
    if last.isBare && (startsGroup .round (← tokens) ||
        (starts "::" (← tokens) && startsGroup .round ((← tokens).drop 2))) then
      let _ ← marks? "::"
      let inputs ← inside .round (listed (g.type true))
      return segments.dropLast ++ [.call last.name inputs (← g.output)]
    else return segments

def traitBound (g : Grammar) (constants : Bool) : Reader Bound := do
  let outer ← g.binder?
  constantMark constants
  let optional ← marks? "?"
  let binder ← if optional && outer.isNone then g.binder? else pure outer
  let (rooted, segments) ← g.path false
  let segments ← g.traitSegments segments
  if optional && binder.isSome then throw .optionalBinder
  return .trait false optional binder rooted segments

/-- A name that a type captures. -/
def capture : Reader String := do
  if startsLifetime (← tokens) then lifetime
  else if startsName (← tokens) || startsWord "Self" (← tokens) then anyWord
  else missing "one of: lifetime, identifier, `>`"

def captures : Reader (List String) := do
  word "use"
  marks "<"
  let names ← whileStarts (fun ts => !starts ">" ts) capture do
    if starts ">" (← tokens) then return false
    else if ← marks? "," then return true
    else missing "`,` or `>`"
  marks ">"
  return names

def readBound (g : Grammar) (mayCapture constants : Bool) : Reader Bound := do
  if startsLifetime (← tokens) then return .lifetime (← lifetime)
  else if startsWord "use" (← tokens) then
    let names ← captures
    if mayCapture then return .captures names
    else throw (.misplaced "`use<...>` precise capturing syntax")
  else if startsGroup .round (← tokens) then
    return (← inside .round (g.traitBound constants)).inGroup
  else g.traitBound constants

end Grammar

end Source

end Protogen
