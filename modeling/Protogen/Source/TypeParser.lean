import Protogen.Source.ValueParser

/-!
# Reading types

A text is read as one type expression. The grammar of a level is made from the
grammar of the next one, so a text is read with as many levels as it has tokens
at most.
-/

namespace Protogen

namespace Source

open Reader

def typeStarts : String :=
  "one of: `for`, parentheses, `fn`, `unsafe`, `extern`, identifier, `::`, `<`, `dyn`, " ++
    "square brackets, `*`, `&`, `!`, `impl`, `_`, lifetime"

/-- What may follow a binder. -/
def boundStarts : String :=
  "one of: identifier, `fn`, `unsafe`, `extern`, `super`, `self`, `Self`, `crate`"

def startsFunction (ts : List Token) : Bool :=
  startsWord "fn" ts || startsWord "unsafe" ts || startsWord "extern" ts

def startsBound (ts : List Token) : Bool :=
  startsAnyWord ts || startsLifetime ts || startsGroup .round ts || starts "::" ts ||
    starts "?" ts

/-- What parentheses around one thing hold. -/
inductive RoundContent
  | type (type : TypeExpr)
  /-- A bound, which further ones may follow behind the parentheses. -/
  | bound (bound : Bound)
  /-- A single type, and whether it can be the first of several bounds. -/
  | single (type : TypeExpr) (bound : Option Bound)

/-- The bound that a type in parentheses stands for. -/
def groupedBound? : TypeExpr → Option Bound
  | .path rooted segments => some (.trait true false none rooted segments)
  | .object [bound] => some bound.inGroup
  | _ => none

def endsInPlus (ts : List Token) : Bool :=
  match ts.getLast? with
  | some (.mark '+' _) => true
  | _ => false

def isTextLiteral (text : String) : Bool :=
  text.toList.head? = some '"' || text.toList.head? = some 'r'

/-- An object known by its bounds, if there is a trait among them. -/
def objectType (bounds : List Bound) : Except TypeError TypeExpr :=
  if bounds.any Bound.isTrait then .ok (.object bounds)
  else .error (.noTrait "is required for an object type")

def hiddenType (bounds : List Bound) : Except TypeError TypeExpr :=
  if bounds.any Bound.isTrait then .ok (.hidden bounds)
  else .error (.noTrait "must be specified")

namespace Grammar

/-- Bounds with plus signs between them; one only, unless `sums`. The last plus
sign may have none behind it. -/
def bounds (g : Grammar) (sums mayCapture constants : Bool) : Reader (List Bound) :=
  whileStarts (fun _ => true) (g.bound mayCapture constants) do
    if sums && starts "+" (← tokens) then
      marks "+"
      let ts ← tokens
      return startsBound ts || (constants && startsGroup .square ts)
    else return false

/-- Further bounds, each after a plus sign. -/
def moreBounds (g : Grammar) : Reader (List Bound) := do
  if starts "+" (← tokens) then
    marks "+"
    if startsBound (← tokens) then g.bounds true false false else return []
  else return []

/-- Further bounds, of which none may be missing. -/
def addedBounds (g : Grammar) : Reader (List Bound) :=
  whileStarts (starts "+")
    (do
      marks "+"
      g.bound false false)
    (pure true)

def roundContent (g : Grammar) : Reader RoundContent := do
  let ts ← tokens
  if ts.isEmpty then return .type (.tuple [])
  else if startsLifetime ts then
    return .type (.group (← objectType (← g.bounds true false false)))
  else if starts "?" ts then return .bound (← g.traitBound false)
  else
    let first ← g.type true
    if ← marks? "," then return .type (.tuple (first :: (← listed (g.type true))))
    else
      return .single first
        (if startsWord "dyn" ts || endsInPlus ts then none else groupedBound? first)

/-- A type in parentheses, a tuple, or bounds of which the first is in
parentheses. -/
def roundType (g : Grammar) (sums : Bool) : Reader TypeExpr := do
  match ← inside .round g.roundContent with
  | .type type => return type
  | .bound bound => return .object (bound.inGroup :: (← g.addedBounds))
  | .single type bound? =>
    match bound? with
    | some bound =>
      if sums && starts "+" (← tokens) then return .object (bound :: (← g.addedBounds))
      else return .group type
    | none => return .group type

def squareType (g : Grammar) : Reader TypeExpr :=
  inside .square do
    let element ← g.type true
    if ← marks? ";" then return .array element (← g.value true) else return .slice element

/-- The name of an argument with its colon, if it has one. Only the first one may
be named after the owner of the function. -/
def inputName? (isFirst : Bool) : Reader (Option String) := do
  let ts ← tokens
  if (startsName ts || startsWord "_" ts || (isFirst && startsWord "self" ts)) &&
      starts ":" ts.tail && !starts "::" ts.tail then
    let name ← anyWord
    marks ":"
    return some name
  else return none

def startsRest (ts : List Token) : Bool :=
  starts "..." ts ||
    ((startsName ts || startsWord "_" ts) && starts ":" ts.tail && starts "..." (ts.drop 2))

/-- The mark for any number of further arguments, with a comma that may follow. -/
def inputRest : Reader Input := do
  let name? ← inputName? false
  marks "..."
  let _ ← marks? ","
  return .rest ((name?.map (· ++ ": ")).getD "" ++ "...")

/-- The arguments of a function type, up to the end of the group. -/
def inputs (g : Grammar) (isFirst : Bool) : Nat → Reader (List Input)
  | 0 => return []
  | fuel + 1 => do
    if (← tokens).isEmpty then return []
    else
      let attributes ← g.attributes
      let attributed (input : Input) : Input :=
        if attributes.isEmpty then input else .attributed attributes input
      if startsRest (← tokens) then return [attributed (← inputRest)]
      else
        let input : Input ← match ← inputName? isFirst with
          | some name => .named name <$> g.type true
          | none => .plain <$> g.type true
        if (← tokens).isEmpty then return [attributed input]
        else
          marks ","
          return attributed input :: (← g.inputs false fuel)

/-- How a function is called: under which rules, and by which convention. -/
def qualities : Reader String := do
  let first := if ← word? "unsafe" then "unsafe " else ""
  if ← word? "extern" then
    match ← tokens with
    | .literal text :: _ =>
      if isTextLiteral text then
        drop 1
        return first ++ "extern " ++ text ++ " "
      else return first ++ "extern "
    | _ => return first ++ "extern "
  else return first

def functionType (g : Grammar) (binder : Option (List Parameter)) : Reader TypeExpr := do
  let qualities ← qualities
  word "fn"
  let inputs ← inside .round do g.inputs true ((← tokens).length + 1)
  return .function binder qualities inputs (← g.output)

/-- A path, a call, or bounds of which the first is a path. -/
def pathType (g : Grammar) (sums : Bool) (binder : Option (List Parameter)) :
    Reader TypeExpr := do
  if starts "<" (← tokens) then
    let (owner, (roleRooted, role), segments) ← g.qualifiedPath false
    return .qualified owner roleRooted role segments
  else
    let (rooted, segments) ← g.path false
    let ts ← tokens
    if starts "!" ts && !starts "!=" ts && segments.all Segment.isPlain then
      drop 1
      let (bracket, inner) ← anyGroup
      return .call rooted (segments.map Segment.name) bracket inner
    else if binder.isSome || (sums && starts "+" ts) then
      let more ← if sums then g.moreBounds else pure []
      return .object (.trait false false binder rooted segments :: more)
    else return .path rooted segments

/-- A type behind a binder. -/
def boundType (g : Grammar) (sums : Bool) : Reader TypeExpr := do
  let binder ← g.binder?
  let ts ← tokens
  if startsFunction ts then g.functionType binder
  else if startsNamedPlace ts then g.pathType sums binder
  else missing boundStarts

def pointerType (g : Grammar) : Reader TypeExpr := do
  marks "*"
  if ← word? "const" then return .pointer false (← g.type false)
  else if ← word? "mut" then return .pointer true (← g.type false)
  else missing "`const` or `mut`"

def referenceType (g : Grammar) : Reader TypeExpr := do
  marks "&"
  let lifetime ← lifetime?
  let mutable ← word? "mut"
  return .reference lifetime mutable (← g.type false)

def readType (g : Grammar) (sums : Bool) : Reader TypeExpr := do
  let ts ← tokens
  if startsWord "for" ts then g.boundType sums
  else if startsGroup .round ts then g.roundType sums
  else if startsFunction ts then g.functionType none
  else if startsNamedPlace ts || starts "::" ts || starts "<" ts then g.pathType sums none
  else if ← word? "dyn" then return ← objectType (← g.bounds sums false false)
  else if startsGroup .square ts then g.squareType
  else if starts "*" ts then g.pointerType
  else if starts "&" ts then g.referenceType
  else if ← marks? "!" then return .never
  else if ← word? "impl" then return ← hiddenType (← g.bounds sums true true)
  else if ← word? "_" then return .inferred
  else if startsLifetime ts then return ← objectType (← g.bounds true false false)
  else missing typeStarts

/-- The grammar of a place with so many levels of nesting below it. -/
def ofDepth : Nat → Grammar
  | 0 => ⟨fun _ => missing typeStarts, fun _ => missing "an expression",
      fun _ => missing "an expression", missing "an expression", missing patternStarts,
      missing "curly braces", fun _ _ => missing "identifier"⟩
  | depth + 1 =>
    let g := ofDepth depth
    ⟨g.readType, g.readValue, g.readUnary, g.readClause, g.readPattern, g.readBlock, g.readBound⟩

end Grammar

/-- The type that a text stands for. -/
def TypeExpr.parse (s : String) : Except TypeError TypeExpr :=
  match Token.all? s with
  | none => .error .noTokens
  | some ts =>
    match (Grammar.readType (Grammar.ofDepth (2 * s.length + 2)) true).run ⟨ts, none⟩ with
    | .error e => .error e
    | .ok (type, left) =>
      if left.leftOver.isSome then .error (.leftOver left.leftOver)
      else if left.rest.isEmpty then .ok type
      else .error (.leftOver none)

end Source

end Protogen
