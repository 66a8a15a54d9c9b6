import Protogen.Source.BlockParser

/-!
# Reading values

The values that can stand in a type: literals, paths, calls, operations, and
blocks with all that can be in them.
-/

namespace Protogen

namespace Source

open Reader

def startsPath (ts : List Token) : Bool :=
  startsNamedPlace ts || starts "::" ts || starts "<" ts ||
    (startsWord "try" ts && (starts "!" ts.tail || starts "::" ts.tail))

def startsClosure (ts : List Token) : Bool :=
  starts "|" ts || startsAnyOf ["move", "static"] ts ||
    (startsWord "for" ts && !startsForEach ts) ||
    (startsWord "const" ts && !startsGroup .curly ts.tail) ||
    (startsWord "async" ts && (starts "|" ts.tail || startsWord "move" ts.tail))

def startsAsynchronousBlock (ts : List Token) : Bool :=
  startsWord "async" ts &&
    (startsGroup .curly ts.tail || (startsWord "move" ts.tail && startsGroup .curly (ts.drop 2)))

namespace Grammar

/-- A value in parentheses, or several with commas between them. -/
def roundValue (g : Grammar) : Reader ValueExpr :=
  inside .round do
    if (← tokens).isEmpty then return .tuple []
    else
      let first ← g.value true
      if (← tokens).isEmpty then return .group first
      else
        marks ","
        return .tuple (first :: (← listed (g.value true)))

/-- An array of values, or of one value repeated. -/
def squareValue (g : Grammar) : Reader ValueExpr :=
  inside .square do
    if (← tokens).isEmpty then return .array []
    else
      let first ← g.value true
      if (← tokens).isEmpty then return .array [first]
      else if ← marks? "," then return .array (first :: (← listed (g.value true)))
      else if ← marks? ";" then return .repeated first (← g.value true)
      else missing "`,` or `;`"

/-- A member of a structure and its value, which only a name can do without. -/
def entry (g : Grammar) : Reader Entry := do
  let attributes ← g.attributes
  let isNamed := startsName (← tokens)
  let name ← memberName
  let entry : Entry ←
    if !isNamed || starts ":" (← tokens) then
      marks ":"
      pure (.mk name (some (← g.value true)))
    else pure (.mk name none)
  return if attributes.isEmpty then entry else .attributed attributes entry

/-- The members of a structure, and the value that has the others. -/
def recordContent (g : Grammar) (name : ValueExpr) : Reader ValueExpr := do
  let entries ← whileStarts (fun ts => !ts.isEmpty && !starts ".." ts) g.entry
    (commaUnless List.isEmpty)
  if ← marks? ".." then
    if (← tokens).isEmpty then return .record false name entries none
    else return .record false name entries (some (.range none ".." (some (← g.value true))))
  else return .record false name entries none

/-- A path, a call that stands for a value, or a structure. -/
def namedValue (g : Grammar) (structs : Bool) : Reader ValueExpr := do
  let name ← g.pathValue
  callOr name do
    if structs && startsGroup .curly (← tokens) then inside .curly (g.recordContent name)
    else return name

/-- A value without operations around it. -/
def atom (g : Grammar) (structs : Bool) : Reader ValueExpr := do
  let ts ← tokens
  if startsLiteral ts then return .literal (← constant)
  else if startsAsynchronousBlock ts then g.asynchronousBlock
  else if startsWord "try" ts && startsGroup .curly ts.tail then g.blockForm
  else if startsClosure ts then g.closure structs
  else if startsPath ts then g.namedValue structs
  else if startsGroup .round ts then g.roundValue
  else if startsWord "break" ts then g.breakJump structs
  else if startsWord "continue" ts then continueJump
  else if startsAnyOf ["return", "become", "yield"] ts then g.jump
  else if startsGroup .square ts then g.squareValue
  else if startsWord "let" ts then g.matching structs
  else if startsBlockForm ts then g.blockForm
  else if starts ".." ts then g.openedRange structs
  else if ← word? "_" then return .inferred
  else missing "an expression"

/-- What stands behind a point: a member, or a call of one. A number with a point
stands for one member of another. -/
def memberBehindPoint (g : Grammar) : Nat → ValueExpr → Reader ValueExpr
  | 0, _ => missing "identifier or integer"
  | fuel + 1, owner => do
    match ← tokens with
    | .literal text :: _ =>
      if startsNumber (← tokens) && (Literal.integer? text).isNone then
        drop 1
        let parts := text.splitOn "."
        let isOpen := parts.getLast? == some ""
        let names ← (if isOpen then parts.dropLast else parts).mapM fun part =>
          liftM (memberNumber part)
        let owner := names.foldl ValueExpr.member owner
        if isOpen then g.memberBehindPoint fuel owner else return owner
      else return .member owner (← memberName)
    | ts =>
      if ← word? "await" then return .member owner "await"
      else
        let isNamed := startsName ts
        let name ← memberName
        let isGeneric ← if isNamed then marks? "::" else pure false
        let parameters ← if isGeneric then g.arguments else pure []
        if isGeneric || startsGroup .round (← tokens) then
          return .method owner name parameters (← inside .round (listed (g.value true)))
        else return .member owner name

/-- What is done with a value behind it: calls, members, indexes and attempts. -/
def trailersWithin (g : Grammar) : Nat → ValueExpr → Reader ValueExpr
  | 0, value => return value
  | fuel + 1, value => do
    let ts ← tokens
    if value.isRange then return value
    else if startsGroup .round ts then
      g.trailersWithin fuel (.apply value (← inside .round (listed (g.value true))))
    else if startsGroup .square ts then
      g.trailersWithin fuel (.index value (← inside .square (g.value true)))
    else if starts "." ts && !starts ".." ts then
      marks "."
      g.trailersWithin fuel (← g.memberBehindPoint ts.length value)
    else if ← marks? "?" then g.trailersWithin fuel (.attempt value)
    else return value

def trailers (g : Grammar) (value : ValueExpr) : Reader ValueExpr := do
  g.trailersWithin ((← tokens).length + 1) value

/-- A reference; a raw one says whether what it leads to may change. -/
def referenceValue (g : Grammar) (structs : Bool) : Reader ValueExpr := do
  marks "&"
  let ts ← tokens
  if startsWord "raw" ts && startsAnyOf ["mut", "const"] ts.tail then
    drop 1
    let word ← anyWord
    return .marked ("&raw " ++ word ++ " ") (← g.unary structs)
  else if ← word? "mut" then return .marked "&mut " (← g.unary structs)
  else return .marked "&" (← g.unary structs)

def readUnary (g : Grammar) (structs : Bool) : Reader ValueExpr := do
  let attributes ← g.attributes
  let ts ← tokens
  let value : ValueExpr ←
    if starts "&" ts then g.referenceValue structs
    else if ← marks? "*" then .marked "*" <$> g.unary structs
    else if ← marks? "!" then .marked "!" <$> g.unary structs
    else if ← marks? "-" then .marked "-" <$> g.unary structs
    else g.trailers (← g.atom structs)
  if value.isRange && !attributes.isEmpty then throw .attributedRange
  return value.withAttributes attributes

def readValue (g : Grammar) (structs : Bool) : Reader ValueExpr := do
  g.operations structs Level.assignment (← g.unary structs)

/-- A value as a statement: a form made of blocks ends with the block, unless a
member is taken of it. -/
def readClause (g : Grammar) : Reader ValueExpr := do
  let attributes ← g.attributes
  if startsBlockForm (← tokens) then
    let value ← g.blockForm
    let ts ← tokens
    if (starts "." ts && !starts ".." ts) || starts "?" ts then
      let value ← g.trailers value
      g.operations true Level.assignment (value.withAttributes attributes)
    else return value.withAttributes attributes
  else
    let value ← g.unary true
    g.operations true Level.assignment (value.withAttributes attributes)

end Grammar

end Source

end Protogen
