import Protogen.Source.PathParser

/-!
# Reading patterns

A pattern is a literal or a range of them, a path with the patterns for what it
holds, a name to be bound, or several patterns in brackets or with bars between
them.
-/

namespace Protogen

namespace Source

open Reader

def patternStarts : String :=
  "one of: identifier, `::`, `<`, `_`, literal, `const`, `ref`, `mut`, `&`, parentheses, " ++
    "square brackets, `..`"

def patternEnds : String :=
  "one of: literal, identifier, `::`, `<`, `self`, `Self`, `super`, `crate`, `const`"

/-- Whether a path begins that is more than a name to be bound. -/
def startsPathPattern (ts : List Token) : Bool :=
  (startsName ts &&
      (starts "::" ts.tail || starts "!" ts.tail || startsGroup .curly ts.tail ||
        startsGroup .round ts.tail || starts ".." ts.tail)) ||
    (startsWord "self" ts && starts "::" ts.tail) || starts "::" ts || starts "<" ts ||
    startsAnyOf ["Self", "super", "crate"] ts

/-- Whether a bar that parts two patterns begins. -/
def startsBar (ts : List Token) : Bool := starts "|" ts && !starts "||" ts && !starts "|=" ts

/-- Whether what follows a pattern begins. -/
def endsPattern (ts : List Token) : Bool :=
  ts.isEmpty || starts "|" ts || starts "=" ts || (starts ":" ts && !starts "::" ts) ||
    starts "," ts || starts ";" ts || startsWord "if" ts

/-- The number of a member as it is usually written. -/
def memberNumber (text : String) : Except TypeError String :=
  match Literal.integer? text with
  | some (_, true) => .error (.expected false "unsuffixed integer")
  | some (n, false) => if n < 0x100000000 then .ok (toString n) else .error .largeIndex
  | none => .error (.expected false "integer literal")

namespace Reader

/-- The name of a member, or its number. -/
def memberName : Reader String := do
  match ← tokens with
  | .literal text :: _ =>
    match Literal.integer? text with
    | some _ =>
      drop 1
      memberNumber text
    | none => missing "identifier or integer"
  | ts => if startsName ts then anyWord else missing "identifier or integer"

/-- The marks of a range. A third point means that its end belongs to it. -/
def patternRangeMark : Reader String := do
  if ← marks? "..=" then return "..="
  else if ← marks? "..." then return "..="
  else
    marks ".."
    return ".."

end Reader

namespace Grammar

/-- One or several patterns, of which the first may have a bar before it. -/
def patterns (g : Grammar) : Reader ValueExpr := do
  let hasBar ← marks? "|"
  let first ← g.pattern
  let more ← whileStarts startsBar
    (do
      marks "|"
      g.pattern)
    (pure true)
  return if hasBar || !more.isEmpty then .either (first :: more) else first

/-- One end of a range, unless the pattern ends here. -/
def patternBound? (g : Grammar) : Reader (Option ValueExpr) := do
  let ts ← tokens
  if endsPattern ts then return none
  else if startsConstant ts then return some (.literal (← constant))
  else if startsName ts || starts "::" ts || starts "<" ts || startsNamedPlace ts then
    return some (← g.pathValue)
  else if ← word? "const" then return some (.special "const " (← g.block))
  else missing patternEnds

/-- A range from what stands before it. -/
def patternRange (g : Grammar) (first : Option ValueExpr) : Reader ValueExpr := do
  let mark ← patternRangeMark
  match ← g.patternBound? with
  | some last => return .range first mark (some last)
  | none => if mark = ".." then return .range first mark none else missing "range upper bound"

def fixedPattern (g : Grammar) : Reader ValueExpr := do
  match ← g.patternBound? with
  | some first => if starts ".." (← tokens) then g.patternRange (some first) else return first
  | none => missing patternEnds

/-- A member and the pattern for it. -/
def plainPatternEntry (g : Grammar) : Reader Entry := do
  let ref := if ← word? "ref" then "ref " else ""
  let mutable := if ← word? "mut" then "mut " else ""
  let isHeld := ref ++ mutable != ""
  let isNumber := startsNumber (← tokens)
  let name ← if isHeld then name else memberName
  if isNumber || (!isHeld && starts ":" (← tokens)) then
    marks ":"
    return .mk name (some (← g.patterns))
  else return .mk (ref ++ mutable ++ name) none

def patternEntry (g : Grammar) : Reader Entry := do
  let attributes ← g.attributes
  let entry ← g.plainPatternEntry
  return if attributes.isEmpty then entry else .attributed attributes entry

/-- The members of a structure, and whether there may be more. -/
def patternEntries (g : Grammar) : Reader (List Entry × Bool) := do
  let entries ← whileStarts
    (fun ts => !ts.isEmpty && !starts ".." (afterAttributes ts)) g.patternEntry
    (commaUnless List.isEmpty)
  if (← tokens).isEmpty then return (entries, false)
  else
    let _ ← g.attributes
    marks ".."
    return (entries, true)

/-- A path with what it holds, or a range that begins with it. -/
def pathPattern (g : Grammar) : Reader ValueExpr := do
  let value ← g.pathValue
  callOr value do
    let ts ← tokens
    if startsGroup .curly ts then
      let (entries, isOpen) ← inside .curly g.patternEntries
      return .record true value entries (if isOpen then some (.range none ".." none) else none)
    else if startsGroup .round ts then
      return .apply value (← inside .round (listed g.patterns))
    else if starts ".." ts then g.patternRange (some value)
    else return value

/-- A name to be bound, and the pattern that what it names has. -/
def boundName (g : Grammar) : Reader ValueExpr := do
  let ref := if ← word? "ref" then "ref " else ""
  let mutable := if ← word? "mut" then "mut " else ""
  let name ← if startsWord "self" (← tokens) then anyWord else name
  return .bound (ref ++ mutable) name (← if ← marks? "@" then some <$> g.pattern else pure none)

/-- A pattern in parentheses, or several with commas between them. -/
def roundPattern (g : Grammar) : Reader ValueExpr :=
  inside .round do
    if (← tokens).isEmpty then return .tuple []
    else
      let first ← g.patterns
      if (← tokens).isEmpty then return .group first
      else
        marks ","
        return .tuple (first :: (← listed g.patterns))

/-- A pattern of a row, in which a range has both its ends. -/
def squareElement (g : Grammar) : Reader ValueExpr := do
  match ← g.patterns with
  | .range none _ (some _) | .range (some _) _ none => throw .openRange
  | pattern => return pattern

def readPattern (g : Grammar) : Reader ValueExpr := do
  let ts ← tokens
  if startsPathPattern ts then g.pathPattern
  else if ← word? "_" then return .inferred
  else if starts "-" ts || startsLiteral ts || startsWord "const" ts then g.fixedPattern
  else if startsAnyOf ["ref", "mut", "self"] ts || startsName ts then g.boundName
  else if ← marks? "&" then
    return .marked (if ← word? "mut" then "&mut " else "&") (← g.pattern)
  else if startsGroup .round ts then g.roundPattern
  else if startsGroup .square ts then
    return .array (← inside .square (listed g.squareElement))
  else if starts ".." ts && !starts "..." ts then g.patternRange none
  else missing patternStarts

end Grammar

end Source

end Protogen
