import Protogen.Source.Operator
import Protogen.Source.PatternParser

/-!
# Reading operations

Of two operations the one that binds more tightly comes first, and the left one
among equals, except for assignments. Comparisons have no order among themselves,
and nothing follows a range.
-/

namespace Protogen

namespace Source

open Reader

def operator? (ts : List Token) : Option (String × Level) :=
  operators.find? fun o => starts o.1 ts

/-- The marks behind which a range may have no end. -/
def openRangeMarks : List String :=
  [",", ";", "?", "=>", "=", "+", "/", "%", "^", ">", "<=", "!=", "-=", "*=", "&=", "|=", "<<="]

/-- Whether a range ends with its marks. -/
def endsRange (structs : Bool) (mark : String) (ts : List Token) : Bool :=
  mark == ".." &&
    (ts.isEmpty || openRangeMarks.any (fun m => starts m ts) ||
      (starts "." ts && !starts ".." ts) || (!structs && startsGroup .curly ts) ||
      startsWord "as" ts)

namespace Reader

def rangeMark : Reader String := do
  if ← marks? "..=" then return "..="
  else if starts "..." (← tokens) then throw (.expected false "`..=`")
  else
    marks ".."
    return ".."

/-- Refuses what looks like a use of the value and would be one of the type. -/
def checkCast : Reader Unit := do
  let ts ← tokens
  if starts "." ts && !starts ".." ts then
    if startsWord "await" ts.tail then throw (.continuedCast "`.await`")
    else if startsName ts.tail &&
        (startsGroup .round (ts.drop 2) || starts "::" (ts.drop 2)) then
      throw (.continuedCast "a method call")
    else throw (.continuedCast "a field access")
  else if starts "?" ts then throw (.continuedCast "`?`")
  else if startsGroup .square ts then throw (.continuedCast "indexing")
  else if startsGroup .round ts then throw (.continuedCast "a function call")

end Reader

namespace Grammar

/-- The operations behind a value that bind at least as tightly as `base`. -/
def operationsWithin (g : Grammar) (structs : Bool) :
    Nat → Level → ValueExpr → Reader ValueExpr
  | 0, _, value => return value
  | fuel + 1, base, value => do
    let ts ← tokens
    if value.isRange then return value
    else match operator? ts with
      | some (mark, level) =>
        if level < base then return value
        else if level = Level.comparison && value.isComparison then throw .chainedComparison
        else
          drop mark.length
          let right ← g.unary structs
          let right ← g.operationsWithin structs fuel
            (if level = Level.assignment then level else level + 1) right
          g.operationsWithin structs fuel base (.binary value mark right)
      | none =>
        if base ≤ Level.assignment && starts "=" ts && !starts "=>" ts then
          drop 1
          let right ← g.unary structs
          let right ← g.operationsWithin structs fuel Level.assignment right
          g.operationsWithin structs fuel base (.assignment value right)
        else if base ≤ Level.range && starts ".." ts then
          let mark ← rangeMark
          if endsRange structs mark (← tokens) then return .range (some value) mark none
          else
            let last ← g.unary structs
            return .range (some value) mark
              (some (← g.operationsWithin structs fuel (Level.range + 1) last))
        else if base ≤ Level.cast && startsWord "as" ts then
          drop 1
          let type ← g.type false
          checkCast
          g.operationsWithin structs fuel base (.cast value type)
        else return value

/-- A value with the operations behind it that bind at least as tightly as `base`. -/
def operations (g : Grammar) (structs : Bool) (base : Level) (value : ValueExpr) :
    Reader ValueExpr := do
  g.operationsWithin structs ((← tokens).length + 1) base value

/-- A range without a beginning. -/
def openedRange (g : Grammar) (structs : Bool) : Reader ValueExpr := do
  let mark ← rangeMark
  if endsRange structs mark (← tokens) then return .range none mark none
  else
    let last ← g.unary structs
    return .range none mark (some (← g.operations structs (Level.range + 1) last))

end Grammar

end Source

end Protogen
