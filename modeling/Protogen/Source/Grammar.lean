import Protogen.Source.Reader
import Protogen.Source.ValueForm

/-!
# The grammar of a place

Types, values, statements and bounds nest in one another. A reader for any of
them is given a grammar: the readers for everything that may stand one level
further in. Attributes may stand before most of these things.
-/

namespace Protogen

namespace Source

open Reader

/-- The readers for what is nested in a place. -/
structure Grammar where
  /-- A type; a sum of bounds only if it is told so. -/
  type : Bool → Reader TypeExpr
  /-- A value; a structure only if it is told so. -/
  value : Bool → Reader ValueExpr
  /-- A value that is no operation of two others. -/
  unary : Bool → Reader ValueExpr
  /-- A value that ends behind the block that it begins with. -/
  clause : Reader ValueExpr
  /-- A pattern that is no choice of several. -/
  pattern : Reader ValueExpr
  block : Reader (List Statement)
  /-- A bound, which may be a list of captures or a constant one if it is told so. -/
  bound : Bool → Bool → Reader Bound

def startsNumber : List Token → Bool
  | .literal text :: _ => (text.toList.head?.map Literal.isDigitChar).getD false
  | _ => false

/-- Whether tokens begin with a literal, which may be a number below zero. -/
def startsConstant (ts : List Token) : Bool :=
  startsLiteral ts || (starts "-" ts && startsNumber ts.tail)

def startsFixedValue (ts : List Token) : Bool := startsConstant ts || startsGroup .curly ts

namespace Reader

/-- A literal, which may be a number below zero. -/
def constant : Reader String := do
  let sign := if ← marks? "-" then "-" else ""
  match ← tokens with
  | .literal text :: _ | .word text :: _ =>
    drop 1
    return sign ++ text
  | _ => missing "literal"

/-- A path without arguments, and whether it begins at the root. -/
def names : Reader (Bool × List String) := do
  let rooted ← marks? "::"
  let first ← if startsNamedPlace (← tokens) then anyWord else name
  let more ← whileStarts (starts "::")
    (do
      marks "::"
      if startsNamedPlace (← tokens) then anyWord else missing "path segment after `::`")
    (pure true)
  return (rooted, first :: more)

end Reader

namespace Grammar

/-- A value that stands as an argument: a literal, a name or a block. -/
def argumentValue (g : Grammar) : Reader ValueExpr := do
  let ts ← tokens
  if startsConstant ts then return .literal (← constant)
  else if startsName ts then return .path false [.plain (← name)]
  else if startsGroup .curly ts then return .block none (← g.block)
  else if ts.isEmpty then throw .noToken
  else throw (.leftOver none)

/-- What an attribute says. A text under the name of documentation is one. -/
def attributeValue (g : Grammar) (rooted : Bool) (names : List String) : Reader Attribute := do
  let ts ← tokens
  if starts "#" ts && startsGroup .square ts.tail then throw .nestedAttribute
  let value ← g.value true
  match rooted, names, value with
  | false, ["doc"], .literal text =>
    match Literal.text? text with
    | some text => return .doc text
    | none => return .valued rooted names (ts.take (ts.length - (← tokens).length))
  | _, _, _ => return .valued rooted names (ts.take (ts.length - (← tokens).length))

def attributeContent (g : Grammar) : Reader Attribute := do
  let (rooted, names) ←
    if ← word? "unsafe" then pure (false, ["unsafe"]) else Reader.names
  if startsAnyGroup (← tokens) then
    let (bracket, inner) ← anyGroup
    return .list rooted names bracket inner
  else if ← marks? "=" then g.attributeValue rooted names
  else return .plain rooted names

def readAttribute (g : Grammar) : Reader Attribute := do
  marks "#"
  inside .square g.attributeContent

def attributes (g : Grammar) : Reader (List Attribute) :=
  whileStarts (starts "#") g.readAttribute (pure true)

end Grammar

/-- What tokens begin with behind any attributes. -/
def afterAttributes : List Token → List Token
  | .mark '#' _ :: .group .square _ :: rest => afterAttributes rest
  | ts => ts

end Source

end Protogen
