import Protogen.Name.Identifier
import Protogen.Source.Token

/-!
# Reading tokens

A reader takes tokens from the front of a row. What can go wrong is named by what
was expected, and whether the text, or the brackets around the place, ended
there; marks are expected without saying so. Tokens that are left over in a group
do not stop the reading: they are a fault only if everything else is in order,
and then the first such group is reported.
-/

namespace Protogen

namespace Source

/-- Why a text is no type. -/
inductive TypeError
  | noTokens
  | noToken
  | expected (atEnd : Bool) (what : String)
  /-- Something stands where it may not. -/
  | misplaced (what : String)
  /-- Bounds without a trait among them; `what` says what is asked for. -/
  | noTrait (what : String)
  /-- A bound that need not hold takes no parameters. -/
  | optionalBinder
  | chainedComparison
  | continuedCast (what : String)
  /-- A labelled value stands where only a jump to the label could. -/
  | bareLabel
  /-- A range without an end stands in a row of patterns. -/
  | openRange
  | attributedRange
  | nestedAttribute
  | largeIndex
  /-- Tokens are left over in a group, or in the text itself. -/
  | leftOver (bracket : Option Bracket)
  | unendedStatement
  deriving DecidableEq, Repr

def TypeError.message : TypeError → String
  | noTokens => "cannot parse string into token stream"
  | noToken => "unexpected end of input"
  | expected atEnd what =>
    (if atEnd then "unexpected end of input, " else "") ++ "expected " ++ what
  | misplaced what => what ++ " is not allowed here"
  | noTrait what => "at least one trait " ++ what
  | optionalBinder => "`for<...>` binder not allowed with `?` trait polarity modifier"
  | chainedComparison => "comparison operators cannot be chained"
  | continuedCast what => "casts cannot be followed by " ++ what
  | bareLabel => "parentheses required"
  | openRange => "range pattern is not allowed unparenthesized inside slice pattern"
  | attributedRange => "attributes are not allowed on range expressions starting with `..`"
  | nestedAttribute => "unexpected attribute inside of attribute"
  | largeIndex => "number too large to fit in target type"
  | leftOver (some bracket) => "unexpected token, expected `" ++ bracket.closing ++ "`"
  | leftOver none => "unexpected token"
  | unendedStatement => "unexpected token, expected `;`"

/-- The tokens that are left, and the first group with tokens left over. -/
structure Reading where
  rest : List Token
  leftOver : Option Bracket

abbrev Reader (α : Type) := StateT Reading (Except TypeError) α

/-- The words that cannot name anything. -/
def isReserved (word : String) : Bool :=
  (Name.isKeyword word && word != "gen") || word == "_"

/-- Whether tokens begin with marks that follow one another directly. -/
def startsMarks : List Char → List Token → Bool
  | [c], .mark d _ :: _ => c == d
  | c :: cs, .mark d joint :: ts => c == d && joint && startsMarks cs ts
  | _, _ => false

def starts (marks : String) (ts : List Token) : Bool := startsMarks marks.toList ts

def startsWord (word : String) : List Token → Bool
  | .word w :: _ => w == word
  | _ => false

def startsAnyWord : List Token → Bool
  | .word _ :: _ => true
  | _ => false

/-- Whether tokens begin with a word that can name something. -/
def startsName : List Token → Bool
  | .word w :: _ => !isReserved w
  | _ => false

def startsAnyOf (words : List String) (ts : List Token) : Bool :=
  words.any fun w => startsWord w ts

/-- Whether tokens begin with a word that can be a component of a path. -/
def startsNamedPlace (ts : List Token) : Bool :=
  startsName ts || startsAnyOf ["super", "self", "Self", "crate"] ts

def startsLifetime : List Token → Bool
  | .lifetime _ :: _ => true
  | _ => false

def startsGroup (bracket : Bracket) : List Token → Bool
  | .group b _ :: _ => b == bracket
  | _ => false

def startsAnyGroup : List Token → Bool
  | .group _ _ :: _ => true
  | _ => false

def startsLiteral : List Token → Bool
  | .literal _ :: _ => true
  | .word w :: _ => w == "true" || w == "false"
  | _ => false

namespace Reader

def tokens : Reader (List Token) := do return (← get).rest

def drop (count : Nat) : Reader Unit := modify fun r => { r with rest := r.rest.drop count }

def missing {α : Type} (what : String) : Reader α := do
  throw (.expected (← tokens).isEmpty what)

/-- Takes marks that have to be there. -/
def marks (text : String) : Reader Unit := do
  if starts text (← tokens) then drop text.length
  else throw (.expected false ("`" ++ text ++ "`"))

/-- Takes marks if they are there. -/
def marks? (text : String) : Reader Bool := do
  if starts text (← tokens) then
    drop text.length
    return true
  else return false

def word (text : String) : Reader Unit := do
  if startsWord text (← tokens) then drop 1 else missing ("`" ++ text ++ "`")

def word? (text : String) : Reader Bool := do
  if startsWord text (← tokens) then
    drop 1
    return true
  else return false

def anyWord : Reader String := do
  match ← tokens with
  | .word w :: _ =>
    drop 1
    return w
  | _ => missing "ident"

/-- A word that can name something. -/
def name : Reader String := do
  match ← tokens with
  | .word w :: _ =>
    if isReserved w then throw (.expected false ("identifier, found keyword `" ++ w ++ "`"))
    else
      drop 1
      return w
  | _ => missing "identifier"

def lifetime : Reader String := do
  match ← tokens with
  | .lifetime l :: _ =>
    drop 1
    return l
  | _ => missing "lifetime"

def lifetime? : Reader (Option String) := do
  match ← tokens with
  | .lifetime l :: _ =>
    drop 1
    return some l
  | _ => return none

def bracketName : Bracket → String
  | .round => "parentheses"
  | .square => "square brackets"
  | .curly => "curly braces"

/-- Reads inside a group, and notes whether tokens are left over there. -/
def inside {α : Type} (bracket : Bracket) (reader : Reader α) : Reader α := do
  match ← tokens with
  | .group b inner :: rest =>
    if b = bracket then
      modify fun r => { r with rest := inner }
      let x ← reader
      modify fun r =>
        ⟨rest, r.leftOver.or (if r.rest.isEmpty then none else some bracket)⟩
      return x
    else missing (bracketName bracket)
  | _ => missing (bracketName bracket)

/-- The tokens of a group in any brackets. -/
def anyGroup : Reader (Bracket × List Token) := do
  match ← tokens with
  | .group b inner :: _ =>
    drop 1
    return (b, inner)
  | _ => missing "delimiter"

def whileWithin {α : Type} (goesOn : List Token → Bool) (item : Reader α) (between : Reader Bool) :
    Nat → Reader (List α)
  | 0 => return []
  | fuel + 1 => do
    if goesOn (← tokens) then
      let x ← item
      if ← between then return x :: (← whileWithin goesOn item between fuel)
      else return [x]
    else return []

/-- Items as long as the tokens look like one and `between` finds that one more
may follow. Each takes a token at least. -/
def whileStarts {α : Type} (goesOn : List Token → Bool) (item : Reader α)
    (between : Reader Bool) : Reader (List α) := do
  whileWithin goesOn item between ((← tokens).length + 1)

/-- A comma, unless what `ends` the items is there. -/
def commaUnless (ends : List Token → Bool) : Reader Bool := do
  if ends (← tokens) then return false
  else
    marks ","
    return true

/-- Items with commas between them, up to the end of the group. -/
def listed {α : Type} (item : Reader α) : Reader (List α) :=
  whileStarts (fun ts => !ts.isEmpty) item (commaUnless List.isEmpty)

/-- Items with commas between them, up to a closing sign, which is taken. -/
def angled {α : Type} (item : Reader α) : Reader (List α) := do
  let xs ← whileStarts (fun ts => !starts ">" ts) item (commaUnless (starts ">"))
  marks ">"
  return xs

end Reader

end Source

end Protogen
