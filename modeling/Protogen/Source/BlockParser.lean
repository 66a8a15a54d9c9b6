import Protogen.Source.OperatorParser

/-!
# Reading statements

Statements stand in blocks, and blocks in conditionals, choices and loops. A
value that ends with a block needs no semicolon to be followed by another
statement.
-/

namespace Protogen

namespace Source

open Reader

/-- What follows a path without arguments, if tokens begin with one. -/
def afterNames? : List Token → Option (List Token)
  | .word w :: .mark ':' true :: .mark ':' _ :: rest =>
    if startsNamedPlace [.word w] then afterNames? rest else none
  | .word w :: rest => if startsNamedPlace [.word w] then some rest else none
  | _ => none

/-- Whether tokens begin with a call in braces that nothing is done with. -/
def startsStatementCall (ts : List Token) : Bool :=
  match afterNames? (if starts "::" ts then ts.drop 2 else ts) with
  | some (.mark '!' _ :: .group .curly _ :: rest) =>
    !((starts "." rest && !starts ".." rest) || starts "?" rest)
  | _ => false

/-- Whether a value begins that takes what is left in a jump. -/
def startsValue (ts : List Token) : Bool :=
  startsAnyWord ts || startsAnyGroup ts || startsLiteral ts || startsLifetime ts ||
    (starts "!" ts && !starts "!=" ts) ||
    (starts "-" ts && !starts "-=" ts && !starts "->" ts) ||
    (starts "*" ts && !starts "*=" ts) || (starts "|" ts && !starts "|=" ts) ||
    (starts "&" ts && !starts "&=" ts) || starts ".." ts ||
    (starts "<" ts && !starts "<=" ts && !starts "<<=" ts) || starts "::" ts || starts "#" ts

/-- Whether a loop over the elements of something begins, and not a binder. -/
def startsForEach (ts : List Token) : Bool :=
  startsWord "for" ts &&
    !(starts "<" ts.tail && (startsLifetime (ts.drop 2) || starts ">" (ts.drop 2)))

/-- Whether a form begins that is made of blocks. -/
def startsBlockForm (ts : List Token) : Bool :=
  startsAnyOf ["if", "while", "loop", "match", "unsafe"] ts || startsForEach ts ||
    (startsAnyOf ["try", "const"] ts && startsGroup .curly ts.tail) || startsGroup .curly ts ||
    startsLifetime ts

namespace Grammar

/-- A value that says whether something is done: no structure, since its braces
would be those of the block. -/
def condition (g : Grammar) : Reader ValueExpr := g.value false

/-- A conditional with those that follow it. -/
def conditional (g : Grammar) : Nat → Reader ValueExpr
  | 0 => missing "an expression"
  | fuel + 1 => do
    word "if"
    let condition ← g.condition
    let statements ← g.block
    if ← word? "else" then
      if startsWord "if" (← tokens) then
        return .conditional condition statements (some (← g.conditional fuel))
      else if startsGroup .curly (← tokens) then
        return .conditional condition statements (some (.block none (← g.block)))
      else missing "`if` or curly braces"
    else return .conditional condition statements none

/-- A case of a choice. A comma ends it, unless it ends with its block or is the
last one. -/
def arm (g : Grammar) : Reader Arm := do
  let attributes ← g.attributes
  let pattern ← g.patterns
  let guard ← if ← word? "if" then some <$> g.value true else pure none
  marks "=>"
  let body ← g.clause
  if body.endsWithItsBlock || (← tokens).isEmpty then
    let _ ← marks? ","
  else marks ","
  let arm : Arm := .mk pattern guard body
  return if attributes.isEmpty then arm else .attributed attributes arm

def choice (g : Grammar) : Reader ValueExpr := do
  word "match"
  let subject ← g.condition
  let arms ← inside .curly (whileStarts (fun ts => !ts.isEmpty) g.arm (pure true))
  return .choice subject arms

def loop (g : Grammar) (label : Option String) : Reader ValueExpr := do
  if ← word? "while" then
    let condition ← g.condition
    return .whileTrue label condition (← g.block)
  else if ← word? "for" then
    let pattern ← g.patterns
    word "in"
    let source ← g.condition
    return .forEach label pattern source (← g.block)
  else
    word "loop"
    return .endless label (← g.block)

/-- A loop or a block with its label. -/
def labelled (g : Grammar) : Reader ValueExpr := do
  let label ← lifetime
  marks ":"
  if startsAnyOf ["while", "for", "loop"] (← tokens) then g.loop (some label)
  else if startsGroup .curly (← tokens) then return .block (some label) (← g.block)
  else missing "loop or block expression"

/-- A form that is made of blocks. -/
def blockForm (g : Grammar) : Reader ValueExpr := do
  let ts ← tokens
  if startsWord "if" ts then g.conditional (ts.length + 1)
  else if startsWord "match" ts then g.choice
  else if startsAnyOf ["while", "for", "loop"] ts then g.loop none
  else if startsLifetime ts then g.labelled
  else if startsGroup .curly ts then return .block none (← g.block)
  else
    let word ← anyWord
    return .special (word ++ " ") (← g.block)

def asynchronousBlock (g : Grammar) : Reader ValueExpr := do
  word "async"
  let words := if ← word? "move" then "async move " else "async "
  return .special words (← g.block)

/-- An argument of a closure, which may have a type. -/
def closureInput (g : Grammar) : Reader ValueExpr := do
  let attributes ← g.attributes
  let pattern ← g.pattern
  let pattern ← if ← marks? ":" then .typed pattern <$> g.type true else pure pattern
  return pattern.withAttributes attributes

def closure (g : Grammar) (structs : Bool) : Reader ValueExpr := do
  let binder ← g.binder?
  let words ← ["const", "static", "async", "move"].mapM fun w => do
    return if ← word? w then w ++ " " else ""
  marks "|"
  let inputs ← whileStarts (fun ts => !starts "|" ts) g.closureInput (commaUnless (starts "|"))
  marks "|"
  let output ← if ← marks? "->" then some <$> g.type true else pure none
  let body ←
    if output.isSome then .block none <$> g.block
    else g.value structs
  return .closure binder (String.join words) inputs output body

/-- A jump out of a block, to a label if there is one. -/
def breakJump (g : Grammar) (structs : Bool) : Reader ValueExpr := do
  word "break"
  if startsLifetime (← tokens) && starts ":" (← tokens).tail then
    let _ ← g.value true
    throw .bareLabel
  let words := match ← lifetime? with
    | some label => "break " ++ label
    | none => "break"
  let ts ← tokens
  if startsValue ts && (structs || !startsGroup .curly ts) then
    return .jump words (some (← g.value structs))
  else return .jump words none

/-- A jump that takes along what is left. -/
def jump (g : Grammar) : Reader ValueExpr := do
  let word ← anyWord
  return .jump word (← if startsValue (← tokens) then some <$> g.value true else pure none)

def continueJump : Reader ValueExpr := do
  word "continue"
  match ← lifetime? with
  | some label => return .jump ("continue " ++ label) none
  | none => return .jump "continue" none

/-- A pattern and the value that may have its shape. -/
def matching (g : Grammar) (structs : Bool) : Reader ValueExpr := do
  word "let"
  let pattern ← g.patterns
  marks "="
  let value ← g.unary structs
  return .matching pattern (← g.operations structs Level.comparison value)

def bindingStatement (g : Grammar) : Reader Statement := do
  word "let"
  let pattern ← g.pattern
  let pattern ← if ← marks? ":" then .typed pattern <$> g.type true else pure pattern
  if ← marks? "=" then
    let value ← g.value true
    let otherwise ←
      if !value.endsInBrace && startsWord "else" (← tokens) then
        drop 1
        pure (some (.block none (← g.block)))
      else pure none
    marks ";"
    return .binding pattern (some value) otherwise
  else
    marks ";"
    return .binding pattern none none

/-- A statement, and whether another one can follow it. -/
def statement (g : Grammar) : Reader (Statement × Bool) := do
  let attributes ← g.attributes
  let attributed (s : Statement) : Statement :=
    if attributes.isEmpty then s else .attributed attributes s
  let ts ← tokens
  if startsStatementCall ts then
    let (rooted, names) ← names
    marks "!"
    let (bracket, inner) ← anyGroup
    let _ ← marks? ";"
    return (attributed (.call rooted names bracket inner), true)
  else if startsWord "let" ts then return (attributed (← g.bindingStatement), true)
  else
    let value ← g.clause
    let closed ← marks? ";"
    match value with
    | .call rooted names bracket inner =>
      if closed || bracket = .curly then
        return (attributed (.call rooted names bracket inner), true)
      else return (.value (value.withAttributes attributes) false, false)
    | value =>
      return (.value (value.withFirstAttributes attributes) closed,
        closed || value.endsWithItsBlock)

def statementsWithin (g : Grammar) : Nat → Reader (List Statement)
  | 0 => return []
  | fuel + 1 => do
    if ← marks? ";" then return .empty :: (← g.statementsWithin fuel)
    else if (← tokens).isEmpty then return []
    else
      let (statement, isEnded) ← g.statement
      if !isEnded && !(← tokens).isEmpty then throw .unendedStatement
      else return statement :: (← g.statementsWithin fuel)

def readBlock (g : Grammar) : Reader (List Statement) :=
  inside .curly do g.statementsWithin ((← tokens).length + 1)

end Grammar

end Source

end Protogen
