import Protogen.Name.Identifier
import Protogen.Source.Layout
import Protogen.Source.Token

/-!
# Writing tokens

Tokens that are passed on as they are get spaces where source usually has them:
around most marks and words, but not before a comma, after a point or between a
word and the arguments behind it. What stands before a token decides, so the row
is written with a state that remembers it. A line may break at every such space.
-/

namespace Protogen

namespace Source

/-- What the tokens before a place end in. -/
inductive TokenContext
  | start
  | dollar
  | repetition
  | separator
  | pound
  | poundBang
  | dot
  | colon
  | doubleColon
  | word
  | wordBang
  | arguments
  | other
  deriving DecidableEq, Repr

namespace TokenContext

/-- The reserved words that stand for a value or a place, or that have no use yet. -/
def looseWords : List String :=
  ["self", "Self", "super", "false", "true", "abstract", "become", "do", "final", "override",
   "priv", "typeof", "unsized", "virtual", "try", "gen"]

/-- The words that begin or join forms of the language. -/
def isFixedWord (w : String) : Bool :=
  w == "box" || (Name.isKeyword w && !(looseWords.contains w))

/-- Whether a space belongs before the token, and the context behind it. -/
def step (context : TokenContext) (token : Token) : Bool × TokenContext :=
  match context, token with
  | .dollar, .word _ => (false, .other)
  | .repetition, .mark c joint =>
    if !joint && (c == '+' || c == '*' || c == '?') then (false, .other)
    else (false, if joint then .repetition else .separator)
  | .repetition, .word _ | .repetition, .literal _ => (false, .separator)
  | .separator, .mark '+' _ | .separator, .mark '*' _ => (false, .other)
  | .pound, .mark '!' _ => (false, .poundBang)
  | .dollar, .group .round _ => (false, .repetition)
  | .pound, .group .square _ | .poundBang, .group .square _ => (false, .other)
  | .word, .group .round _ | .word, .group .square _ => (false, .arguments)
  | .word, .mark '!' false => (false, .wordBang)
  | .wordBang, .group .round _ | .wordBang, .group .square _ => (false, .other)
  | .colon, .mark ':' _ => (false, .doubleColon)
  | _, .group .round _ | _, .group .square _ => (true, .arguments)
  | _, .group .curly _ => (true, .other)
  | c, .word w =>
    (c != .dot && c != .doubleColon, if isFixedWord w then .other else .word)
  | c, .lifetime _ => (c != .dot && c != .doubleColon, .word)
  | c, .literal _ => (c != .dot && c != .doubleColon, .other)
  | _, .mark ',' _ | _, .mark ';' _ => (false, .other)
  | c, .mark '.' _ => (c != .word && c != .arguments, .dot)
  | c, .mark ':' true => (c != .word, .colon)
  | _, .mark '$' _ => (true, .dollar)
  | _, .mark '#' _ => (true, .pound)
  | _, .mark _ _ => (true, .other)

end TokenContext

namespace Token

/-- Whether the next token follows without a space whatever it is. -/
def holdsNext : Token → Bool
  | .mark c joint => joint || c == '$'
  | _ => false

/-- The gap before a token, unless the one before it holds it. -/
def gapBefore (held needsSpace : Bool) (token : Token) : List Piece :=
  if held then []
  else if needsSpace then [.space]
  else match token with
    | .mark '.' _ => [.tight]
    | _ => []

mutual

def row : Token → List Piece
  | .word text | .lifetime text | .literal text => [.text text]
  | .mark c _ => [.text (String.singleton c)]
  | .group bracket inner =>
    let between : List Piece := if bracket = .curly && !inner.isEmpty then [.space] else []
    .text bracket.opening :: between ++ rowsFrom .start true inner ++ between ++
      [.text bracket.closing]

def rowsFrom (context : TokenContext) (held : Bool) : List Token → List Piece
  | [] => []
  | t :: ts =>
    gapBefore held (context.step t).1 t ++ t.row ++ rowsFrom (context.step t).2 t.holdsNext ts

end

/-- The row of tokens in their brackets, after an exclamation mark. Braces take
lines of their own. -/
def callRow (bracket : Bracket) (tokens : List Token) : List Piece :=
  let opening := (if bracket = .curly then " " else "") ++ bracket.opening
  let first : Piece := if bracket = .curly then .lineEnd 0 else .tight
  let last : Piece := if bracket = .curly then .lineEnd (-4) else .final ""
  .text opening ::
    (if tokens.isEmpty then []
      else [.box 4 true [first, .box 0 false (rowsFrom .start true tokens), last]]) ++
    [.text bracket.closing]

end Token

end Source

end Protogen
