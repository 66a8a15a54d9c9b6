import Protogen.Source.TokenRow
import Protogen.Source.TypeExpr
import Protogen.Text.Blank

/-!
# Writing attributes

Documentation is written as a comment where its text allows that. Any other
attribute stands between brackets, with a gap behind it. The tokens in an
attribute have spaces only where two words meet, around an equals sign and
behind a comma.
-/

namespace Protogen

namespace Source

/-- What the tokens of an attribute before a place end in. -/
inductive NoteContext
  | word
  | mark
  /-- A comma that is written only if its line ends there. -/
  | lastComma
  deriving DecidableEq, Repr

/-- Whether text may stand in a block comment: comments in it are closed in order. -/
def nestsComments : Nat → List Char → Bool
  | depth, '/' :: '*' :: cs => nestsComments (depth + 1) cs
  | depth, '*' :: '/' :: cs => depth != 0 && nestsComments (depth - 1) cs
  | depth, _ :: cs => nestsComments depth cs
  | depth, [] => depth == 0

def withoutEndSpaces (line : List Char) : List Char := Text.dropTrailing (· == ' ') line

/-- Every line but the last one without the spaces at its end. -/
def trimmedLines (text : String) : String :=
  match (text.splitOn "\n").reverse with
  | [] => ""
  | last :: before =>
    "\n".intercalate
      ((last :: before.map fun l => String.ofList (withoutEndSpaces l.toList)).reverse)

/-- The comment that a documentation is written as, if it can be one. -/
def docComment? (text : String) : Option String :=
  let cs := text.toList
  if !cs.contains '\n' && cs.head? != some '/' then
    some ("///" ++ String.ofList (withoutEndSpaces cs))
  else if nestsComments 0 cs && cs.head? != some '*' && cs.head? != some '/' then
    some ("/**" ++ trimmedLines text ++ "*/")
  else none

def pathText (rooted : Bool) (names : List String) : String :=
  (if rooted then "::" else "") ++ "::".intercalate names

namespace Token

/-- The space before a word in an attribute. -/
def noteGap (context : NoteContext) : List Piece :=
  if context = .word then [.space] else []

mutual

/-- A token in an attribute, and the context behind it; `isLast` says that its
group ends there. -/
def noteRow (context : NoteContext) (isLast : Bool) : Token → List Piece × NoteContext
  | .word text | .literal text => (noteGap context ++ [.text text], .word)
  | .lifetime text => ([.text text], .word)
  | .mark '=' _ => ((if context = .word then [.text " "] else []) ++ [.text "= "], .mark)
  | .mark ',' _ =>
    if isLast then ([.gap ⟨0, 0, ",", "", ""⟩], .lastComma) else ([.text ",", .space], .mark)
  | .mark c _ => ([.text (String.singleton c)], .mark)
  | .group .round inner =>
    let (row, context) := noteRows .mark inner
    let inside :=
      if context = .lastComma then row.dropLast ++ [.final ","] else row ++ [.final ""]
    ([.text "(", .box 4 true (.tight :: inside), .text ")"], .mark)
  | .group bracket inner =>
    ([.text bracket.opening] ++ (noteRows .mark inner).1 ++ [.text bracket.closing], .mark)

def noteRows (context : NoteContext) : List Token → List Piece × NoteContext
  | [] => ([], context)
  | t :: ts =>
    let (row, behind) := t.noteRow context ts.isEmpty
    let (rows, last) := noteRows behind ts
    (row ++ rows, last)

end

end Token

namespace Attribute

def row : Attribute → List Piece
  | doc text =>
    match docComment? text with
    | some comment => [.text comment, .lineEnd 0]
    | none => [.text ("#[doc = " ++ Text.literal text ++ "]"), .space]
  | plain rooted names => [.text ("#[" ++ pathText rooted names ++ "]"), .space]
  | list rooted names bracket tokens =>
    .text ("#[" ++ pathText rooted names) :: ((Token.group bracket tokens).noteRow .mark true).1 ++
      [.text "]", .space]
  | valued rooted names value =>
    .text ("#[" ++ pathText rooted names ++ " = ") :: Token.rowsFrom .start true value ++
      [.text "]", .space]

end Attribute

def attributesRow (attributes : List Attribute) : List Piece := attributes.flatMap Attribute.row

end Source

end Protogen
