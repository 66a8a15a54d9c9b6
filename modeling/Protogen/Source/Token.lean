import Protogen.Source.Literal
import Protogen.Text.Quoted

/-!
# Tokens

Source text falls into words, lifetimes, literals, marks and groups of tokens in
brackets. A mark remembers whether another one follows it directly, so that two
colons can be told from a double colon. Blanks and comments stand between tokens,
but a comment that documents something is an attribute. Text that holds anything
else, or brackets that do not match, has no tokens.
-/

namespace Protogen

namespace Source

open Text

inductive Bracket
  | round
  | square
  | curly
  deriving DecidableEq, Repr

namespace Bracket

def opening : Bracket → String
  | round => "("
  | square => "["
  | curly => "\x7b"

def closing : Bracket → String
  | round => ")"
  | square => "]"
  | curly => "\x7d"

def ofOpening? (c : Char) : Option Bracket :=
  if c = '(' then some round else if c = '[' then some square
  else if c = '\x7b' then some curly else none

def ofClosing? (c : Char) : Option Bracket :=
  if c = ')' then some round else if c = ']' then some square
  else if c = '\x7d' then some curly else none

end Bracket

inductive Token
  | word (text : String)
  | lifetime (text : String)
  | literal (text : String)
  | mark (c : Char) (joint : Bool)
  | group (bracket : Bracket) (inner : List Token)
  deriving Inhabited

/-- A token, or one of the brackets around a group. -/
inductive Lexeme
  | opening (bracket : Bracket)
  | closing (bracket : Bracket)
  | leaf (token : Token)

namespace Token

/-- The five ASCII blanks from tab to carriage return, the space, and the
characters of every script that separate words or mark a direction. -/
def isSeparator (c : Char) : Bool :=
  [0x20, 0x85, 0xA0, 0x1680, 0x2028, 0x2029, 0x202F, 0x205F, 0x3000, 0x200E, 0x200F].contains
      c.toNat ||
    (decide (9 ≤ c.toNat) && decide (c.toNat ≤ 13)) ||
    (decide (0x2000 ≤ c.toNat) && decide (c.toNat ≤ 0x200A))

/-- The text between two positions of one text. -/
def textUntil (start rest : List Char) : String :=
  String.ofList (start.take (start.length - rest.length))

/-- A comment up to the end of its line, and what follows it. -/
def lineComment : List Char → List Char × List Char
  | [] => ([], [])
  | '\n' :: cs => ([], '\n' :: cs)
  | '\r' :: '\n' :: cs => ([], '\n' :: cs)
  | c :: cs =>
    let (inner, rest) := lineComment cs
    (c :: inner, rest)

/-- What follows a block comment of which `depth` further ones are open. -/
def afterBlockComment? : Nat → List Char → Option (List Char)
  | _, [] => none
  | depth, '/' :: '*' :: cs => afterBlockComment? (depth + 1) cs
  | depth, '*' :: '/' :: cs => if depth = 0 then some cs else afterBlockComment? (depth - 1) cs
  | depth, _ :: cs => afterBlockComment? depth cs

/-- What follows a comment that documents nothing. -/
def afterComment? : List Char → Option (List Char)
  | '/' :: '/' :: '/' :: '/' :: cs => some (lineComment cs).2
  | '/' :: '/' :: '/' :: _ | '/' :: '/' :: '!' :: _ => none
  | '/' :: '/' :: cs => some (lineComment cs).2
  | '/' :: '*' :: '*' :: '/' :: cs => some cs
  | '/' :: '*' :: '*' :: '*' :: cs => afterBlockComment? 0 ('*' :: '*' :: cs)
  | '/' :: '*' :: '*' :: _ | '/' :: '*' :: '!' :: _ => none
  | '/' :: '*' :: cs => afterBlockComment? 0 cs
  | _ => none

/-- The text of a documentation in a block, from behind its opening on. -/
def blockDoc? (cs : List Char) : Option (String × List Char) :=
  (afterBlockComment? 0 cs).map fun rest =>
    (String.ofList (((textUntil cs rest).toList).dropLast.dropLast.drop 1), rest)

/-- The documentation that a comment is: whether it belongs to what is around it,
its text, and what follows it. -/
def doc? : List Char → Option (Bool × String × List Char)
  | '/' :: '/' :: '!' :: cs => some (true, String.ofList (lineComment cs).1, (lineComment cs).2)
  | '/' :: '*' :: '!' :: cs => (blockDoc? ('!' :: cs)).map fun (text, rest) => (true, text, rest)
  | '/' :: '/' :: '/' :: cs =>
    if cs.head? = some '/' then none
    else some (false, String.ofList (lineComment cs).1, (lineComment cs).2)
  | '/' :: '*' :: '*' :: cs =>
    if cs.head? = some '*' then none
    else (blockDoc? ('*' :: cs)).map fun (text, rest) => (false, text, rest)
  | _ => none

/-- Whether every carriage return comes with a line feed. -/
def hasFullLineEnds : List Char → Bool
  | [] => true
  | '\r' :: '\n' :: cs => hasFullLineEnds cs
  | '\r' :: _ => false
  | _ :: cs => hasFullLineEnds cs

/-- The attribute that a documentation stands for. -/
def docTokens (isInner : Bool) (text : String) : List Token :=
  .mark '#' false ::
    (if isInner then [.mark '!' false] else []) ++
    [.group .square [.word "doc", .mark '=' false, .literal (Text.literal text)]]

def isMarkChar (c : Char) : Bool :=
  ['~', '!', '@', '#', '$', '%', '^', '&', '*', '-', '=', '+', '|', ';', ':', ',', '<', '.', '>',
   '/', '?', '\''].contains c

/-- Whether a text begins with a mark, which no comment does. -/
def startsMark : List Char → Bool
  | '/' :: '/' :: _ | '/' :: '*' :: _ => false
  | c :: _ => isMarkChar c
  | [] => false

/-- What follows the characters of a word. -/
def afterPlainWord? : List Char → Option (List Char)
  | c :: cs => if isWordStart c then some (cs.dropWhile isWordPart) else none
  | [] => none

/-- The words that mean the same place wherever they stand. They have no raw form. -/
def fixedWords : List String := ["_", "super", "self", "Self", "crate"]

/-- What follows a word, which may be marked as raw. -/
def afterWord? : List Char → Option (List Char)
  | 'r' :: '#' :: cs =>
    (afterPlainWord? cs).bind fun rest =>
      if fixedWords.contains (textUntil cs rest) then none else some rest
  | cs => afterPlainWord? cs

/-- The beginnings of literals that no word can have. -/
def literalStarts : List (List Char) :=
  [['r', '"'], ['r', '#', '"'], ['r', '#', '#'], ['b', '"'], ['b', '\''], ['b', 'r', '"'],
   ['b', 'r', '#'], ['c', '"'], ['c', 'r', '"'], ['c', 'r', '#']]

def word? (cs : List Char) : Option (Token × List Char) :=
  if literalStarts.any fun start => start.isPrefixOf cs then none
  else (afterWord? cs).map fun rest => (.word (textUntil cs rest), rest)

/-- A lifetime, after its quote. -/
def lifetime? (cs : List Char) : Option (Token × List Char) :=
  match afterWord? cs with
  | some rest =>
    if rest.head? = some '\'' || (rest.head? = some '#' && !(['r', '#'].isPrefixOf cs)) then none
    else some (.lifetime (String.ofList ('\'' :: cs.take (cs.length - rest.length))), rest)
  | none => none

/-- The text that stands where source could not be written. -/
def placeholder : List Char := "(/*ERROR*/)".toList

/-- The token that a text begins with, if it begins with one that is no group. -/
def leaf? (cs : List Char) : Option (Token × List Char) :=
  match Literal.after? cs with
  | some rest => some (.literal (textUntil cs rest), rest)
  | none =>
    if startsMark cs then
      match cs with
      | '\'' :: rest => lifetime? rest
      | c :: rest => some (.mark c (startsMark rest), rest)
      | [] => none
    else word? cs

/-- The lexemes of a text; `fuel` bounds its length. -/
def lexemes? : Nat → List Char → Option (List Lexeme)
  | 0, _ => none
  | _ + 1, [] => some []
  | fuel + 1, c :: cs =>
    if isSeparator c then lexemes? fuel cs
    else match afterComment? (c :: cs), doc? (c :: cs) with
      | some rest, _ => lexemes? fuel rest
      | none, some (isInner, text, rest) =>
        if hasFullLineEnds text.toList then
          (lexemes? fuel rest).map ((docTokens isInner text).map Lexeme.leaf ++ ·)
        else none
      | none, none =>
        if placeholder.isPrefixOf (c :: cs) then
          (lexemes? fuel ((c :: cs).drop placeholder.length)).map
            (.leaf (.literal (String.ofList placeholder)) :: ·)
        else match Bracket.ofOpening? c, Bracket.ofClosing? c with
          | some b, _ => (lexemes? fuel cs).map (.opening b :: ·)
          | none, some b => (lexemes? fuel cs).map (.closing b :: ·)
          | none, none =>
            (leaf? (c :: cs)).bind fun (token, rest) =>
              (lexemes? fuel rest).map (.leaf token :: ·)

/-- The tokens of lexemes whose brackets match. `done` holds the tokens of the
innermost open group, the last one first, and `outer` those of the groups around
it with their brackets. -/
def assembled? (outer : List (Bracket × List Token)) (done : List Token) :
    List Lexeme → Option (List Token)
  | [] => if outer.isEmpty then some done.reverse else none
  | .opening b :: ls => assembled? ((b, done) :: outer) [] ls
  | .closing b :: ls =>
    match outer with
    | (opened, before) :: outer =>
      if opened = b then assembled? outer (.group b done.reverse :: before) ls else none
    | [] => none
  | .leaf t :: ls => assembled? outer (t :: done) ls

/-- The text without the mark of its byte order. -/
def withoutOrderMark : List Char → List Char
  | '\uFEFF' :: cs => cs
  | cs => cs

/-- The tokens of a text, if it has any reading. -/
def all? (s : String) : Option (List Token) :=
  (lexemes? (s.toList.length + 1) (withoutOrderMark s.toList)).bind (assembled? [] [])

end Token

end Source

end Protogen
