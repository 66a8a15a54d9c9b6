import Protogen.Text.Alphabet
import Protogen.Text.LetterCase

/-!
# The words of a name

A name splits into words at every character that is neither a letter nor a
number, before a capital that follows a small letter, and before the last
capital of a row of capitals when a small letter comes next: `LatLonAlt` has
three words, `UUID` one, `HTTPServer` two. A number stays with the word before
it and does not change which kind of letter came last.
-/

namespace Protogen

namespace Name

open Text

/-- The kind of letter read last in the current word. -/
inductive LetterState
  | boundary
  | small
  | capital
  deriving DecidableEq, Repr

namespace LetterState

def after (state : LetterState) (c : Char) : LetterState :=
  if isLowercase c then small else if isUppercase c then capital else state

end LetterState

def startsSmall (cs : List Char) : Bool := (cs.head?.map isLowercase).getD false

/-- Whether `c` begins a word of its own although the word read so far, `word`,
is not over; `rest` follows `c`. -/
def startsWord (state : LetterState) (word : List Char) (c : Char) (rest : List Char) : Bool :=
  isUppercase c && !word.isEmpty &&
    (state == .small || (state == .capital && startsSmall rest))

/-- The finished word, if it has any character. -/
def finishedWord (word : List Char) : List (List Char) :=
  if word.isEmpty then [] else [word.reverse]

/-- The words of the rest of a name; `word` holds the characters of the current
word, the last one first. -/
def wordsFrom (state : LetterState) (word : List Char) : List Char → List (List Char)
  | [] => finishedWord word
  | c :: cs =>
    if isAlphanumeric c then
      if startsWord state word c cs then word.reverse :: wordsFrom (state.after c) [c] cs
      else wordsFrom (state.after c) (c :: word) cs
    else finishedWord word ++ wordsFrom .boundary [] cs

def words (name : String) : List (List Char) := wordsFrom .boundary [] name.toList

end Name

end Protogen
