import Protogen.Text.CombiningClass
import Protogen.Text.CompositionTable

/-!
# The composed form of a text

A letter with a mark may be one character or two, and marks around a letter may
stand in any order. The composed form of a text is the same for all these ways of
writing it: characters are taken apart, marks are put in order, and everything is
composed again that can be. Korean syllables consist of letters by calculation.
-/

namespace Protogen

namespace Text

namespace Syllable

def first : Nat := 0xAC00

def leadingFirst : Nat := 0x1100

def vowelFirst : Nat := 0x1161

/-- One before the first letter at the end of a syllable, so that no letter there
has the number zero. -/
def trailingBase : Nat := 0x11A7

def leadingCount : Nat := 19

def vowelCount : Nat := 21

def trailingCount : Nat := 28

/-- Whether `n` is one of `count` numbers from `start` on. -/
def isFrom (start count n : Nat) : Bool := decide (start ≤ n) && decide (n < start + count)

/-- The letters of a syllable. -/
def parts? (n : Nat) : Option (List Nat) :=
  if isFrom first (leadingCount * vowelCount * trailingCount) n then
    let place := n - first
    some
      ([leadingFirst + place / trailingCount / vowelCount,
        vowelFirst + place / trailingCount % vowelCount] ++
        if place % trailingCount = 0 then [] else [trailingBase + place % trailingCount])
  else none

/-- The syllable of two letters, or of a syllable and a letter at its end. -/
def composed? (a b : Nat) : Option Nat :=
  if isFrom leadingFirst leadingCount a && isFrom vowelFirst vowelCount b then
    some (first + ((a - leadingFirst) * vowelCount + (b - vowelFirst)) * trailingCount)
  else if isFrom first (leadingCount * vowelCount * trailingCount) a &&
      (a - first) % trailingCount == 0 && isFrom (trailingBase + 1) (trailingCount - 1) b then
    some (a + (b - trailingBase))
  else none

end Syllable

/-- The letter and the mark that a character is composed of. -/
def compositionOf? (c : Char) : List CompositionRow → Option (Char × Char)
  | [] => none
  | r :: rs =>
    match (r.composed.toList.zip r.bases.toList).lookup c with
    | some base => some (base, Char.ofNat r.mark)
    | none => compositionOf? c rs

/-- What a character consists of. The letter of a composition may be composed
itself, at most `depth` times. -/
def partsOf : Nat → Char → List Char
  | 0, c => [c]
  | depth + 1, c =>
    match Syllable.parts? c.toNat, charImage? secondNumberRows c.toNat,
        textImage? partedRows c.toNat, compositionOf? c compositionRows with
    | some parts, _, _, _ => parts.map Char.ofNat
    | none, some image, _, _ => [image]
    | none, none, some image, _ => image.toList
    | none, none, none, some (base, mark) => partsOf depth base ++ [mark]
    | none, none, none, none => [c]

/-- No composition has more than three marks. -/
def compositionDepth : Nat := 3

def decomposed (cs : List Char) : List Char :=
  cs.flatMap fun c => if c.toNat < 0x80 then [c] else partsOf compositionDepth c

/-- Puts a mark behind a reversed text, before the marks of higher classes. -/
def placeMark (c : Char) : List Char → List Char
  | [] => [c]
  | d :: ds =>
    if 0 < combiningClass c ∧ combiningClass c < combiningClass d then d :: placeMark c ds
    else c :: d :: ds

/-- The text with the marks behind each letter in the order of their classes. -/
def withOrderedMarks (cs : List Char) : List Char :=
  (cs.foldl (fun before c => placeMark c before) []).reverse

def composed? (a b : Char) : Option Char :=
  match Syllable.composed? a.toNat b.toNat with
  | some n => some (Char.ofNat n)
  | none =>
    (compositionRows.filter fun r => r.mark == b.toNat).findSome? fun r =>
      (r.bases.toList.zip r.composed.toList).lookup a

/-- Composes a letter with what follows it. `between` are the marks behind it that
could not be composed, the last one first; only a mark of a higher class can
reach the letter past them. -/
def composeFrom (letter : Char) (between : List Char) : List Char → List Char
  | [] => letter :: between.reverse
  | c :: cs =>
    let isOpen := between.head?.all fun d => combiningClass d < combiningClass c
    match if isOpen then composed? letter c else none with
    | some composed => composeFrom composed between cs
    | none =>
      if combiningClass c = 0 then letter :: between.reverse ++ composeFrom c [] cs
      else composeFrom letter (c :: between) cs

/-- Composes the letters of a text with the marks behind them. -/
def composeMarks : List Char → List Char
  | [] => []
  | c :: cs => if combiningClass c = 0 then composeFrom c [] cs else c :: composeMarks cs

/-- The composed form of a text. -/
def composedForm (cs : List Char) : List Char :=
  if cs.all fun c => decide (c.toNat < 0x80) then cs
  else composeMarks (withOrderedMarks (decomposed cs))

end Text

end Protogen
