import Protogen.Text.CodeRun

/-!
# Blanks and lines

Trimming removes the characters with the property White_Space at both ends of a
text. A line ends at a line feed, and a carriage return just before the line
feed belongs to the end. The last line needs no line feed, and then a carriage
return at its end is part of it.
-/

namespace Protogen

namespace Text

/-- The characters with the property White_Space. -/
def blankRuns : List CodeRun :=
  [⟨0x9, 0xD, 1⟩, ⟨0x20, 0x20, 1⟩, ⟨0x85, 0x85, 1⟩, ⟨0xA0, 0xA0, 1⟩, ⟨0x1680, 0x1680, 1⟩,
   ⟨0x2000, 0x200A, 1⟩, ⟨0x2028, 0x2029, 1⟩, ⟨0x202F, 0x202F, 1⟩, ⟨0x205F, 0x205F, 1⟩,
   ⟨0x3000, 0x3000, 1⟩]

def isBlank (c : Char) : Bool := CodeRun.anyContains blankRuns c.toNat

/-- The list without the longest run of members of `p` at its end. -/
def dropTrailing {α : Type} (p : α → Bool) (xs : List α) : List α :=
  (xs.reverse.dropWhile p).reverse

def trimChars (cs : List Char) : List Char := dropTrailing isBlank (cs.dropWhile isBlank)

def trim (s : String) : String := String.ofList (trimChars s.toList)

/-- A text of which nothing is left after trimming. -/
def isBlankText (s : String) : Bool := s.toList.all isBlank

/-- The lines of a text whose current line so far is `line`, the last character
first. -/
def linesFrom (line : List Char) : List Char → List (List Char)
  | [] => if line.isEmpty then [] else [line.reverse]
  | '\n' :: cs =>
    (match line with
      | '\r' :: start => start.reverse
      | start => start.reverse) :: linesFrom [] cs
  | c :: cs => linesFrom (c :: line) cs

def lines (s : String) : List String := (linesFrom [] s.toList).map String.ofList

end Text

end Protogen
