import Protogen.Catalog.DomainTable
import Protogen.Text.CaseMap
import Protogen.Text.Composition
import Protogen.Text.Direction
import Protogen.Text.Joining
import Protogen.Text.Percent
import Protogen.Text.Punycode

/-!
# Domain names

A domain name is looked up in ASCII. Its characters are replaced by their plain
forms, and every label that still has others is written in ASCII letters behind a
sign that says so. A label that bears the sign already has to stand for a word
that would be written in just this way. What has a label in such letters also has
to be readable: no label begins with a mark, invisible joiners stand only where
letters could join, and the directions of writing do not mix.
-/

namespace Protogen

namespace Catalog

open Text

namespace Domain

/-- Characters that no domain name has. -/
def forbidden : List Char :=
  [' ', '#', '%', '/', ':', '<', '>', '?', '@', '[', '\\', ']', '^', '|']

def isAscii (c : Char) : Bool := decide (c.toNat < 0x80)

def isForbidden (c : Char) : Bool := isControl c || forbidden.contains c

def nonJoiner : Char := '\u200C'

def joiner : Char := '\u200D'

/-- The capital letters of the one script whose plain letters are the capitals. -/
def isPlainCapital (c : Char) : Bool := decide (0x13A0 ≤ c.toNat) && decide (c.toNat ≤ 0x13F5)

/-- The plain form of a character, if names may have it. -/
def plainForm? (c : Char) : Option (List Char) :=
  if isAscii c then some [c.toLower]
  else if c == joiner || c == nonJoiner || isPlainCapital c then some [c]
  else if CodeRun.anyContains uncountedRuns c.toNat then some []
  else match charImage? plainCharRows c.toNat, textImage? plainTextRows c.toNat with
    | some image, _ => some [image]
    | none, some image => some image.toList
    | none, none =>
      if isPrintable c && !CodeRun.anyContains refusedRuns c.toNat then some (lowerChar c)
      else none

/-- The plain form of a name, if all characters have one. -/
def plainName? (cs : List Char) : Option (List Char) :=
  (cs.mapM plainForm?).map fun forms => composedForm forms.flatten

/-- Whether a joiner behind `before`, which is reversed, stands between letters
that it can make join or keep from joining. -/
def isJoinerPlace (before : List Char) (c : Char) (behind : List Char) : Bool :=
  (before.head?.map fun d => combiningClass d == vowelKillerClass).getD false ||
    (c == nonJoiner && meetsJoining joinsNext before && meetsJoining joinsPrevious behind)

/-- Whether all joiners behind `before`, which is reversed, stand where they may. -/
def hasPlacedJoiners (before : List Char) : List Char → Bool
  | [] => true
  | c :: cs =>
    (!(c == joiner || c == nonJoiner) || isJoinerPlace before c cs) &&
      hasPlacedJoiners (c :: before) cs

/-- Whether a label is readable, apart from directions. -/
def isReadable (label : List Char) : Bool :=
  !(label.head?.map isMark).getD false && hasPlacedJoiners [] label &&
    !(label.any isForbidden)

/-- The sign of a label in ASCII letters that stands for another word. -/
def sign : List Char := ['x', 'n', '-', '-']

/-- The label that a plain label stands for. Behind the sign there is a word that
needs it, in the form that it would be given. -/
def meaning? (label : List Char) : Option (List Char) :=
  if sign.isPrefixOf label then
    if !label.all isAscii || label.getLast? == some '-' then none
    else
      (Punycode.decode? (label.drop sign.length)).filter fun word =>
        plainName? word == some word && !word.contains '.'
  else some label

/-- The directions of a label, those of marks at its end left out. -/
def outline (label : List Char) : List Direction :=
  ((label.map direction).reverse.dropWhile (· == .mark)).reverse

/-- Whether a label that begins with a letter is written in one direction. Numbers
may end it, and one to the left has numbers of one kind only. -/
def hasOneDirection (label : List Char) : Bool :=
  let directions := label.map direction
  let last? := (outline label).getLast?
  match directions.head? with
  | none => true
  | some .rightward =>
    directions.all (fun d => d != .leftward && d != .arabicNumber) &&
      (last? == some .rightward || last? == some .number)
  | some .leftward =>
    directions.all (· != .rightward) &&
      !(directions.contains .number && directions.contains .arabicNumber) &&
      (last? == some .leftward || last? == some .number || last? == some .arabicNumber)
  | some _ => false

def hasLeftward (label : List Char) : Bool :=
  label.any fun c => direction c == .leftward || direction c == .arabicNumber

/-- A label in ASCII. -/
def asciiLabel (label : List Char) : List Char :=
  if label.all isAscii then label else sign ++ Punycode.encode label

/-- The name in ASCII, if it is one. -/
def toAscii? (cs : List Char) : Option (List Char) := do
  let plain ← plainName? cs
  let labels ← (plain.splitOn '.').mapM meaning?
  if labels.all isReadable && (!labels.any hasLeftward || labels.all hasOneDirection) then
    some (['.'].intercalate (labels.map asciiLabel))
  else none

end Domain

end Catalog

end Protogen
