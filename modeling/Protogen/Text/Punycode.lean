/-!
# Words beyond ASCII in ASCII letters

A word is written as its ASCII characters, a hyphen, and a row of numbers that say
which other characters to put where: each counts the steps from the one before,
through the places of the word for each code point in turn. The numbers are
written to base 36, the lowest digit first, and the digit that ends a number is
the first one below a threshold, which follows the size of the numbers before.
-/

namespace Protogen

namespace Text

namespace Punycode

def digitValue? (c : Char) : Option Nat :=
  if 'a' ≤ c ∧ c ≤ 'z' then some (c.toNat - 0x61)
  else if '0' ≤ c ∧ c ≤ '9' then some (c.toNat - 0x30 + 26)
  else none

def digit (n : Nat) : Char := if n < 26 then Char.ofNat (0x61 + n) else Char.ofNat (0x30 + n - 26)

/-- The least end of a number at the place `place`, which counts in steps of 36. -/
def threshold (bias place : Nat) : Nat := max 1 (min 26 (place - bias))

/-- The size of a number in digits, times 36, and what is left of it. -/
def scaled (number size : Nat) : Nat × Nat :=
  if 455 < number then scaled (number / 35) (size + 36) else (number, size)
termination_by number
decreasing_by exact Nat.div_lt_self (by omega) (by omega)

/-- The bias after a number by which the word has grown to `length` characters. -/
def biasAfter (number length : Nat) (isFirst : Bool) : Nat :=
  let start := if isFirst then number / 700 else number / 2
  let (left, size) := scaled (start + start / length) 0
  size + 36 * left / (left + 38)

/-- The bias before the first number. -/
def firstBias : Nat := 72

/-- Reads a number. -/
def number? (bias place weight sum : Nat) : List Char → Option (Nat × List Char)
  | [] => none
  | c :: cs =>
    (digitValue? c).bind fun d =>
      if d < threshold bias place then some (sum + d * weight, cs)
      else number? bias (place + 36) (weight * (36 - threshold bias place)) (sum + d * weight) cs

def isCodePoint (n : Nat) : Bool :=
  decide (n < 0xD800) || (decide (0xDFFF < n) && decide (n < 0x110000))

/-- Puts the characters that the numbers tell into a word, from the place `index`
and the code point `n` on. Each number takes a digit at least, so `fuel` is the
length of the text. -/
def insertAll? : Nat → Nat → Nat → Nat → List Char → List Char → Option (List Char)
  | _, _, _, _, word, [] => some word
  | 0, _, _, _, _, _ :: _ => none
  | fuel + 1, bias, n, index, word, cs =>
    (number? bias 36 1 0 cs).bind fun (number, rest) =>
      let length := word.length + 1
      let point := n + (index + number) / length
      let place := (index + number) % length
      if isCodePoint point then
        insertAll? fuel (biasAfter number length (index == 0)) point (place + 1)
          (word.insertIdx place (Char.ofNat point)) rest
      else none

/-- The ASCII characters before the last hyphen, and the numbers behind it. A
hyphen in front divides nothing. -/
def divided (cs : List Char) : List Char × List Char :=
  match cs.reverse.dropWhile (· != '-') with
  | _ :: c :: before => ((c :: before).reverse, (cs.reverse.takeWhile (· != '-')).reverse)
  | _ => ([], cs)

/-- The word that a text stands for. -/
def decode? (cs : List Char) : Option (List Char) :=
  insertAll? cs.length firstBias 0x80 0 (divided cs).1 (divided cs).2

theorem threshold_pos (bias place : Nat) : 0 < threshold bias place := by
  unfold threshold
  omega

/-- The digits of a number. -/
def numberDigits (bias place number : Nat) : List Char :=
  let t := threshold bias place
  if number < t then [digit number]
  else
    digit (t + (number - t) % (36 - t)) ::
      numberDigits bias (place + 36) ((number - t) / (36 - t))
termination_by number
decreasing_by
  have pos := threshold_pos bias place
  exact Nat.lt_of_le_of_lt (Nat.div_le_self _ _) (by omega)

/-- What is written of a word, and how much of it: the numbers so far, the bias,
the steps since the last character, and the length with the characters so far. -/
structure Progress where
  digits : List Char
  bias : Nat
  steps : Nat
  length : Nat

/-- Passes a character of the word while the code point `point` is written;
`first` is the number of ASCII characters. -/
def Progress.pass (first point : Nat) (p : Progress) (c : Char) : Progress :=
  if c.toNat < point then { p with steps := p.steps + 1 }
  else if c.toNat = point then
    ⟨p.digits ++ numberDigits p.bias 36 p.steps,
     biasAfter p.steps (p.length + 1) (p.length == first), 0, p.length + 1⟩
  else p

/-- Writes the code points of a word, which are in increasing order; `n` is the
next one that could come. -/
def writeAll (word : List Char) (first : Nat) : List Nat → Nat → Progress → List Char
  | [], _, p => p.digits
  | point :: points, n, p =>
    let before := { p with steps := p.steps + (point - n) * (p.length + 1) }
    let behind := word.foldl (Progress.pass first point) before
    writeAll word first points (point + 1) { behind with steps := behind.steps + 1 }

def isBasic (c : Char) : Bool := decide (c.toNat < 0x80)

/-- The code points beyond ASCII, each once, in increasing order. -/
def pointsOf (word : List Char) : List Nat :=
  (((word.filter fun c => !isBasic c).map Char.toNat).mergeSort (· ≤ ·)).eraseReps

def encode (word : List Char) : List Char :=
  let basic := word.filter isBasic
  (if basic.isEmpty then [] else basic ++ ['-']) ++
    writeAll word basic.length (pointsOf word) 0x80 ⟨[], firstBias, 0, basic.length⟩

end Punycode

end Text

end Protogen
