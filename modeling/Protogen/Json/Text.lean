import Protogen.Text.Hex
import Protogen.Text.Utf8

/-!
# Texts in JSON

Between two quotes every byte stands for itself, except for controls, which are
not allowed, and escapes. An escape names either a byte or a UTF-16 code unit, so
whether the fragments make up a text shows only when they are put together: a
surrogate needs its other half right behind it.
-/

namespace Protogen

namespace Json

open Text

inductive Fragment
  | byte (value : UInt8)
  | unit (value : Nat)
  deriving DecidableEq, Repr

/-- The code unit that four digits name. -/
def codeUnit? (a b c d : UInt8) : Option Nat := do
  let a ← hexDigit? a
  let b ← hexDigit? b
  let c ← hexDigit? c
  let d ← hexDigit? d
  some (((a * 16 + b) * 16 + c) * 16 + d)

/-- The byte that an escape of one character stands for. -/
def shortEscape? (b : UInt8) : Option UInt8 :=
  if b = 0x22 || b = 0x5C || b = 0x2F then some b
  else if b = 0x62 then some 0x08
  else if b = 0x66 then some 0x0C
  else if b = 0x6E then some 0x0A
  else if b = 0x72 then some 0x0D
  else if b = 0x74 then some 0x09
  else none

/-- The fragments up to the closing quote, and what follows it. -/
def readFragments? : List UInt8 → Option (List Fragment × List UInt8)
  | [] => none
  | 0x22 :: rest => some ([], rest)
  | 0x5C :: 0x75 :: a :: b :: c :: d :: rest => do
    let unit ← codeUnit? a b c d
    let (fragments, rest) ← readFragments? rest
    some (.unit unit :: fragments, rest)
  | 0x5C :: e :: rest => do
    let b ← shortEscape? e
    let (fragments, rest) ← readFragments? rest
    some (.byte b :: fragments, rest)
  | b :: rest =>
    if b < 0x20 || b = 0x5C then none
    else (readFragments? rest).map fun (fragments, rest) => (.byte b :: fragments, rest)

def isHighSurrogate (unit : Nat) : Bool := decide (0xD800 ≤ unit) && decide (unit < 0xDC00)

def isLowSurrogate (unit : Nat) : Bool := decide (0xDC00 ≤ unit) && decide (unit < 0xE000)

/-- The character that two surrogates name together. -/
def pairedChar (high low : Nat) : Char :=
  Char.ofNat (0x10000 + (high - 0xD800) * 0x400 + (low - 0xDC00))

def charBytes (c : Char) : List UInt8 := utf8Bytes (String.singleton c)

def fragmentBytes? : List Fragment → Option (List UInt8)
  | [] => some []
  | .byte b :: rest => (fragmentBytes? rest).map (b :: ·)
  | .unit high :: .unit low :: rest =>
    if isHighSurrogate high && isLowSurrogate low then
      (fragmentBytes? rest).map (charBytes (pairedChar high low) ++ ·)
    else if isHighSurrogate high || isLowSurrogate high then none
    else (fragmentBytes? (.unit low :: rest)).map (charBytes (Char.ofNat high) ++ ·)
  | .unit unit :: rest =>
    if isHighSurrogate unit || isLowSurrogate unit then none
    else (fragmentBytes? rest).map (charBytes (Char.ofNat unit) ++ ·)

/-- The text that the fragments make up, if it is one. -/
def ofFragments? (fragments : List Fragment) : Option String :=
  (fragmentBytes? fragments).bind ofUtf8?

end Json

end Protogen
