import Protogen.Descriptor.Type

/-!
# Default values

The texts that stand for a value of each scalar type. Numbers are decimal with
an optional sign, whole numbers within the bounds of their type; bytes are text
with escapes.
-/

namespace Protogen

namespace Link

open Descriptor

def isDecimalDigit (c : Char) : Bool := decide ('0' ≤ c) && decide (c ≤ '9')

def digitsValue (cs : List Char) : Nat := cs.foldl (fun n c => n * 10 + (c.toNat - 48)) 0

def isDigits (cs : List Char) : Bool := !cs.isEmpty && cs.all isDecimalDigit

/-- The number that digits with an optional sign stand for. -/
def wholeNumber? : List Char → Option Int
  | '-' :: cs => if isDigits cs then some (-(digitsValue cs : Int)) else none
  | '+' :: cs => if isDigits cs then some (digitsValue cs : Int) else none
  | cs => if isDigits cs then some (digitsValue cs : Int) else none

def isSigned (bits : Nat) (cs : List Char) : Bool :=
  match wholeNumber? cs with
  | some n => decide (-(Nat.pow 2 (bits - 1) : Int) ≤ n) && decide (n < Nat.pow 2 (bits - 1))
  | none => false

/-- An unsigned number has no minus sign, not even before a zero. -/
def isUnsigned (bits : Nat) (cs : List Char) : Bool :=
  match cs, wholeNumber? cs with
  | '-' :: _, _ => false
  | _, some n => decide (n < Nat.pow 2 bits)
  | _, none => false

def withoutSign : List Char → List Char
  | '-' :: cs | '+' :: cs => cs
  | cs => cs

def smallLetters (cs : List Char) : List Char :=
  cs.map fun c => if 'A' ≤ c ∧ c ≤ 'Z' then Char.ofNat (c.toNat + 32) else c

def isExponent : List Char → Bool
  | [] => true
  | c :: cs => (c == 'e' || c == 'E') && isDigits (withoutSign cs)

/-- Digits with a point somewhere, then an optional exponent. -/
def isPointNumber (cs : List Char) : Bool :=
  let whole := cs.takeWhile isDecimalDigit
  match cs.dropWhile isDecimalDigit with
  | '.' :: rest =>
    let fraction := rest.takeWhile isDecimalDigit
    !(whole.isEmpty && fraction.isEmpty) && isExponent (rest.dropWhile isDecimalDigit)
  | rest => !whole.isEmpty && isExponent rest

def isFloat (cs : List Char) : Bool :=
  let number := withoutSign cs
  ["inf".toList, "infinity".toList, "nan".toList].contains (smallLetters number) ||
    isPointNumber number

def isHexDigitChar (c : Char) : Bool :=
  isDecimalDigit c || (decide ('a' ≤ c) && decide (c ≤ 'f')) ||
    (decide ('A' ≤ c) && decide (c ≤ 'F'))

/-- Text in which every backslash begins an escape. -/
def isEscapedText : List Char → Bool
  | [] => true
  | '\\' :: 'x' :: a :: b :: cs | '\\' :: 'X' :: a :: b :: cs =>
    (isHexDigitChar a || a == '+') && isHexDigitChar b && isEscapedText cs
  | '\\' :: c :: cs =>
    (['a', 'b', 'f', 'n', 'r', 't', 'v', '\\', '?', '\'', '"'].contains c ||
      (decide ('0' ≤ c) && decide (c ≤ '7'))) && isEscapedText cs
  | ['\\'] => false
  | _ :: cs => isEscapedText cs

/-- Whether a text is a default value of a scalar type. -/
def isScalarDefault (type : Scalar) (text : String) : Bool :=
  match type with
  | .int32 | .sint32 | .sfixed32 => isSigned 32 text.toList
  | .int64 | .sint64 | .sfixed64 => isSigned 64 text.toList
  | .uint32 | .fixed32 => isUnsigned 32 text.toList
  | .uint64 | .fixed64 => isUnsigned 64 text.toList
  | .float | .double => isFloat text.toList
  | .bool => text == "true" || text == "false"
  | .string => true
  | .bytes => isEscapedText text.toList

end Link

end Protogen
