import Protogen.Text.Printable

/-!
# Quoted text

Two ways to write a text between double quotes. `quoted` is used in messages:
backslash, quote and the usual control characters have short escapes, and every
character that would not be seen is written by its code point. `literal` is used
in generated source: it differs only for a NUL before an octal digit, which the
short escape would make look like an octal number.
-/

namespace Protogen

namespace Text

def hexDigits (n : Nat) : List Char := Nat.toDigits 16 n

/-- The characters that write `c` between double quotes. -/
def escapeChar (c : Char) : List Char :=
  if c = '\x00' then ['\\', '0']
  else if c = '\t' then ['\\', 't']
  else if c = '\r' then ['\\', 'r']
  else if c = '\n' then ['\\', 'n']
  else if c = '"' then ['\\', '"']
  else if c = '\\' then ['\\', '\\']
  else if isGraphemeExtend c || !isPrintable c then
    ['\\', 'u', '\x7b'] ++ hexDigits c.toNat ++ ['\x7d']
  else [c]

def quotedChars (cs : List Char) : List Char := '"' :: cs.flatMap escapeChar ++ ['"']

def quoted (s : String) : String := String.ofList (quotedChars s.toList)

def isOctalDigit (c : Char) : Bool := decide ('0' ≤ c) && decide (c ≤ '7')

def literalInner : List Char → List Char
  | [] => []
  | c :: cs =>
    (if c = '\x00' && (cs.head?.map isOctalDigit).getD false then ['\\', 'x', '0', '0']
      else escapeChar c) ++ literalInner cs

/-- A text as a string literal of generated source. -/
def literal (s : String) : String := String.ofList ('"' :: literalInner s.toList ++ ['"'])

end Text

end Protogen
