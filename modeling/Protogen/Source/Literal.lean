import Protogen.Text.WordChar

/-!
# Literals in source text

For each kind of literal, what follows it in a text that begins with one.
Strings, byte strings and strings for foreign code are written with escapes or
raw; characters and bytes stand between single quotes; numbers are integers to
four bases or have a point or an exponent. Any literal may be followed directly
by a word that says its type.
-/

namespace Protogen

namespace Source

open Text

/-- What a string may hold: any text, ASCII only, or anything but NUL. -/
inductive StringKind
  | text
  | ascii
  | foreign
  deriving DecidableEq, Repr

namespace Literal

def isDigitChar (c : Char) : Bool := decide ('0' ≤ c) && decide (c ≤ '9')

def hexValue? (c : Char) : Option Nat :=
  if isDigitChar c then some (c.toNat - 0x30)
  else if decide ('a' ≤ c) && decide (c ≤ 'f') then some (c.toNat - 0x57)
  else if decide ('A' ≤ c) && decide (c ≤ 'F') then some (c.toNat - 0x37)
  else none

/-- What follows the word that may say the type of a literal. -/
def afterSuffix : List Char → List Char
  | c :: cs => if isWordStart c then cs.dropWhile isWordPart else c :: cs
  | [] => []

/-- The code point that up to `left` more digits and a brace name, and what
follows them. Bars below may stand behind the first digit. -/
def codePoint? (value : Nat) (begun : Bool) : Nat → List Char → Option (Nat × List Char)
  | _, [] => none
  | left, c :: cs =>
    if c = '_' && begun then codePoint? value true left cs
    else if c = '\x7d' && begun then some (value, cs)
    else match left, hexValue? c with
      | left + 1, some d => codePoint? (value * 16 + d) true left cs
      | _, _ => none

def isCodePoint (n : Nat) : Bool :=
  decide (n < 0xD800) || (decide (0xDFFF < n) && decide (n < 0x110000))

/-- What follows the two digits of a byte escape. Escapes in texts stay within
ASCII, and no escape in a foreign string is zero. -/
def afterByteEscape? (kind : StringKind) : List Char → Option (List Char)
  | a :: b :: cs =>
    match hexValue? a, hexValue? b with
    | some high, some low =>
      match kind with
      | .text => if high < 8 then some cs else none
      | .ascii => some cs
      | .foreign => if high = 0 && low = 0 then none else some cs
    | _, _ => none
  | _ => none

def afterCodePointEscape? (kind : StringKind) : List Char → Option (List Char)
  | '\x7b' :: cs =>
    match codePoint? 0 false 6 cs with
    | some (n, rest) =>
      if isCodePoint n && !(kind = .foreign && n = 0) then some rest else none
    | none => none
  | _ => none

/-- What follows an escape after its backslash, unless it is one of a line end. -/
def afterEscape? (kind : StringKind) : List Char → Option (List Char)
  | 'x' :: cs => afterByteEscape? kind cs
  | 'u' :: cs => if kind = .ascii then none else afterCodePointEscape? kind cs
  | '0' :: cs => if kind = .foreign then none else some cs
  | c :: cs => if ['n', 'r', 't', '\\', '\'', '"'].contains c then some cs else none
  | [] => none

/-- What follows the blanks after an escaped line end. A carriage return has to
come with a line feed, and something has to follow. -/
def afterBlanks? : List Char → Option (List Char)
  | [] => none
  | '\r' :: '\n' :: cs => afterBlanks? cs
  | '\r' :: _ => none
  | c :: cs => if c = ' ' || c = '\t' || c = '\n' then afterBlanks? cs else some (c :: cs)

def allows (kind : StringKind) (c : Char) : Bool :=
  match kind with
  | .text => true
  | .ascii => decide (c.toNat < 0x80)
  | .foreign => c != '\x00'

/-- What follows the closing quote of a string; `fuel` bounds its length. -/
def afterString? (kind : StringKind) : Nat → List Char → Option (List Char)
  | 0, _ | _ + 1, [] => none
  | fuel + 1, c :: cs =>
    if c = '"' then some (afterSuffix cs)
    else if c = '\r' then
      match cs with
      | '\n' :: rest => afterString? kind fuel rest
      | _ => none
    else if c = '\\' then
      match cs with
      | '\n' :: _ | '\r' :: _ => (afterBlanks? cs).bind (afterString? kind fuel)
      | _ => (afterEscape? kind cs).bind (afterString? kind fuel)
    else if allows kind c then afterString? kind fuel cs
    else none

/-- What follows a raw string that a quote and `hashes` number signs close. -/
def afterRawString? (kind : StringKind) (hashes : Nat) : List Char → Option (List Char)
  | [] => none
  | '\r' :: '\n' :: cs => afterRawString? kind hashes cs
  | c :: cs =>
    if c = '"' && (cs.take hashes == List.replicate hashes '#') then
      some (afterSuffix (cs.drop hashes))
    else if c != '\r' && allows kind c then afterRawString? kind hashes cs
    else none

/-- A raw string from its number signs on, of which there may be 255. -/
def afterRaw? (kind : StringKind) (cs : List Char) : Option (List Char) :=
  match cs.dropWhile (· == '#') with
  | '"' :: rest =>
    if 255 < (cs.takeWhile (· == '#')).length then none
    else afterRawString? kind (cs.takeWhile (· == '#')).length rest
  | _ => none

def afterQuote? : List Char → Option (List Char)
  | '\'' :: cs => some (afterSuffix cs)
  | _ => none

/-- A character, after its first quote. -/
def afterCharacter? : List Char → Option (List Char)
  | '\\' :: cs => (afterEscape? .text cs).bind afterQuote?
  | _ :: cs => afterQuote? cs
  | [] => none

/-- A byte, after its first quote. -/
def afterByte? : List Char → Option (List Char)
  | '\\' :: cs => (afterEscape? .ascii cs).bind afterQuote?
  | c :: cs => if allows .ascii c then afterQuote? cs else none
  | [] => none

def isDigitOrBar (c : Char) : Bool := isDigitChar c || c == '_'

/-- What follows an exponent after its letter: signs, then digits. There is none
if a second sign comes first or no digit at all. -/
def afterExponent? (isSigned hasDigit : Bool) : List Char → Option (List Char)
  | [] => if hasDigit then some [] else none
  | c :: cs =>
    if c = '+' || c = '-' then
      if hasDigit then some (c :: cs) else if isSigned then none else afterExponent? true false cs
    else if isDigitChar c then afterExponent? isSigned true cs
    else if c = '_' then afterExponent? isSigned hasDigit cs
    else if hasDigit then some (c :: cs)
    else none

def isExponentLetter (c : Char) : Bool := c == 'e' || c == 'E'

/-- A point belongs to a number unless a second one or a word comes behind it. -/
def afterPoint? : List Char → Option (List Char)
  | [] => some []
  | c :: cs =>
    if c = '.' || isWordStart c then none
    else match (c :: cs).dropWhile isDigitOrBar with
      | [] => some []
      | d :: rest =>
        if isExponentLetter d then some ((afterExponent? false false rest).getD (d :: rest))
        else some (d :: rest)

/-- What follows the digits of a number with a point or an exponent. -/
def afterFraction? (cs : List Char) : Option (List Char) :=
  match cs.dropWhile isDigitOrBar with
  | '.' :: rest => afterPoint? rest
  | c :: rest => if isExponentLetter c then afterExponent? false false rest else none
  | [] => none

/-- What follows the digits of an integer to a base. No digit may be too large,
but a letter that is ends the digits. -/
def afterDigits? (base : Nat) (begun : Bool) : List Char → Option (List Char)
  | [] => if begun then some [] else none
  | c :: cs =>
    if c = '_' then if !begun && base = 10 then none else afterDigits? base begun cs
    else match hexValue? c with
      | some d =>
        if d < base then afterDigits? base true cs
        else if isDigitChar c then none
        else if begun then some (c :: cs)
        else none
      | none => if begun then some (c :: cs) else none

def afterInteger? : List Char → Option (List Char)
  | '0' :: 'x' :: cs => afterDigits? 16 false cs
  | '0' :: 'o' :: cs => afterDigits? 8 false cs
  | '0' :: 'b' :: cs => afterDigits? 2 false cs
  | cs => afterDigits? 10 false cs

/-- What follows a number and its type. -/
def endedNumber? (cs : List Char) : Option (List Char) :=
  match afterSuffix cs with
  | c :: rest => if isWordPart c then none else some (c :: rest)
  | [] => some []

def afterNumber? (cs : List Char) : Option (List Char) :=
  if (cs.head?.map isDigitChar).getD false then
    ((afterFraction? cs).bind endedNumber?).or ((afterInteger? cs).bind endedNumber?)
  else none

/-- What follows the literal that a text begins with, if it begins with one. -/
def after? (cs : List Char) : Option (List Char) :=
  match cs with
  | '"' :: rest => afterString? .text (rest.length + 1) rest
  | 'r' :: rest => afterRaw? .text rest
  | 'b' :: '"' :: rest => afterString? .ascii (rest.length + 1) rest
  | 'b' :: 'r' :: rest => afterRaw? .ascii rest
  | 'c' :: '"' :: rest => afterString? .foreign (rest.length + 1) rest
  | 'c' :: 'r' :: rest => afterRaw? .foreign rest
  | 'b' :: '\'' :: rest => afterByte? rest
  | '\'' :: rest => afterCharacter? rest
  | cs => afterNumber? cs

/-- What an escape stands for, after its backslash. Blanks behind an escaped line
end stand for nothing. -/
def unescaped? : List Char → Option (List Char × List Char)
  | 'x' :: a :: b :: cs =>
    match hexValue? a, hexValue? b with
    | some high, some low => some ([Char.ofNat (high * 16 + low)], cs)
    | _, _ => none
  | 'u' :: '\x7b' :: cs => (codePoint? 0 false 6 cs).map fun (n, rest) => ([Char.ofNat n], rest)
  | '\n' :: cs | '\r' :: '\n' :: cs => (afterBlanks? cs).map fun rest => ([], rest)
  | '0' :: cs => some (['\x00'], cs)
  | 'n' :: cs => some (['\n'], cs)
  | 'r' :: cs => some (['\r'], cs)
  | 't' :: cs => some (['\t'], cs)
  | c :: cs => some ([c], cs)
  | [] => none

/-- The characters that a string stands for, up to its closing quote; `fuel`
bounds its length. -/
def stringChars : Nat → List Char → List Char
  | 0, _ | _ + 1, [] => []
  | fuel + 1, c :: cs =>
    if c = '"' then []
    else if c = '\r' then stringChars fuel cs
    else if c = '\\' then
      match unescaped? cs with
      | some (shown, rest) => shown ++ stringChars fuel rest
      | none => []
    else c :: stringChars fuel cs

/-- What stands between the first and the last quote. -/
def rawChars (cs : List Char) : List Char :=
  let inner := (cs.dropWhile (· != '"')).drop 1
  ((inner.reverse.dropWhile (· != '"')).drop 1).reverse

/-- The text that a string literal stands for, if it is one. -/
def text? (literal : String) : Option String :=
  match literal.toList with
  | '"' :: cs => some (String.ofList (stringChars (cs.length + 1) cs))
  | 'r' :: cs => some (String.ofList (rawChars cs))
  | _ => none

/-- The number that the digits at the front of a text write, and what follows them. -/
def digitsValue (base value : Nat) : List Char → Nat × List Char
  | [] => (value, [])
  | c :: cs =>
    if c = '_' then digitsValue base value cs
    else match hexValue? c with
      | some d => if d < base then digitsValue base (value * base + d) cs else (value, c :: cs)
      | none => (value, c :: cs)

/-- Whether what follows the digits of a number makes it more than an integer. -/
def startsFraction (cs : List Char) : Bool :=
  match cs with
  | '.' :: _ => true
  | c :: rest =>
    isExponentLetter c &&
      ((rest.dropWhile (· == '_')).head?.map fun d => isDigitChar d || d == '+' || d == '-').getD
        false
  | [] => false

/-- The number that an integer writes, and whether its type stands behind it. -/
def integer? (literal : String) : Option (Nat × Bool) :=
  match literal.toList with
  | '0' :: 'x' :: cs => some ((digitsValue 16 0 cs).1, !(digitsValue 16 0 cs).2.isEmpty)
  | '0' :: 'o' :: cs => some ((digitsValue 8 0 cs).1, !(digitsValue 8 0 cs).2.isEmpty)
  | '0' :: 'b' :: cs => some ((digitsValue 2 0 cs).1, !(digitsValue 2 0 cs).2.isEmpty)
  | c :: cs =>
    let (value, rest) := digitsValue 10 0 (c :: cs)
    if isDigitChar c && !startsFraction rest then some (value, !rest.isEmpty) else none
  | [] => none

end Literal

end Source

end Protogen
