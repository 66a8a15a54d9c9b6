import Protogen.Json.Text

/-!
# JSON values

A strict reader: one value with blanks around it and nothing else. Numbers are
recognised but not kept, since nothing asks for them. A text whose fragments make
up none is a value all the same; it only cannot be used as a key or a content.
-/

namespace Protogen

namespace Json

inductive JsonValue
  | null
  | bool (value : Bool)
  | number
  | text (content? : Option String)
  | array (items : List JsonValue)
  | object (members : List (Option String × JsonValue))

def isJsonBlank (b : UInt8) : Bool := b = 0x20 || b = 0x0A || b = 0x09 || b = 0x0D

def dropBlanks (bs : List UInt8) : List UInt8 := bs.dropWhile isJsonBlank

def isDigit (b : UInt8) : Bool := 0x30 ≤ b && b ≤ 0x39

/-- What follows at least one digit. -/
def afterDigits? (bs : List UInt8) : Option (List UInt8) :=
  if (bs.head?.map isDigit).getD false then some (bs.dropWhile isDigit) else none

/-- What follows the exponent of a number, if it has one. -/
def afterExponent? : List UInt8 → Option (List UInt8)
  | 0x65 :: 0x2B :: bs | 0x65 :: 0x2D :: bs | 0x65 :: bs
  | 0x45 :: 0x2B :: bs | 0x45 :: 0x2D :: bs | 0x45 :: bs => afterDigits? bs
  | bs => some bs

/-- What follows the fraction of a number, if it has one. -/
def afterFraction? : List UInt8 → Option (List UInt8)
  | 0x2E :: bs => (afterDigits? bs).bind afterExponent?
  | bs => afterExponent? bs

/-- What follows a number without its sign. No zero stands before another
digit. -/
def afterUnsigned? : List UInt8 → Option (List UInt8)
  | 0x30 :: bs => if (bs.head?.map isDigit).getD false then none else afterFraction? bs
  | bs => (afterDigits? bs).bind afterFraction?

/-- What follows a number. -/
def afterNumber? : List UInt8 → Option (List UInt8)
  | 0x2D :: bs => afterUnsigned? bs
  | bs => afterUnsigned? bs

mutual

/-- The value in front. Every value inside another one takes a byte at least, so
the length of the input is depth enough. -/
def readValue? : Nat → List UInt8 → Option (JsonValue × List UInt8)
  | 0, _ => none
  | depth + 1, bs =>
    match dropBlanks bs with
    | 0x22 :: rest =>
      (readFragments? rest).map fun (fragments, rest) => (.text (ofFragments? fragments), rest)
    | 0x5B :: rest =>
      match dropBlanks rest with
      | 0x5D :: rest => some (.array [], rest)
      | rest => (readItems? depth rest).map fun (items, rest) => (.array items, rest)
    | 0x7B :: rest =>
      match dropBlanks rest with
      | 0x7D :: rest => some (.object [], rest)
      | rest => (readMembers? depth rest).map fun (members, rest) => (.object members, rest)
    | 0x6E :: 0x75 :: 0x6C :: 0x6C :: rest => some (.null, rest)
    | 0x74 :: 0x72 :: 0x75 :: 0x65 :: rest => some (.bool true, rest)
    | 0x66 :: 0x61 :: 0x6C :: 0x73 :: 0x65 :: rest => some (.bool false, rest)
    | rest => (afterNumber? rest).map fun rest => (.number, rest)

/-- The items up to the closing bracket. -/
def readItems? : Nat → List UInt8 → Option (List JsonValue × List UInt8)
  | 0, _ => none
  | depth + 1, bs => do
    let (item, rest) ← readValue? depth bs
    match dropBlanks rest with
    | 0x5D :: rest => some ([item], rest)
    | 0x2C :: rest =>
      let (items, rest) ← readItems? depth rest
      some (item :: items, rest)
    | _ => none

/-- The members up to the closing brace. -/
def readMembers? : Nat → List UInt8 → Option (List (Option String × JsonValue) × List UInt8)
  | 0, _ => none
  | depth + 1, bs =>
    match dropBlanks bs with
    | 0x22 :: rest => do
      let (key, rest) ← readFragments? rest
      match dropBlanks rest with
      | 0x3A :: rest =>
        let (value, rest) ← readValue? depth rest
        match dropBlanks rest with
        | 0x7D :: rest => some ([(ofFragments? key, value)], rest)
        | 0x2C :: rest =>
          let (members, rest) ← readMembers? depth rest
          some ((ofFragments? key, value) :: members, rest)
        | _ => none
      | _ => none
    | _ => none

end

/-- The value that the bytes are the text of. -/
def JsonValue.ofBytes? (bs : List UInt8) : Option JsonValue := do
  let (value, rest) ← readValue? (2 * bs.length + 2) bs
  if (dropBlanks rest).isEmpty then some value else none

end Json

end Protogen
