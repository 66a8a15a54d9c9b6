import Protogen.Wire.Encode
import Protogen.Wire.Schema

/-!
# Reading records

A reader takes what it needs from the front of the bytes and returns the rest.
The entries of a nested message are read until its announced length is used up;
an entry that runs past that point spoils the message, not the entry. Messages
and skipped groups may be nested a hundred levels deep. Inside a listed field an
error carries the field and its message; outside it stands alone.
-/

namespace Protogen

namespace Wire

/-- Why bytes are no message. -/
inductive DecodeCause
  | invalidVarint
  | invalidKey (key : Nat)
  | invalidWireTypeCode (code : Nat)
  | zeroTag
  | wrongWireType (actual expected : WireType)
  | bufferUnderflow
  | lengthExceeded
  | unexpectedEndGroup
  | invalidText
  | recursionLimit
  deriving DecidableEq, Repr

def DecodeCause.message : DecodeCause → String
  | invalidVarint => "invalid varint"
  | invalidKey key => "invalid key value: " ++ toString key
  | invalidWireTypeCode code => "invalid wire type value: " ++ toString code
  | zeroTag => "invalid tag value: 0"
  | wrongWireType actual expected =>
    "invalid wire type: " ++ actual.name ++ " (expected " ++ expected.name ++ ")"
  | bufferUnderflow => "buffer underflow"
  | lengthExceeded => "delimited length exceeded"
  | unexpectedEndGroup => "unexpected end group tag"
  | invalidText => "invalid string value: data is not UTF-8 encoded"
  | recursionLimit => "recursion limit reached"

/-- A cause with the fields it was met in, the innermost first. -/
structure DecodeError where
  path : List (MessageType × FieldSchema)
  cause : DecodeCause
  deriving DecidableEq, Repr

namespace DecodeError

def placeText (place : MessageType × FieldSchema) : String :=
  place.1.name ++ "." ++ place.2.label ++ ": "

def message (e : DecodeError) : String :=
  "failed to decode Protobuf message: " ++ String.join (e.path.map placeText) ++ e.cause.message

end DecodeError

def fails {α : Type} (cause : DecodeCause) : Except DecodeError α := .error ⟨[], cause⟩

/-- Adds a field to the place of an error. -/
def within {α : Type} (type : MessageType) (field : FieldSchema)
    (reading : Except DecodeError α) : Except DecodeError α :=
  reading.mapError fun e => { e with path := e.path ++ [(type, field)] }

/-- A number of at most `left` groups of seven bits. The tenth group has one
bit only. -/
def varintWithin : Nat → List UInt8 → Option (Nat × List UInt8)
  | 0, _ => none
  | _ + 1, [] => none
  | left + 1, b :: bs =>
    if b < 128 then
      if left = 0 && 1 < b then none else some (b.toNat, bs)
    else (varintWithin left bs).map fun (n, rest) => (n * 128 + b.toNat % 128, rest)

def readVarint (bs : List UInt8) : Except DecodeError (Nat × List UInt8) :=
  match varintWithin 10 bs with
  | some reading => .ok reading
  | none => fails .invalidVarint

def readKey (bs : List UInt8) : Except DecodeError (Nat × WireType × List UInt8) := do
  let (key, bs) ← readVarint bs
  if 0x100000000 ≤ key then fails (.invalidKey key)
  else match WireType.ofCode? (key % 8) with
    | none => fails (.invalidWireTypeCode (key % 8))
    | some wire => if key < 8 then fails .zeroTag else .ok (key / 8, wire, bs)

def expectWire (actual expected : WireType) : Except DecodeError Unit :=
  if actual = expected then .ok () else fails (.wrongWireType actual expected)

/-- The announced length of a delimited value, which has to be there. -/
def readLength (bs : List UInt8) : Except DecodeError (Nat × List UInt8) := do
  let (length, bs) ← readVarint bs
  if bs.length < length then fails .bufferUnderflow else .ok (length, bs)

def readDelimited (bs : List UInt8) : Except DecodeError (List UInt8 × List UInt8) := do
  let (length, bs) ← readLength bs
  .ok (bs.take length, bs.drop length)

/-- The low 32 bits of a number, as a signed one. -/
def lowInt32 (n : Nat) : Int32 := (UInt32.ofNat n).toInt32

def readInt32 (bs : List UInt8) : Except DecodeError (Int32 × List UInt8) := do
  let (n, bs) ← readVarint bs
  .ok (lowInt32 n, bs)

/-- The number that bytes make up, the lowest first. -/
def fixedNumber : List UInt8 → Nat
  | [] => 0
  | b :: bs => fixedNumber bs * 256 + b.toNat

def readFixed (count : Nat) (bs : List UInt8) : Except DecodeError (Nat × List UInt8) :=
  if bs.length < count then fails .bufferUnderflow
  else .ok (fixedNumber (bs.take count), bs.drop count)

/-- Numbers until only `stop` bytes are left; `fuel` bounds how many. -/
def readInt32s : Nat → Nat → List UInt8 → Except DecodeError (List Int32 × List UInt8)
  | 0, _, bs => .ok ([], bs)
  | fuel + 1, stop, bs =>
    if bs.length ≤ stop then .ok ([], bs)
    else do
      let (v, bs) ← readInt32 bs
      let (vs, bs) ← readInt32s fuel stop bs
      .ok (v :: vs, bs)

def expectStop (stop : Nat) (bs : List UInt8) : Except DecodeError Unit :=
  if bs.length = stop then .ok () else fails .lengthExceeded

def readPacked (bs : List UInt8) : Except DecodeError (List Int32 × List UInt8) := do
  let (length, bs) ← readLength bs
  let stop := bs.length - length
  let (vs, bs) ← readInt32s length stop bs
  expectStop stop bs
  .ok (vs, bs)

def skipBytes (count : Nat) (bs : List UInt8) : Except DecodeError (List UInt8) :=
  if bs.length < count then fails .bufferUnderflow else .ok (bs.drop count)

mutual

/-- The bytes after a value that no field takes. -/
def skipValue : Nat → Nat → Nat → WireType → List UInt8 → Except DecodeError (List UInt8)
  | 0, _, _, _, bs => .ok bs
  | fuel + 1, limit, number, wire, bs =>
    if limit = 0 then fails .recursionLimit
    else match wire with
      | .varint => do
        let (_, bs) ← readVarint bs
        .ok bs
      | .thirtyTwoBit => skipBytes 4 bs
      | .sixtyFourBit => skipBytes 8 bs
      | .lengthDelimited => do
        let (length, bs) ← readVarint bs
        skipBytes length bs
      | .startGroup => skipGroup fuel (limit - 1) number bs
      | .endGroup => fails .unexpectedEndGroup

/-- The bytes after the end of the group with the given number. -/
def skipGroup : Nat → Nat → Nat → List UInt8 → Except DecodeError (List UInt8)
  | 0, _, _, bs => .ok bs
  | fuel + 1, limit, number, bs => do
    let (inner, wire, bs) ← readKey bs
    if wire = .endGroup then
      if inner = number then .ok bs else fails .unexpectedEndGroup
    else do
      let bs ← skipValue fuel limit inner wire bs
      skipGroup fuel limit number bs

end

/-- The value of a listed field that holds no message. -/
def readPlain (field : FieldSchema) (wire : WireType) (bs : List UInt8) :
    Except DecodeError (Record × List UInt8) :=
  match field.type with
  | .int32 => do
    expectWire wire .varint
    let (v, bs) ← readInt32 bs
    .ok ([.int32 field.number v], bs)
  | .repeatedInt32 =>
    if wire = .lengthDelimited then do
      let (vs, bs) ← readPacked bs
      .ok (Record.ofInt32s field.number vs, bs)
    else do
      expectWire wire .varint
      let (v, bs) ← readInt32 bs
      .ok ([.int32 field.number v], bs)
  | .packedInt32 =>
    if wire = .lengthDelimited then do
      let (vs, bs) ← readPacked bs
      .ok (Record.ofPacked field.number vs, bs)
    else do
      expectWire wire .varint
      let (v, bs) ← readInt32 bs
      .ok ([.packed field.number [v]], bs)
  | .int64 => do
    expectWire wire .varint
    let (n, bs) ← readVarint bs
    .ok ([.int64 field.number (UInt64.ofNat n).toInt64], bs)
  | .uint64 => do
    expectWire wire .varint
    let (n, bs) ← readVarint bs
    .ok ([.uint64 field.number (UInt64.ofNat n)], bs)
  | .double => do
    expectWire wire .sixtyFourBit
    let (n, bs) ← readFixed 8 bs
    .ok ([.double field.number (UInt64.ofNat n)], bs)
  | .bool => do
    expectWire wire .varint
    let (n, bs) ← readVarint bs
    .ok ([.bool field.number (n != 0)], bs)
  | .text | .repeatedText => do
    expectWire wire .lengthDelimited
    let (value, bs) ← readDelimited bs
    match Text.ofUtf8? value with
    | some s => .ok ([.text field.number s], bs)
    | none => fails .invalidText
  | .bytes => do
    expectWire wire .lengthDelimited
    let (value, bs) ← readDelimited bs
    .ok ([.bytes field.number value], bs)
  | .message _ | .repeatedMessage _ => .ok ([], bs)

def FieldType.nested? : FieldType → Option MessageType
  | .message type | .repeatedMessage type => some type
  | _ => none

/-- The entries of a message until only `stop` bytes are left. `limit` levels of
nesting remain, and `fuel` bounds the number of steps. -/
def readEntries :
    Nat → MessageType → Nat → Nat → List UInt8 → Except DecodeError (Record × List UInt8)
  | 0, _, _, _, bs => .ok ([], bs)
  | fuel + 1, type, limit, stop, bs =>
    if bs.length ≤ stop then .ok ([], bs)
    else do
      let (number, wire, bs) ← readKey bs
      let (entries, bs) ← match type.field? number with
        | none => do
          let bs ← skipValue (bs.length + 1) limit number wire bs
          .ok ([], bs)
        | some field =>
          within type field (match field.type.nested? with
            | none => readPlain field wire bs
            | some inner => do
              expectWire wire .lengthDelimited
              if limit = 0 then fails .recursionLimit
              else do
                let (length, bs) ← readLength bs
                let innerStop := bs.length - length
                let (record, bs) ← readEntries fuel inner (limit - 1) innerStop bs
                expectStop innerStop bs
                .ok ([.message number record], bs))
      let (rest, bs) ← readEntries fuel type limit stop bs
      .ok (entries ++ rest, bs)

def nestingLimit : Nat := 100

/-- The record of a message of the given type. -/
def decode (type : MessageType) (bs : List UInt8) : Except DecodeError Record :=
  (readEntries (bs.length + 1) type nestingLimit 0 bs).map Prod.fst

end Wire

end Protogen
