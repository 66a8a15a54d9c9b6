import Protogen.Wire.Record
import Protogen.Text.Utf8

/-!
# Writing records

Entries are written in their order, each with a key that holds its number and
the shape of its value. Numbers are written in groups of seven bits, the lowest
first; a negative 32-bit number is extended to 64 bits and takes ten bytes. A
double takes eight, the lowest first.
-/

namespace Protogen

namespace Wire

/-- The shape of a value on the wire. -/
inductive WireType
  | varint
  | sixtyFourBit
  | lengthDelimited
  | startGroup
  | endGroup
  | thirtyTwoBit
  deriving DecidableEq, Repr

namespace WireType

def code : WireType → Nat
  | varint => 0
  | sixtyFourBit => 1
  | lengthDelimited => 2
  | startGroup => 3
  | endGroup => 4
  | thirtyTwoBit => 5

def ofCode? : Nat → Option WireType
  | 0 => some varint
  | 1 => some sixtyFourBit
  | 2 => some lengthDelimited
  | 3 => some startGroup
  | 4 => some endGroup
  | 5 => some thirtyTwoBit
  | _ => none

def name : WireType → String
  | varint => "Varint"
  | sixtyFourBit => "SixtyFourBit"
  | lengthDelimited => "LengthDelimited"
  | startGroup => "StartGroup"
  | endGroup => "EndGroup"
  | thirtyTwoBit => "ThirtyTwoBit"

theorem ofCode?_code (w : WireType) : ofCode? w.code = some w := by cases w <;> rfl

end WireType

def writeVarint (n : Nat) : List UInt8 :=
  if n < 128 then [UInt8.ofNat n]
  else UInt8.ofNat (n % 128 + 128) :: writeVarint (n / 128)
termination_by n
decreasing_by omega

/-- The 64 bits of a sign-extended number. -/
def extended (v : Int32) : Nat := v.toInt64.toUInt64.toNat

def writeInt32 (v : Int32) : List UInt8 := writeVarint (extended v)

/-- So many bytes of a number, the lowest first. -/
def writeFixed : Nat → Nat → List UInt8
  | 0, _ => []
  | count + 1, n => UInt8.ofNat n :: writeFixed count (n / 256)

def writeKey (number : Nat) (wire : WireType) : List UInt8 :=
  writeVarint (number * 8 + wire.code)

def writeDelimited (number : Nat) (bs : List UInt8) : List UInt8 :=
  writeKey number .lengthDelimited ++ writeVarint bs.length ++ bs

mutual

def Entry.encode : Entry → List UInt8
  | .int32 n v => writeKey n .varint ++ writeInt32 v
  | .int64 n v => writeKey n .varint ++ writeVarint v.toUInt64.toNat
  | .uint64 n v => writeKey n .varint ++ writeVarint v.toNat
  | .double n v => writeKey n .sixtyFourBit ++ writeFixed 8 v.toNat
  | .bool n v => writeKey n .varint ++ writeVarint v.toNat
  | .text n v => writeDelimited n (Text.utf8Bytes v)
  | .bytes n v => writeDelimited n v
  | .packed n vs => writeDelimited n (vs.flatMap writeInt32)
  | .message n es => writeDelimited n (encodeEntries es)

def encodeEntries : List Entry → List UInt8
  | [] => []
  | e :: es => e.encode ++ encodeEntries es

end

def Record.encode (r : Record) : List UInt8 := encodeEntries r

end Wire

end Protogen
