/-!
# Records

A message on the wire is a list of numbered entries. Entries with the same
number are kept in order: for a single value the last one counts, for a repeated
field each one is an element, and the records of a single message field are
merged by putting them one after the other.
-/

namespace Protogen

namespace Wire

/-- One numbered entry. A packed entry holds all elements of a repeated number
field at once, and a double is kept as its 64 bits. -/
inductive Entry
  | int32 (number : Nat) (value : Int32)
  | int64 (number : Nat) (value : Int64)
  | uint64 (number : Nat) (value : UInt64)
  | double (number : Nat) (bits : UInt64)
  | bool (number : Nat) (value : Bool)
  | text (number : Nat) (value : String)
  | bytes (number : Nat) (value : List UInt8)
  | packed (number : Nat) (values : List Int32)
  | message (number : Nat) (entries : List Entry)
  deriving Inhabited

abbrev Record := List Entry

mutual

/-- How many messages are nested inside one another, this one not counted. -/
def Entry.depth : Entry → Nat
  | .message _ entries => 1 + entriesDepth entries
  | .int32 _ _ | .int64 _ _ | .uint64 _ _ | .double _ _ | .bool _ _ | .text _ _ | .bytes _ _
  | .packed _ _ => 0

def entriesDepth : List Entry → Nat
  | [] => 0
  | e :: es => max e.depth (entriesDepth es)

end

namespace Record

def depth (r : Record) : Nat := entriesDepth r

def int32s (r : Record) (n : Nat) : List Int32 :=
  r.flatMap fun
    | .int32 k v => if k = n then [v] else []
    | .packed k vs => if k = n then vs else []
    | _ => []

def int32? (r : Record) (n : Nat) : Option Int32 := (r.int32s n).getLast?

def int64? (r : Record) (n : Nat) : Option Int64 :=
  (r.filterMap fun
    | .int64 k v => if k = n then some v else none
    | _ => none).getLast?

def uint64? (r : Record) (n : Nat) : Option UInt64 :=
  (r.filterMap fun
    | .uint64 k v => if k = n then some v else none
    | _ => none).getLast?

def doubleBits? (r : Record) (n : Nat) : Option UInt64 :=
  (r.filterMap fun
    | .double k v => if k = n then some v else none
    | _ => none).getLast?

def bool? (r : Record) (n : Nat) : Option Bool :=
  (r.filterMap fun
    | .bool k v => if k = n then some v else none
    | _ => none).getLast?

def texts (r : Record) (n : Nat) : List String :=
  r.filterMap fun
    | .text k v => if k = n then some v else none
    | _ => none

def text? (r : Record) (n : Nat) : Option String := (r.texts n).getLast?

def bytes? (r : Record) (n : Nat) : Option (List UInt8) :=
  (r.filterMap fun
    | .bytes k v => if k = n then some v else none
    | _ => none).getLast?

def messages (r : Record) (n : Nat) : List Record :=
  r.filterMap fun
    | .message k v => if k = n then some v else none
    | _ => none

/-- The single message with number `n`, merged from all its entries. -/
def message? (r : Record) (n : Nat) : Option Record :=
  match r.messages n with
  | [] => none
  | rs => some rs.flatten

def ofInt32? (n : Nat) (v : Option Int32) : Record := v.toList.map (Entry.int32 n)

def ofInt32s (n : Nat) (vs : List Int32) : Record := vs.map (Entry.int32 n)

/-- A packed field without elements is not written. -/
def ofPacked (n : Nat) (vs : List Int32) : Record :=
  if vs.isEmpty then [] else [Entry.packed n vs]

def ofInt64? (n : Nat) (v : Option Int64) : Record := v.toList.map (Entry.int64 n)

def ofUInt64? (n : Nat) (v : Option UInt64) : Record := v.toList.map (Entry.uint64 n)

def ofDoubleBits? (n : Nat) (v : Option UInt64) : Record := v.toList.map (Entry.double n)

def ofBool? (n : Nat) (v : Option Bool) : Record := v.toList.map (Entry.bool n)

def ofText? (n : Nat) (v : Option String) : Record := v.toList.map (Entry.text n)

def ofTexts (n : Nat) (vs : List String) : Record := vs.map (Entry.text n)

def ofBytes? (n : Nat) (v : Option (List UInt8)) : Record := v.toList.map (Entry.bytes n)

/-- A plain text field is written unless it is empty. -/
def ofPlainText (n : Nat) (v : String) : Record := if v.isEmpty then [] else [Entry.text n v]

/-- A plain bytes field is written unless it is empty. -/
def ofPlainBytes (n : Nat) (v : List UInt8) : Record :=
  if v.isEmpty then [] else [Entry.bytes n v]

def ofMessage? (n : Nat) (v : Option Record) : Record := v.toList.map (Entry.message n)

def ofMessages (n : Nat) (vs : List Record) : Record := vs.map (Entry.message n)

end Record

end Wire

end Protogen
