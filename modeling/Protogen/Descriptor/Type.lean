/-!
# Declared types and labels

A descriptor declares the type and the label of a field by number. A number that
stands for nothing is kept in the descriptor; it reads as a double and as
optional, and so does a missing one.
-/

namespace Protogen

namespace Descriptor

inductive Scalar
  | double
  | float
  | int64
  | uint64
  | int32
  | fixed64
  | fixed32
  | bool
  | string
  | bytes
  | uint32
  | sfixed32
  | sfixed64
  | sint32
  | sint64
  deriving DecidableEq, Repr

namespace Scalar

/-- The name of the type in a schema. -/
def name : Scalar → String
  | double => "double"
  | float => "float"
  | int64 => "int64"
  | uint64 => "uint64"
  | int32 => "int32"
  | fixed64 => "fixed64"
  | fixed32 => "fixed32"
  | bool => "bool"
  | string => "string"
  | bytes => "bytes"
  | uint32 => "uint32"
  | sfixed32 => "sfixed32"
  | sfixed64 => "sfixed64"
  | sint32 => "sint32"
  | sint64 => "sint64"

/-- Whether several elements can be packed into one entry. -/
def isPackable : Scalar → Bool
  | string | bytes => false
  | _ => true

end Scalar

inductive DeclaredType
  | scalar (type : Scalar)
  | group
  | message
  | enum
  deriving DecidableEq, Repr

namespace DeclaredType

def ofNumber? (n : Int32) : Option DeclaredType :=
  match n.toInt with
  | 1 => some (scalar .double)
  | 2 => some (scalar .float)
  | 3 => some (scalar .int64)
  | 4 => some (scalar .uint64)
  | 5 => some (scalar .int32)
  | 6 => some (scalar .fixed64)
  | 7 => some (scalar .fixed32)
  | 8 => some (scalar .bool)
  | 9 => some (scalar .string)
  | 10 => some group
  | 11 => some message
  | 12 => some (scalar .bytes)
  | 13 => some (scalar .uint32)
  | 14 => some enum
  | 15 => some (scalar .sfixed32)
  | 16 => some (scalar .sfixed64)
  | 17 => some (scalar .sint32)
  | 18 => some (scalar .sint64)
  | _ => none

def toNumber : DeclaredType → Int32
  | scalar .double => 1
  | scalar .float => 2
  | scalar .int64 => 3
  | scalar .uint64 => 4
  | scalar .int32 => 5
  | scalar .fixed64 => 6
  | scalar .fixed32 => 7
  | scalar .bool => 8
  | scalar .string => 9
  | group => 10
  | message => 11
  | scalar .bytes => 12
  | scalar .uint32 => 13
  | enum => 14
  | scalar .sfixed32 => 15
  | scalar .sfixed64 => 16
  | scalar .sint32 => 17
  | scalar .sint64 => 18

def ofNumber (n : Option Int32) : DeclaredType :=
  (n.bind ofNumber?).getD (scalar .double)

theorem ofNumber?_toNumber (t : DeclaredType) : ofNumber? t.toNumber = some t := by
  cases t with
  | scalar s => cases s <;> rfl
  | _ => rfl

end DeclaredType

inductive Label
  | optional
  | required
  | repeated
  deriving DecidableEq, Repr

namespace Label

def ofNumber? (n : Int32) : Option Label :=
  match n.toInt with
  | 1 => some optional
  | 2 => some required
  | 3 => some repeated
  | _ => none

def toNumber : Label → Int32
  | optional => 1
  | required => 2
  | repeated => 3

def ofNumber (n : Option Int32) : Label := (n.bind ofNumber?).getD optional

theorem ofNumber?_toNumber (l : Label) : ofNumber? l.toNumber = some l := by cases l <;> rfl

end Label

end Descriptor

end Protogen
