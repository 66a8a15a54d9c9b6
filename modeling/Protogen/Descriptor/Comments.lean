import Protogen.Descriptor.Basic
import Protogen.Text.Blank

/-!
# Comments of the elements of a file

The source information of a file locates elements by paths of numbers: the
number of a descriptor field, then the index of an element in it, and so on
inwards. A comment is kept under the dotted name of the element its path leads
to. A path that leads to no element contributes nothing, and neither does a
comment of which trimming leaves nothing.
-/

namespace Protogen

namespace Descriptor

open Text

/-- The element at an index, which must not be negative. -/
def elementAt? {α : Type} (xs : List α) (index : Int32) : Option α :=
  if 0 ≤ index.toInt then xs[index.toInt.toNat]? else none

def placeIn (place name : String) : String := place ++ "." ++ name

/-- The place of the element of an enumeration at the end of a path. -/
def EnumDescriptor.placeAt? (e : EnumDescriptor) (place : String) : List Int32 → Option String
  | [] => some place
  | [kind, index] =>
    if kind = 2 then (elementAt? e.values index).map fun v => placeIn place v.name else none
  | _ => none

/-- The place of the element of a message at the end of a path. -/
def MessageDescriptor.placeAt? (m : MessageDescriptor) (place : String) :
    List Int32 → Option String
  | [] => some place
  | [_] => none
  | kind :: index :: rest =>
    if kind = 3 then
      (elementAt? m.nested index).bind fun n => n.placeAt? (placeIn place n.name) rest
    else if kind = 4 then
      (elementAt? m.body.enums index).bind fun e => e.placeAt? (placeIn place e.name) rest
    else if kind = 2 && rest.isEmpty then
      (elementAt? m.body.fields index).map fun f => placeIn place f.name
    else if kind = 8 && rest.isEmpty then
      (elementAt? m.body.oneofs index).map fun o => placeIn place o.name
    else none

namespace FileDescriptor

/-- The dotted name of the element of a file at the end of a path. -/
def placeAt? (file : FileDescriptor) : List Int32 → Option String
  | kind :: index :: rest =>
    if kind = 4 then (elementAt? file.messages index).bind fun m => m.placeAt? m.name rest
    else if kind = 5 then (elementAt? file.enums index).bind fun e => e.placeAt? e.name rest
    else none
  | _ => none

end FileDescriptor

/-- The comment with every line trimmed, and no blank lines at its ends. -/
def trimComment (comment : String) : String :=
  trim ("\n".intercalate ((lines comment).map trim))

namespace Location

/-- The comment before an element, or else the one after it. -/
def comment? (l : Location) : Option String := l.leadingComments?.or l.trailingComments?

end Location

/-- Comments by place; of several for one place the last one counts. -/
structure Comments where
  entries : List (String × String)
  deriving DecidableEq, Repr

namespace Comments

def find? (comments : Comments) (place : String) : Option String :=
  ((comments.entries.filter fun e => e.1 == place).getLast?).map Prod.snd

/-- What a location contributes: the place of its element with its comment. -/
def contribution? (file : FileDescriptor) (l : Location) : Option (String × String) :=
  l.comment?.bind fun comment =>
    (file.placeAt? l.path).bind fun place =>
      if (trimComment comment).isEmpty then none else some (place, trimComment comment)

def ofFile (file : FileDescriptor) : Comments :=
  ⟨(file.sourceInfo?.getD []).filterMap (contribution? file)⟩

end Comments

end Descriptor

end Protogen
