import Protogen.Catalog.Status
import Protogen.Json.Value

/-!
# Error bodies

The catalog explains a failure in a JSON object with a code and a message, both
texts and both optional; other members do not matter. The two may also stand in
an array. A body of any other form is reported as it is, under the reason of the
status.
-/

namespace Protogen

namespace Catalog

open Json

structure ErrorBody where
  code : String
  message : String
  deriving DecidableEq, Repr

namespace ErrorBody

/-- Every key has to be a text. -/
def keyed? : List (Option String × JsonValue) → Option (List (String × JsonValue))
  | [] => some []
  | (some key, value) :: rest => (keyed? rest).map ((key, value) :: ·)
  | (none, _) :: _ => none

/-- The text under a key, empty if there is none. It must not be there twice. -/
def member? (key : String) (members : List (String × JsonValue)) : Option String :=
  match members.filter fun m => m.1 == key with
  | [] => some ""
  | [(_, .text (some content))] => some content
  | _ => none

def ofValue? : JsonValue → Option ErrorBody
  | .object members => do
    let members ← keyed? members
    some ⟨← member? "code" members, ← member? "message" members⟩
  | .array [] => some ⟨"", ""⟩
  | .array [.text (some code)] => some ⟨code, ""⟩
  | .array [.text (some code), .text (some message)] => some ⟨code, message⟩
  | _ => none

def ofBytes? (body : List UInt8) : Option ErrorBody := (JsonValue.ofBytes? body).bind ofValue?

/-- What a failed call says about itself. -/
def ofAnswer (status : Nat) (body : List UInt8) : ErrorBody :=
  (ofBytes? body).getD ⟨reason status, Text.ofUtf8Lossy body⟩

end ErrorBody

end Catalog

end Protogen
