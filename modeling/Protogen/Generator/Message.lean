import Protogen.Generator.Field

/-!
# Messages and enums

A message becomes a structure, followed by a module if anything is nested in it:
the enumerations of its oneofs, its messages other than map entries, its enums.
An enum keeps one variant for each number, named after the first value that has
it.
-/

namespace Protogen

namespace Generator

open Descriptor Name Source

/-- The values with a number that no value before them has. -/
def firstOfNumber (seen : List Int32) : List EnumValueDescriptor → List EnumValueDescriptor
  | [] => []
  | v :: vs =>
    if seen.contains v.number then firstOfNumber seen vs
    else v :: firstOfNumber (v.number :: seen) vs

/-- The members of the oneof with the given index. -/
def oneofMembers (m : MessageBody) (index : Nat) : List FieldDescriptor :=
  m.fields.filter fun f =>
    f.isOneofMember && (f.oneofIndex?.map Int32.toInt) == some (Int.ofNat index)

/-- What a message adds to itself: members of its structure, and items of its
module. -/
structure Parts where
  members : List Member
  items : List Item

namespace Parts

def empty : Parts := ⟨[], []⟩

def append (p q : Parts) : Parts := ⟨p.members ++ q.members, p.items ++ q.items⟩

end Parts

namespace Context

def enumVariant (ctx : Context) (place : String) (e : EnumDescriptor)
    (value : EnumValueDescriptor) : Generated EnumVariant := do
  named (checkName value.name "enum value")
  let name ← (identifier (variantName e.name value.name)).mapError
    (.enumValueName e.name value.name)
  .ok ⟨ctx.docs (placeIn place value.name), name, value.number, value.name⟩

def enumItem (ctx : Context) (place : String) (e : EnumDescriptor) : Generated Item := do
  named (checkName e.name "enum")
  let name ← named (typeIdentifier e.name)
  let variants ← (firstOfNumber [] e.values).mapM (ctx.enumVariant place e)
  if variants.isEmpty then .error (.emptyEnum e.name)
  else .ok (.enum (ctx.docs place) name variants)

/-- The member and the item for a oneof with the given fields. -/
def oneofParts (ctx : Context) (m : MessageBody) (place : String) (depth : Nat) (name : String)
    (fields : List FieldDescriptor) : Generated Parts := do
  named (checkName name "oneof")
  let memberName ← named (fieldIdentifier name)
  let typeName ← named (typeIdentifier name)
  let moduleName ← named (moduleIdentifier m.name)
  let docs := ctx.docs (placeIn place name)
  let variants ← fields.mapM (ctx.variant place depth)
  .ok
    { members := [.oneof docs memberName moduleName typeName (fields.map FieldDescriptor.number)]
      items := [.oneof docs typeName variants] }

/-- The parts for the oneofs from the given index on. A oneof that only stands
for an optional field has no members of its own and adds nothing. -/
def oneofsParts (ctx : Context) (m : MessageBody) (place : String) (depth : Nat) :
    Nat → List OneofDescriptor → Generated Parts
  | _, [] => .ok .empty
  | index, o :: os =>
    if (oneofMembers m index).isEmpty then ctx.oneofsParts m place depth (index + 1) os
    else do
      let first ← ctx.oneofParts m place depth o.name (oneofMembers m index)
      let rest ← ctx.oneofsParts m place depth (index + 1) os
      .ok (first.append rest)

def moduleDoc (message : String) : String :=
  " Nested message and enum types in `" ++ message ++ "`."

/-- The module of a message, if it has any items. -/
def nestedModule (m : MessageBody) (items : List Item) : Generated (List Item) :=
  if items.isEmpty then .ok []
  else do
    let name ← named (moduleIdentifier m.name)
    .ok [.module [moduleDoc m.name] name items]

/-- The identifier of the structure of a message. -/
def structName (m : MessageBody) : Generated String := do
  named (checkName m.name "message")
  if pascal m.name = "Self" then .error (.reservedMessageName m.name)
  else named (typeIdentifier m.name)

mutual

/-- The items of a message that lies `depth` modules deep. -/
def messageItems (ctx : Context) (place : String) (depth : Nat) :
    MessageDescriptor → Generated (List Item)
  | ⟨m, nested⟩ => do
    let name ← structName m
    let members ← (m.fields.filter fun f => !f.isOneofMember).mapM fun f =>
      ctx.member place f depth
    let oneofs ← ctx.oneofsParts m place depth 0 m.oneofs
    let messages ← ctx.nestedItems place (depth + 1) nested
    let enums ← m.enums.mapM fun e => ctx.enumItem (placeIn place e.name) e
    let module ← nestedModule m (oneofs.items ++ messages ++ enums)
    .ok (.struct (ctx.docs place) name (members ++ oneofs.members) :: module)

/-- The items of the messages nested in the message at `place`, without those of
map entries. -/
def nestedItems (ctx : Context) (place : String) (depth : Nat) :
    List MessageDescriptor → Generated (List Item)
  | [] => .ok []
  | m :: ms =>
    if m.isMapEntry then ctx.nestedItems place depth ms
    else do
      let first ← ctx.messageItems (placeIn place m.name) depth m
      let rest ← ctx.nestedItems place depth ms
      .ok (first ++ rest)

end

end Context

end Generator

end Protogen
