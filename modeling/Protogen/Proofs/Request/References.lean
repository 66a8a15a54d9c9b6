import Protogen.Proofs.Name.Scopes
import Protogen.Proofs.Outcome
import Protogen.Request.Validation

/-!
# The references of a file

A field refers to a type if it gives a type name, and it is looked up from the
scope of the message that the field stands in. `fileFields` lists all fields of a
file, at any depth, each with that scope; the check of the types of a request is
the check of every entry of these lists.
-/

namespace Protogen

namespace Request

open Descriptor Name

mutual

/-- The fields of a message and of everything nested in it, each with the full
name of its message. -/
def messageFields (scope : String) : MessageDescriptor → List (String × FieldDescriptor)
  | ⟨m, nested⟩ =>
    m.fields.map (fun f => (scope ++ "." ++ m.name, f)) ++
      messagesFields (scope ++ "." ++ m.name) nested

def messagesFields (scope : String) : List MessageDescriptor → List (String × FieldDescriptor)
  | [] => []
  | m :: ms => messageFields scope m ++ messagesFields scope ms

end

def fileFields (file : FileDescriptor) : List (String × FieldDescriptor) :=
  messagesFields (packageScope file.package) file.messages

/-- The field refers to no type, or to one that is defined. -/
def Resolves (types : List String) (scope : String) (f : FieldDescriptor) : Prop :=
  f.typeName = "" ∨ (resolveType? types scope f.typeName).isSome

/-- A name that is looked up as it is. -/
def IsAbsolute (name : String) : Prop := name.toList.head? = some '.'

instance (name : String) : Decidable (IsAbsolute name) :=
  inferInstanceAs (Decidable (name.toList.head? = some '.'))

theorem resolveType?_of_absolute (types : List String) (scope : String) {name : String}
    (h : IsAbsolute name) :
    resolveType? types scope name = if types.contains name then some name else none :=
  if_pos h

theorem resolveType?_of_relative (types : List String) (scope : String) {name : String}
    (h : ¬IsAbsolute name) :
    resolveType? types scope name =
      ((outerScopes scope).map fun s => s ++ "." ++ name).find? types.contains :=
  if_neg h

theorem resolveType?_isSome_of_absolute (types : List String) (scope : String) {name : String}
    (h : IsAbsolute name) : (resolveType? types scope name).isSome ↔ name ∈ types := by
  by_cases hname : name ∈ types <;> simp [resolveType?_of_absolute types scope h, hname]

theorem resolveType?_isSome_of_relative (types : List String) (scope : String) {name : String}
    (h : ¬IsAbsolute name) :
    (resolveType? types scope name).isSome ↔
      ∃ s ∈ outerScopes scope, s ++ "." ++ name ∈ types := by
  simp [resolveType?_of_relative types scope h, List.find?_isSome]

theorem unresolvedField?_eq_none_iff (types : List String) (scope : String)
    (fields : List FieldDescriptor) :
    unresolvedField? types scope fields = none ↔ ∀ f ∈ fields, Resolves types scope f := by
  simp [unresolvedField?, Resolves, imp_iff_not_or, Option.isSome_iff_ne_none]

mutual

theorem checkMessageTypes_eq_ok_iff (types : List String) (file scope : String) :
    ∀ m : MessageDescriptor, checkMessageTypes types file scope m = .ok () ↔
      ∀ p ∈ messageFields scope m, Resolves types p.1 p.2
  | ⟨m, nested⟩ => by
      have ih := checkMessagesTypes_eq_ok_iff types file (scope ++ "." ++ m.name) nested
      have hown := unresolvedField?_eq_none_iff types (scope ++ "." ++ m.name) m.fields
      simp only [checkMessageTypes, messageFields, List.forall_mem_append, List.forall_mem_map]
      rw [← ih, ← hown]
      cases unresolvedField? types (scope ++ "." ++ m.name) m.fields with
      | none => simp
      | some f => simp

theorem checkMessagesTypes_eq_ok_iff (types : List String) (file scope : String) :
    ∀ ms : List MessageDescriptor, checkMessagesTypes types file scope ms = .ok () ↔
      ∀ p ∈ messagesFields scope ms, Resolves types p.1 p.2
  | [] => by simp [checkMessagesTypes, messagesFields]
  | m :: ms => by
      have ihm := checkMessageTypes_eq_ok_iff types file scope m
      have ihms := checkMessagesTypes_eq_ok_iff types file scope ms
      rw [checkMessagesTypes, messagesFields, List.forall_mem_append, ← ihm, ← ihms,
        Outcome.then_eq_ok_iff]

end

/-- The types of a request check if every reference of every file resolves. -/
theorem checkTypes_eq_ok_iff (types : List String) (files : List FileDescriptor) :
    checkTypes types files = .ok () ↔
      ∀ file ∈ files, ∀ p ∈ fileFields file, Resolves types p.1 p.2 := by
  induction files with
  | nil => simp [checkTypes]
  | cons file files ih =>
      have hfile : checkFileTypes types file = .ok () ↔
          ∀ p ∈ fileFields file, Resolves types p.1 p.2 :=
        checkMessagesTypes_eq_ok_iff types file.name _ file.messages
      rw [checkTypes, Outcome.then_eq_ok_iff, List.forall_mem_cons, ← ih, ← hfile]

mutual

/-- What a message defines lies under its scope, whatever the scope is. -/
theorem definedByMessage_eq_map (scope : String) : ∀ m : MessageDescriptor,
    definedByMessage scope m = (definedByMessage "" m).map (scope ++ ·)
  | ⟨m, nested⟩ => by
      have ih := definedByMessages_eq_map (scope ++ "." ++ m.name) nested
      have ih' := definedByMessages_eq_map ("" ++ "." ++ m.name) nested
      rw [definedByMessage, ih, definedByMessage, ih']
      simp [Function.comp_def, String.append_assoc]

theorem definedByMessages_eq_map (scope : String) : ∀ ms : List MessageDescriptor,
    definedByMessages scope ms = (definedByMessages "" ms).map (scope ++ ·)
  | [] => rfl
  | m :: ms => by
      have ihm := definedByMessage_eq_map scope m
      have ihms := definedByMessages_eq_map scope ms
      rw [definedByMessages, ihm, ihms, definedByMessages, List.map_append]

end

mutual

theorem messageFields_eq_map (scope : String) : ∀ m : MessageDescriptor,
    messageFields scope m = (messageFields "" m).map fun p => (scope ++ p.1, p.2)
  | ⟨m, nested⟩ => by
      have ih := messagesFields_eq_map (scope ++ "." ++ m.name) nested
      have ih' := messagesFields_eq_map ("" ++ "." ++ m.name) nested
      rw [messageFields, ih, messageFields, ih']
      simp [Function.comp_def, String.append_assoc]

theorem messagesFields_eq_map (scope : String) : ∀ ms : List MessageDescriptor,
    messagesFields scope ms = (messagesFields "" ms).map fun p => (scope ++ p.1, p.2)
  | [] => rfl
  | m :: ms => by
      have ihm := messageFields_eq_map scope m
      have ihms := messagesFields_eq_map scope ms
      rw [messagesFields, ihm, ihms, messagesFields, List.map_append]

end

/-- The full names of what is nested in a message, as they go on after the name of
the message itself. -/
def nestedTypes (m : MessageDescriptor) : List String :=
  definedByMessages "" m.nested ++ m.body.enums.map fun e => "." ++ e.name

/-- The fields of a message and of everything nested in it, each with its place in
the message. -/
def ownFields (m : MessageDescriptor) : List (String × FieldDescriptor) :=
  m.body.fields.map (fun f => ("", f)) ++ messagesFields "" m.nested

theorem definedByMessage_eq (scope : String) (m : MessageDescriptor) :
    definedByMessage scope m =
      (nestedTypes m).map (scope ++ "." ++ m.name ++ ·) ++ [scope ++ "." ++ m.name] := by
  obtain ⟨body, nested⟩ := m
  rw [definedByMessage, definedByMessages_eq_map]
  simp [nestedTypes, MessageDescriptor.name, Function.comp_def, String.append_assoc]

theorem messageFields_eq (scope : String) (m : MessageDescriptor) :
    messageFields scope m =
      (ownFields m).map fun p => (scope ++ "." ++ m.name ++ p.1, p.2) := by
  obtain ⟨body, nested⟩ := m
  rw [messageFields, messagesFields_eq_map]
  simp [ownFields, MessageDescriptor.name, Function.comp_def]

/-- A file with a message `Track`, a message `Point` nested in it, and a field of
`Track` with the given type name. -/
def trackFile (typeName : String) : FileDescriptor :=
  { FileDescriptor.blank with
    name? := some "track.proto"
    package? := some "tracks"
    syntaxName? := some "proto3"
    messages :=
      [⟨{ MessageBody.blank with
          name? := some "Track"
          fields :=
            [{ FieldDescriptor.blank with
              name? := some "previous"
              number? := some 1
              label? := some Label.optional.toNumber
              type? := some DeclaredType.message.toNumber
              typeName? := some typeName }] },
        [⟨{ MessageBody.blank with name? := some "Point" }, []⟩]⟩] }

end Request

end Protogen
